import DemandPaging.Proofs.Ledger.Counts
import DemandPaging.Proofs.Pager.Sound
import DemandPaging.Proofs.Positions

/-!
# How many slots are claimed

Each claimed slot belongs to one page in swap, and different slots to different
pages.  So no more slots are claimed than pages are swapped, and no more than
there are pages in user memory.  The first bound leaves a free slot whenever a
page has to leave to make room for a new one; the second keeps every slot that
is ever claimed in a range where its offset in the file is a word.
-/

namespace DemandPaging

namespace Pager

variable {pager : Pager} {pending : Option Nat}

theorem Sound.isClaimed_of_mem_positions {slot : Nat}
    (member : slot ∈ positions id pager.swap.used) :
    pager.swap.isClaimed slot = true := by
  obtain ⟨isUsed, found, rfl⟩ := mem_positions.mp member
  exact SwapSpace.isClaimed_iff.mpr found

theorem Sound.inUse_le_swappedCount (sound : pager.Sound pending) :
    pager.swap.inUse ≤ pager.ledger.swappedCount := by
  rw [sound.swap, count_eq_countP, sound.ledger.swappedCount_eq,
    ← card_positions Tracked.isSwapped]
  apply countP_le_card fun slot handle => ∃ tracked page,
    pager.ledger.places[handle]? = some tracked ∧
      tracked.residence = .swapped page slot
  · intro slot member
    obtain ⟨page, known⟩ := (sound.claimed slot).mp
      (isClaimed_of_mem_positions member)
    obtain ⟨handle, tracked, _, place, swapped⟩ :=
      sound.ledger.find?_of_residenceOf? known
    refine ⟨handle, mem_positions.mpr ⟨tracked, place, ?_⟩, tracked, page,
      place, swapped⟩
    rw [Tracked.isSwapped, swapped]
    rfl
  · rintro first second handle ⟨tracked, page, place, swapped⟩
      ⟨other, otherPage, otherPlace, otherSwapped⟩
    cases place.symm.trans otherPlace
    cases swapped.symm.trans otherSwapped
    rfl

theorem Sound.swappedCount_eq_inUse (sound : pager.Sound pending) :
    pager.ledger.swappedCount = pager.swap.inUse := by
  refine Nat.le_antisymm ?_ sound.inUse_le_swappedCount
  rw [sound.swap, count_eq_countP, sound.ledger.swappedCount_eq,
    ← card_positions id]
  apply countP_le_card fun handle slot => ∃ tracked page,
    pager.ledger.places[handle]? = some tracked ∧
      tracked.residence = .swapped page slot
  · intro handle member
    obtain ⟨tracked, place, isSwapped⟩ := mem_positions.mp member
    obtain ⟨page, slot, swapped⟩ :
        ∃ page slot, tracked.residence = .swapped page slot := by
      rw [Tracked.isSwapped] at isSwapped
      cases same : tracked.residence with
      | swapped page slot => exact ⟨page, slot, rfl⟩
      | free => rw [same] at isSwapped; cases isSwapped
      | resident _ => rw [same] at isSwapped; cases isSwapped
    have claimed := (sound.claimed slot).mpr
      ⟨page, sound.ledger.residenceOf?_of_swapped place swapped⟩
    refine ⟨slot, mem_positions.mpr ⟨true, ?_, rfl⟩, tracked, page, place,
      swapped⟩
    exact SwapSpace.isClaimed_iff.mp claimed
  · rintro first second slot ⟨tracked, page, place, swapped⟩
      ⟨other, otherPage, otherPlace, otherSwapped⟩
    have known := sound.ledger.residenceOf?_of_swapped place swapped
    have otherKnown :=
      sound.ledger.residenceOf?_of_swapped otherPlace otherSwapped
    have samePage := sound.slot_inj _ _ _ known otherKnown
    subst samePage
    have tracks := (Tracked.tracks_of_swapped swapped).mpr rfl
    have otherTracks := (Tracked.tracks_of_swapped otherSwapped).mpr rfl
    exact sound.ledger.handle_unique place otherPlace tracks.1 otherTracks.1
      (tracks.2.trans otherTracks.2.symm)

theorem Sound.inUse_le_pages (sound : pager.Sound pending) :
    pager.swap.inUse ≤ addressLimit / pageSize := by
  rw [sound.swap, count_eq_countP,
    ← Finset.card_range (addressLimit / pageSize)]
  apply countP_le_card fun slot number => ∃ page,
    pager.residenceOf? page = some (.swapped page slot) ∧
      page / pageSize = number
  · intro slot member
    obtain ⟨page, known⟩ := (sound.claimed slot).mp
      (isClaimed_of_mem_positions member)
    obtain ⟨_, _, _, _, isPagedOut⟩ := sound.tracked page _ known
    have isPresent : (pager.entryAt page).isPresent = true := by
      rw [Entry.isPresent, isPagedOut]
      exact Bool.or_true _
    have inside := sound.page_lt page isPresent
    refine ⟨page / pageSize, ?_, page, known, rfl⟩
    rw [Finset.mem_range]
    simp only [addressLimit, pageSize] at *
    omega
  · rintro first second number ⟨page, known, position⟩
      ⟨other, otherKnown, otherPosition⟩
    have aligned := (sound.tracked page _ known).2.1
    have otherAligned := (sound.tracked other _ otherKnown).2.1
    have samePage : page = other := by
      rw [← aligned, ← otherAligned, Address.pageBase, Address.pageBase,
        position, otherPosition]
    rw [samePage, otherKnown] at known
    cases known
    rfl

theorem Sound.residentCount_le_turns (sound : pager.Sound pending)
    (ceiling : pager.ledger.residentCount ≤ pager.ledger.maxResident) :
    pager.ledger.residentCount ≤ pager.turns := by
  refine Nat.le_min.mpr ⟨ceiling, ?_⟩
  rw [sound.ledger.residentCount_eq,
    ← Finset.card_range (addressLimit / pageSize)]
  apply countP_le_card fun handle number => ∃ tracked page,
    pager.ledger.places[handle]? = some tracked ∧
      tracked.residence = .resident page ∧ page / pageSize = number
  · intro handle member
    obtain ⟨tracked, place, isResident⟩ := mem_positions.mp member
    obtain ⟨page, resident⟩ : ∃ page, tracked.residence = .resident page := by
      rw [Tracked.isResident] at isResident
      cases same : tracked.residence with
      | resident page => exact ⟨page, rfl⟩
      | free => rw [same] at isResident; cases isResident
      | swapped _ _ => rw [same] at isResident; cases isResident
    have known := sound.ledger.residenceOf?_of_resident place resident
    obtain ⟨_, _, _, isValid, _⟩ := sound.tracked page _ known
    have isPresent : (pager.entryAt page).isPresent = true := by
      rw [Entry.isPresent, isValid]
      rfl
    have inside := sound.page_lt page isPresent
    refine ⟨page / pageSize, ?_, tracked, page, place, resident, rfl⟩
    rw [Finset.mem_range]
    simp only [addressLimit, pageSize] at *
    omega
  · rintro first second number ⟨tracked, page, place, resident, position⟩
      ⟨other, otherPage, otherPlace, otherResident, otherPosition⟩
    have known := sound.ledger.residenceOf?_of_resident place resident
    have otherKnown :=
      sound.ledger.residenceOf?_of_resident otherPlace otherResident
    have aligned := (sound.tracked page _ known).2.1
    have otherAligned := (sound.tracked otherPage _ otherKnown).2.1
    have samePage : page = otherPage := by
      rw [← aligned, ← otherAligned, Address.pageBase, Address.pageBase,
        position, otherPosition]
    subst samePage
    have tracks := (Tracked.tracks_of_resident resident).mpr rfl
    have otherTracks := (Tracked.tracks_of_resident otherResident).mpr rfl
    exact sound.ledger.handle_unique place otherPlace tracks.1 otherTracks.1
      (tracks.2.trans otherTracks.2.symm)

/-- Where a new page can be tracked but memory is full, a slot is free for the
page that leaves. -/
theorem Sound.freeSlots_ne_zero (sound : pager.Sound pending)
    (residentFull : pager.ledger.residentCount = pager.ledger.maxResident)
    (notFull : pager.ledger.isFull = false) : pager.swap.freeSlots ≠ 0 := by
  have claimed := sound.inUse_le_swappedCount
  have trackedLe := sound.ledger.trackedCount_le
  have room := sound.fits.maxSwap_le
  have capacity := sound.fits.capacity_eq
  have ceiling := sound.fits.maxResident_eq
  have different : pager.ledger.trackedCount ≠ pager.ledger.capacity := by
    simpa [Ledger.isFull] using notFull
  rw [Ledger.trackedCount] at trackedLe different
  rw [SwapSpace.freeSlots]
  omega

end Pager

end DemandPaging
