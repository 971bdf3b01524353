import DemandPaging.Proofs.Mapping.Enrolment
import DemandPaging.Proofs.Mapping.Houses

/-!
# No page is lost when one comes to be tracked

To track a page may take that another one leaves memory.  Every page keeps its
permissions and its bytes then, the one that leaves among them, and the space
stays nearly well-formed (`Newcomer.nearlyFormed`).  So it does where the page
that was to leave is refused (`Candidate.retains`).
-/

namespace DemandPaging

namespace AddressSpace

variable {state roomy expected after : Hosted AddressSpace}
  {pending : Option Nat} {page address : Nat}

/-- A refused transfer is of no concern to any page. -/
theorem Candidate.retains (candidate : Candidate state none)
    (consistent : state.focus.ledger.IsConsistent)
    (aligned : state.focus.ledger.IsAligned)
    (frames : (pager state).frames.IsConsistent) :
    (pager state).Retains (pager candidate.refused) := by
  have chances := chances_of_select consistent aligned candidate.selects
  exact {
    shape := ⟨rfl, rfl, chances.ranks.maxResident, chances.ranks.capacity,
      rfl, rfl⟩
    alike := fun address => (entryAt_of_chances chances address).alike
    ledger := chances.ranks.isConsistent
    residentCount := chances.ranks.residentCount
    residenceOf? := chances.ranks.residenceOf?
    swap := rfl
    held := ⟨rfl, frames, fun _ _ => rfl⟩ }

namespace Departure

variable (departure : Departure state none)

theorem frames_after :
    (pager departure.after).frames = departure.frames :=
  departure.pool_after

theorem contents?_slot :
    (pager departure.after).swap.contents? departure.slot =
      some departure.contents.toList :=
  (departure.slotBytes?_after departure.slot).trans (if_pos rfl)

theorem contents?_of_ne {slot : Nat} (different : slot ≠ departure.slot) :
    (pager departure.after).swap.contents? slot =
      (pager state).swap.contents? slot :=
  (departure.slotBytes?_after slot).trans (if_neg different)

theorem isConsistent_target (consistent : state.focus.swap.IsConsistent) :
    departure.target.IsConsistent := by
  have claims : state.focus.swap.claim =
      (some departure.slot, departure.target) := departure.targets
  obtain ⟨isFree, _, taken⟩ := SwapSpace.claim_eq_some_iff.mp claims
  rw [taken]
  exact consistent.take isFree

variable (formed : NearlyFormed pending state)

include formed

theorem sameButMarks_entry :
    ((pager state).entryAt departure.page).SameButMarks departure.entry := by
  obtain ⟨entry, held, _, same⟩ :=
    departure.entry_before formed.ledger formed.isAligned
  have found : (pager state).entryAt departure.page = entry :=
    PageTable.entryAt_of_get? held
  rwa [found]

theorem preserves :
    (pager state).Preserves (pager departure.after) departure.page where
  toDiffersAt := departure.differsAt formed.ledger formed.isAligned
  slots other slot _ held := by
    refine departure.contents?_of_ne ?_
    rintro rfl
    have claimed := (formed.nearly.isClaimed_iff_residenceOf? formed.ledger
      departure.slot).mpr ⟨other, held⟩
    cases (departure.isClaimed_after_iff 0).1.symm.trans claimed
  frames address elsewhere isValid := by
    have aligned :=
      (departure.differsAt formed.ledger formed.isAligned).aligned
    have same := departure.sameButMarks_entry formed
    rw [departure.frames_after,
      FramePool.contents?_of_release departure.released, if_neg]
    · rfl
    · intro sameFrame
      rw [same.address] at sameFrame
      have samePage := formed.houses.frame_inj address departure.page isValid
        (same.isValid.symm.trans departure.canLeave.isValid) sameFrame
      exact elsewhere (samePage.trans aligned)

theorem houses : (pager departure.after).Houses := by
  have setting := departure.setting_after formed.ledger formed.isAligned
  refine formed.houses.of_preserves (departure.preserves formed)
    ⟨setting.config, setting.isPaging, setting.maxResident, setting.capacity,
      setting.slots, ?_⟩
    (departure.isConsistent_target formed.houses.swap) ?_
    (Pager.housesAt_of_not_isValid
      (departure.isPagedOut_page formed.ledger formed.isAligned).1
      fun _ => departure.canLeave.inside)
  · rw [departure.frames_after]
    exact FramePool.total_of_release departure.released
  · rw [departure.frames_after]
    exact formed.houses.frames.release departure.released

theorem nearlyFormed : NearlyFormed pending departure.after where
  served := by
    change state.focus.pool < (state.host.setPool _ _).pools.size
    rw [Host.setPool, Array.size_setIfInBounds]
    exact formed.served
  isPaging := formed.isPaging
  ledger := departure.isConsistent_after formed.ledger formed.isAligned
  nearly := departure.nearlyTracks formed.nearly formed.ledger
  houses := departure.houses formed

theorem permissions_page :
    ((pager departure.after).entryAt departure.page).flags.permissions =
      ((pager state).entryAt departure.page).flags.permissions := by
  have boundary :=
    (departure.differsAt formed.ledger formed.isAligned).aligned
  obtain ⟨entry, held, chosen, same⟩ :=
    departure.entry_before formed.ledger formed.isAligned
  have shown := departure.get?_after formed.ledger formed.isAligned
    departure.page
  rw [held, Option.map_some, if_pos boundary, ← chosen] at shown
  have left : (pager departure.after).entryAt departure.page =
      Entry.pagedOut departure.entry.flags := PageTable.entryAt_of_get? shown
  have found : (pager state).entryAt departure.page = entry :=
    PageTable.entryAt_of_get? held
  rw [left, found, ← same.permissions]
  rfl

/-- No page is changed by a departure, not even the one that leaves. -/
theorem view? : view? departure.after = AddressSpace.view? state := by
  have preserves := departure.preserves formed
  funext address
  by_cases here : Address.pageBase address = departure.page
  case neg => exact preserves.view? formed.ledger here
  have same := departure.sameButMarks_entry formed
  have isValid := same.isValid.symm.trans departure.canLeave.isValid
  obtain ⟨notValid, isPagedOut⟩ :=
    departure.isPagedOut_page formed.ledger formed.isAligned
  have residence := (departure.residenceOf?_after formed.ledger
    formed.isAligned departure.page).trans (if_pos rfl)
  have bytes : (pager departure.after).bytesAt? departure.page =
      (pager state).bytesAt? departure.page := by
    rw [Pager.bytesAt?, Pager.bytesAt?, if_pos isValid, notValid,
      if_neg Bool.false_ne_true, if_pos isPagedOut, residence,
      ← same.address]
    change (pager departure.after).swap.contents? departure.slot =
      ((state.host.pool state.focus.pool).contents? _).map _
    rw [departure.contents?_slot, departure.canLeave.lent]
    rfl
  have sameEntry : ∀ space : Pager,
      space.entryAt address = space.entryAt departure.page := fun _ =>
    Pager.entryAt_of_pageBase_eq here
  change (pager departure.after).view? address = (pager state).view? address
  rw [Pager.view?, Pager.view?, here, sameEntry, sameEntry, bytes,
    departure.permissions_page formed, Entry.isPresent, Entry.isPresent,
    isValid, isPagedOut, Bool.or_true, Bool.true_or]

end Departure

/-- Room for a page is made without harm to the others. -/
theorem Vacancy.nearlyFormed (vacancy : Vacancy state roomy)
    (formed : NearlyFormed pending state) :
    NearlyFormed pending roomy ∧ view? roomy = view? state := by
  cases vacancy with
  | vacant _ => exact ⟨formed, rfl⟩
  | vacated _ departure =>
      exact ⟨departure.nearlyFormed formed, departure.view? formed⟩

namespace Newcomer

variable (newcomer : Newcomer state page)
  (formed : NearlyFormed pending state)
  (aligned : Address.pageBase page = page)

include formed aligned

theorem preserves :
    (pager newcomer.roomy).Preserves (pager newcomer.after) page where
  toDiffersAt := newcomer.differsAt formed.nearly formed.ledger aligned
  slots _ _ _ _ := rfl
  frames _ _ _ := rfl

theorem houses : (pager newcomer.after).Houses := by
  have formedRoomy := (newcomer.vacancy.nearlyFormed formed).1
  have houses := formedRoomy.houses
  obtain ⟨_, _, _, settles⟩ := newcomer.settled formedRoomy.ledger
  have isValid := newcomer.isValid_roomy formed.nearly formed.ledger aligned
  refine houses.of_preserves (newcomer.preserves formed aligned)
    ⟨rfl, rfl, settles.maxResident, settles.capacity, rfl, rfl⟩ houses.swap
    houses.frames ?_
  have sameEntry :=
    newcomer.entryAt_after formed.nearly formed.ledger aligned page
  exact {
    page_lt := fun _ => houses.page_lt page (Pager.isPresent_of_isValid isValid)
    readable := by
      rw [sameEntry]
      exact houses.readable page
    framed := by
      rw [sameEntry]
      exact houses.framed page
    frame_new := by
      rw [sameEntry]
      intro _ address elsewhere addressValid sameFrame
      have samePage :=
        houses.frame_inj address page addressValid isValid sameFrame
      exact elsewhere (samePage.trans aligned) }

theorem nearlyFormed : NearlyFormed none newcomer.after where
  served := (newcomer.vacancy.nearlyFormed formed).1.served
  isPaging := (newcomer.vacancy.nearlyFormed formed).1.isPaging
  ledger := newcomer.isConsistent_after formed.nearly formed.ledger
  nearly := newcomer.nearlyTracks formed.nearly formed.ledger aligned
  houses := newcomer.houses formed aligned

/-- No page is changed where one comes to be tracked. -/
theorem view? :
    AddressSpace.view? newcomer.after = AddressSpace.view? state := by
  obtain ⟨formedRoomy, sameView⟩ := newcomer.vacancy.nearlyFormed formed
  rw [← sameView]
  funext address
  by_cases here : Address.pageBase address = page
  case neg =>
    exact (newcomer.preserves formed aligned).view? formedRoomy.ledger here
  have sameEntry :=
    newcomer.entryAt_after formed.nearly formed.ledger aligned
  have isValid := newcomer.isValid_roomy formed.nearly formed.ledger aligned
  refine Pager.view?_eq_of_bytesAt? ?_ ?_
  · rw [sameEntry]
    exact (Entry.SameButMarks.refl _).alike
  · rw [here, Pager.bytesAt?, Pager.bytesAt?, sameEntry, if_pos isValid,
      if_pos isValid]
    rfl

end Newcomer

end AddressSpace

end DemandPaging
