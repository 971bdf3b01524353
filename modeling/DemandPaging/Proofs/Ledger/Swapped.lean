import DemandPaging.Proofs.Ledger.Operations
import DemandPaging.Proofs.Positions
import DemandPaging.Replacement

/-!
# The pages in swap

The pages that a ledger has in swap are as many as its counter says.  One goes
to swap, comes back or is not tracked any more where a transition of the ledger
says so, and nowhere else: what a policy does to a ledger leaves them alone.
-/

namespace DemandPaging

theorem Tracked.isFree_of_isSwapped {tracked : Tracked}
    (swapped : tracked.isSwapped = true) : tracked.isFree = false := by
  obtain ⟨residence, recency⟩ := tracked
  cases residence with
  | swapped page slot => rfl
  | free => cases swapped
  | resident page => cases swapped

theorem Tracked.exists_slot {tracked : Tracked} {page : Nat}
    (tracks : tracked.Tracks page) (swapped : tracked.isSwapped = true) :
    ∃ slot, tracked.residence = .swapped page slot := by
  obtain ⟨residence, recency⟩ := tracked
  cases residence with
  | swapped other slot =>
      cases (tracks_of_swapped rfl).mp tracks
      exact ⟨slot, rfl⟩
  | free => cases swapped
  | resident other => cases swapped

namespace Ledger

variable {ledger after : Ledger} {handle page slot recency now : Nat}
  {old new : Tracked}

/-- The pages that are in swap. -/
def swappedPages (ledger : Ledger) : Finset Nat :=
  (positions Tracked.isSwapped ledger.places).image fun handle =>
    (ledger.places[handle]?.map Tracked.address).getD 0

theorem mem_swappedPages : page ∈ ledger.swappedPages ↔
    ∃ (handle : Nat) (tracked : Tracked),
      ledger.places[handle]? = some tracked ∧ tracked.isSwapped = true ∧
        tracked.address = page := by
  simp only [swappedPages, Finset.mem_image, mem_positions]
  constructor
  · rintro ⟨handle, ⟨tracked, place, swapped⟩, same⟩
    rw [place] at same
    exact ⟨handle, tracked, place, swapped, same⟩
  · rintro ⟨handle, tracked, place, swapped, same⟩
    refine ⟨handle, ⟨tracked, place, swapped⟩, ?_⟩
    rw [place]
    exact same

theorem IsConsistent.card_swappedPages (consistent : ledger.IsConsistent) :
    ledger.swappedPages.card = ledger.swappedCount := by
  rw [consistent.swappedCount_eq, ← card_positions, swappedPages,
    Finset.card_image_of_injOn]
  intro first isFirst second isSecond same
  obtain ⟨page, place, swapped⟩ := mem_positions.mp isFirst
  obtain ⟨other, otherPlace, otherSwapped⟩ := mem_positions.mp isSecond
  dsimp only at same
  rw [place, otherPlace] at same
  exact consistent.handle_unique place otherPlace
    (Tracked.isFree_of_isSwapped swapped)
    (Tracked.isFree_of_isSwapped otherSwapped) same

theorem IsConsistent.mem_swappedPages_iff (consistent : ledger.IsConsistent) :
    page ∈ ledger.swappedPages ↔
      ∃ residence, ledger.residenceOf? page = some residence ∧
        residence.isSwapped = true := by
  rw [mem_swappedPages]
  constructor
  · rintro ⟨handle, tracked, place, swapped, same⟩
    exact ⟨tracked.residence, consistent.residenceOf?_eq_some_iff.mpr
      ⟨handle, tracked, place, ⟨Tracked.isFree_of_isSwapped swapped, same⟩,
        rfl⟩, swapped⟩
  · rintro ⟨residence, known, swapped⟩
    obtain ⟨handle, tracked, place, tracks, rfl⟩ :=
      consistent.residenceOf?_eq_some_iff.mp known
    exact ⟨handle, tracked, place, swapped, tracks.2⟩

namespace Puts

variable (puts : ledger.Puts handle old new after)
  (consistent : ledger.IsConsistent)
include puts consistent

theorem mem_swappedPages_old (tracks : old.Tracks page) :
    page ∈ ledger.swappedPages ↔ old.isSwapped = true := by
  have known := consistent.residenceOf?_eq_some_iff.mpr
    ⟨handle, old, puts.held, tracks, rfl⟩
  rw [consistent.mem_swappedPages_iff, known]
  simp [Tracked.isSwapped]

theorem not_mem_of_fresh (tracks : new.Tracks page)
    (untracked : ¬old.Tracks page) : page ∉ ledger.swappedPages := by
  rw [consistent.mem_swappedPages_iff,
    consistent.residenceOf?_eq_none_iff.mpr (puts.fresh page tracks untracked)]
  simp

theorem mem_swappedPages_other (untracked : ¬old.Tracks page)
    (still : ¬new.Tracks page) :
    page ∈ after.swappedPages ↔ page ∈ ledger.swappedPages := by
  classical
  rw [(puts.isConsistent consistent).mem_swappedPages_iff,
    consistent.mem_swappedPages_iff, puts.residenceOf? consistent,
    if_neg still, if_neg untracked]

theorem mem_swappedPages_new (tracks : new.Tracks page) :
    page ∈ after.swappedPages ↔ new.isSwapped = true := by
  classical
  rw [(puts.isConsistent consistent).mem_swappedPages_iff,
    puts.residenceOf? consistent, if_pos tracks]
  simp [Tracked.isSwapped]

theorem not_mem_swappedPages (tracks : old.Tracks page)
    (still : ¬new.Tracks page) : page ∉ after.swappedPages := by
  classical
  rw [(puts.isConsistent consistent).mem_swappedPages_iff,
    puts.residenceOf? consistent, if_neg still, if_pos tracks]
  simp

theorem swappedPages_eq (before : old.isSwapped = false)
    (afterwards : new.isSwapped = false) :
    after.swappedPages = ledger.swappedPages := by
  ext page
  by_cases isNew : new.Tracks page
  · rw [puts.mem_swappedPages_new consistent isNew, afterwards]
    by_cases isOld : old.Tracks page
    · rw [puts.mem_swappedPages_old consistent isOld, before]
    · simp [puts.not_mem_of_fresh consistent isNew isOld]
  · by_cases isOld : old.Tracks page
    · rw [puts.mem_swappedPages_old consistent isOld, before]
      simp [puts.not_mem_swappedPages consistent isOld isNew]
    · exact puts.mem_swappedPages_other consistent isOld isNew

/-- A page goes to swap. -/
theorem swappedPages_eq_insert (before : old.isSwapped = false)
    (swapped : new.residence = .swapped page slot)
    (goesOn : ∀ other, old.Tracks other → other = page) :
    page ∉ ledger.swappedPages ∧
      after.swappedPages = insert page ledger.swappedPages := by
  have tracks : new.Tracks page := (Tracked.tracks_of_swapped swapped).mpr rfl
  constructor
  · by_cases isOld : old.Tracks page
    · rw [puts.mem_swappedPages_old consistent isOld, before]
      exact Bool.false_ne_true
    · exact puts.not_mem_of_fresh consistent tracks isOld
  · ext other
    rw [Finset.mem_insert]
    by_cases same : other = page
    · subst same
      simp [puts.mem_swappedPages_new consistent tracks, Tracked.isSwapped,
        swapped, Residence.isSwapped]
    · rw [puts.mem_swappedPages_other consistent]
      · simp [same]
      · exact fun isOld => same (goesOn other isOld)
      · exact fun isNew => same ((Tracked.tracks_of_swapped swapped).mp isNew)

/-- A page comes back from swap, or is not tracked any more. -/
theorem swappedPages_eq_erase (swapped : old.residence = .swapped page slot)
    (afterwards : new.isSwapped = false)
    (goesOn : ∀ other, new.Tracks other → other = page) :
    page ∈ ledger.swappedPages ∧
      after.swappedPages = ledger.swappedPages.erase page := by
  have tracks : old.Tracks page := (Tracked.tracks_of_swapped swapped).mpr rfl
  constructor
  · rw [puts.mem_swappedPages_old consistent tracks, Tracked.isSwapped, swapped]
    rfl
  · ext other
    rw [Finset.mem_erase]
    by_cases same : other = page
    · subst same
      by_cases isNew : new.Tracks other
      · simp [puts.mem_swappedPages_new consistent isNew, afterwards]
      · simp [puts.not_mem_swappedPages consistent tracks isNew]
    · rw [puts.mem_swappedPages_other consistent]
      · simp [same]
      · exact fun isOld => same ((Tracked.tracks_of_swapped swapped).mp isOld)
      · exact fun isNew => same (goesOn other isNew)

end Puts

/-- The same pages are in swap, in a ledger that is still consistent. -/
structure SameSwap (ledger after : Ledger) : Prop where
  isConsistent : after.IsConsistent
  swappedPages : after.swappedPages = ledger.swappedPages

/-- The page went to swap. -/
structure GoesOut (ledger : Ledger) (page : Nat) (after : Ledger) : Prop where
  isConsistent : after.IsConsistent
  not_mem : page ∉ ledger.swappedPages
  swappedPages : after.swappedPages = insert page ledger.swappedPages

/-- The page is not in swap any more. -/
structure ComesBack (ledger : Ledger) (page : Nat) (after : Ledger) :
    Prop where
  isConsistent : after.IsConsistent
  mem : page ∈ ledger.swappedPages
  swappedPages : after.swappedPages = ledger.swappedPages.erase page

theorem SameSwap.refl (consistent : ledger.IsConsistent) :
    ledger.SameSwap ledger :=
  ⟨consistent, rfl⟩

theorem SameSwap.trans {middle : Ledger} (first : ledger.SameSwap middle)
    (second : middle.SameSwap after) : ledger.SameSwap after :=
  ⟨second.isConsistent, second.swappedPages.trans first.swappedPages⟩

theorem ComesBack.trans_same {middle : Ledger}
    (comes : ledger.ComesBack page middle) (same : middle.SameSwap after) :
    ledger.ComesBack page after :=
  ⟨same.isConsistent, comes.mem, same.swappedPages.trans comes.swappedPages⟩

theorem goesOut_of_markSwapped (consistent : ledger.IsConsistent)
    (marked : ledger.markSwapped handle page slot = .ok after) :
    ledger.GoesOut page after := by
  obtain ⟨old, held, resident, rfl⟩ := markSwapped_eq_ok_iff.mp marked
  have puts : ledger.Puts handle old ⟨.swapped page slot, old.recency⟩ _ :=
    puts_swapped consistent held resident
  obtain ⟨absent, same⟩ := puts.swappedPages_eq_insert consistent
    (by rw [Tracked.isSwapped, resident]; rfl) rfl
    fun other => (Tracked.tracks_of_resident resident).mp
  exact ⟨puts.isConsistent consistent, absent, same⟩

theorem sameSwap_of_markResident (consistent : ledger.IsConsistent)
    (held : ledger.places[handle]? = some old) (isFree : old.isFree = true)
    (marked : ledger.markResident handle page = .ok after) :
    ledger.SameSwap after := by
  obtain ⟨_, other, place, kinds⟩ := markResident_eq_ok_iff.mp marked
  cases held.symm.trans place
  rcases kinds with ⟨unused, missing, rfl⟩ | ⟨slot, swapped, _⟩
  · have puts := puts_resident_of_free held unused missing
    exact ⟨puts.isConsistent consistent, puts.swappedPages_eq consistent
      (by rw [Tracked.isSwapped, unused]; rfl) rfl⟩
  · rw [Tracked.isFree, swapped] at isFree
    cases isFree

theorem comesBack_of_markResident (consistent : ledger.IsConsistent)
    (mem : page ∈ ledger.swappedPages)
    (marked : ledger.markResident handle page = .ok after) :
    ledger.ComesBack page after := by
  obtain ⟨_, old, held, kinds⟩ := markResident_eq_ok_iff.mp marked
  rcases kinds with ⟨_, missing, _⟩ | ⟨slot, swapped, rfl⟩
  · obtain ⟨residence, known, _⟩ := consistent.mem_swappedPages_iff.mp mem
    rw [consistent.residenceOf?_eq_none_iff.mpr missing] at known
    cases known
  · have puts := puts_resident_of_swapped consistent held swapped
    have same := puts.swappedPages_eq_erase consistent swapped rfl
      fun other => (Tracked.tracks_of_resident rfl).mp
    exact ⟨puts.isConsistent consistent, mem, same.2⟩

theorem sameSwap_of_release (consistent : ledger.IsConsistent)
    (kept : old.isSwapped = false)
    (released : ledger.release handle = .ok (old, after)) :
    ledger.SameSwap after := by
  obtain ⟨held, kinds⟩ := release_eq_ok_iff.mp released
  rcases kinds with ⟨page, resident, rfl⟩ | ⟨page, slot, swapped, _⟩
  · have puts := puts_unused_of_resident consistent held resident
    exact ⟨puts.isConsistent consistent,
      puts.swappedPages_eq consistent kept rfl⟩
  · rw [Tracked.isSwapped, swapped] at kept
    cases kept

theorem comesBack_of_release (consistent : ledger.IsConsistent)
    (swapped : old.residence = .swapped page slot)
    (released : ledger.release handle = .ok (old, after)) :
    ledger.ComesBack page after := by
  obtain ⟨held, kinds⟩ := release_eq_ok_iff.mp released
  rcases kinds with ⟨other, resident, _⟩ | ⟨other, otherSlot, isSwapped, rfl⟩
  · rw [swapped] at resident
    cases resident
  · rw [swapped] at isSwapped
    cases isSwapped
    have puts := puts_unused_of_swapped consistent held swapped
    obtain ⟨mem, same⟩ := puts.swappedPages_eq_erase consistent swapped rfl
      fun other tracks => absurd tracks (Tracked.not_tracks_of_residence rfl)
    exact ⟨puts.isConsistent consistent, mem, same⟩

/-- A page that is released is not in swap any more, if it was.  It was if it
had a slot. -/
theorem swappedPages_of_release (consistent : ledger.IsConsistent)
    (found : ledger.find? page = some handle)
    (released : ledger.release handle = .ok (old, after)) :
    after.IsConsistent ∧
      after.swappedPages = ledger.swappedPages.erase page ∧
      after.swappedPages.card + old.residence.slot?.isSome.toNat =
        ledger.swappedPages.card := by
  obtain ⟨held, kinds⟩ := release_eq_ok_iff.mp released
  obtain ⟨tracked, place, tracks⟩ := consistent.find?_iff.mp found
  cases held.symm.trans place
  rcases kinds with ⟨other, resident, _⟩ | ⟨other, slot, swapped, _⟩
  · have kept : old.isSwapped = false := by
      rw [Tracked.isSwapped, resident]
      rfl
    have same := sameSwap_of_release consistent kept released
    have absent : page ∉ ledger.swappedPages := by
      rw [consistent.mem_swappedPages_iff,
        consistent.residenceOf?_eq_some_iff.mpr
          ⟨handle, old, held, tracks, rfl⟩, resident]
      rintro ⟨_, ⟨⟩, isSwapped⟩
      cases isSwapped
    rw [same.swappedPages, Finset.erase_eq_of_notMem absent, resident]
    exact ⟨same.isConsistent, rfl, rfl⟩
  · cases (Tracked.tracks_of_swapped swapped).mp tracks
    have comes := comesBack_of_release consistent swapped released
    rw [comes.swappedPages, swapped]
    exact ⟨comes.isConsistent, rfl, Finset.card_erase_add_one comes.mem⟩

theorem sameSwap_of_adopt (consistent : ledger.IsConsistent)
    (kept : new.isSwapped = false)
    (adopted : ledger.adopt handle new = .ok after) :
    ledger.SameSwap after := by
  obtain ⟨old, unused, puts⟩ := puts_of_adopt adopted
  exact ⟨puts.isConsistent consistent, puts.swappedPages_eq consistent
    (by rw [Tracked.isSwapped, unused]; rfl) kept⟩

theorem goesOut_of_adopt (consistent : ledger.IsConsistent)
    (swapped : new.residence = .swapped page slot)
    (adopted : ledger.adopt handle new = .ok after) :
    ledger.GoesOut page after := by
  obtain ⟨old, unused, puts⟩ := puts_of_adopt adopted
  obtain ⟨absent, same⟩ := puts.swappedPages_eq_insert consistent
    (by rw [Tracked.isSwapped, unused]; rfl) swapped
    fun other tracks => absurd tracks (Tracked.not_tracks_of_residence unused)
  exact ⟨puts.isConsistent consistent, absent, same⟩

theorem sameSwap_of_setRecency (consistent : ledger.IsConsistent)
    (ranked : ledger.setRecency handle recency = .ok after) :
    ledger.SameSwap after := by
  obtain ⟨old, held, rfl⟩ := setRecency_eq_ok_iff.mp ranked
  have puts := puts_recency consistent held recency
  refine ⟨puts.isConsistent consistent, ?_⟩
  ext page
  by_cases tracks : old.Tracks page
  · rw [puts.mem_swappedPages_new consistent tracks,
      puts.mem_swappedPages_old consistent tracks]
    rfl
  · exact puts.mem_swappedPages_other consistent tracks tracks

theorem sameSwap_of_advanceClock (consistent : ledger.IsConsistent)
    (advanced : ledger.advanceClock = .ok (now, after)) :
    ledger.SameSwap after := by
  obtain ⟨_, _, rfl⟩ := advanceClock_eq_ok_iff.mp advanced
  exact ⟨consistent.withClock _, rfl⟩

end Ledger

namespace Policy

variable {policy : Policy} {ledger after : Ledger} {table changed : PageTable}
  {handle : Nat}

open Ledger (SameSwap)

theorem sameSwap_of_onLoad (consistent : ledger.IsConsistent)
    (loaded : policy.onLoad ledger handle = .ok after) :
    ledger.SameSwap after := by
  cases policy with
  | noPaging =>
      cases loaded
      exact .refl consistent
  | nfua | lapa => exact Ledger.sameSwap_of_setRecency consistent loaded
  | scfifo =>
      simp only [onLoad, bind_eq_ok_iff, Prod.exists] at loaded
      obtain ⟨now, clocked, advanced, ranked⟩ := loaded
      have first := Ledger.sameSwap_of_advanceClock consistent advanced
      exact first.trans
        (Ledger.sameSwap_of_setRecency first.isConsistent ranked)

theorem sameSwap_of_sweep {chances : Nat} {victim : Victim}
    (consistent : ledger.IsConsistent)
    (swept : sweep chances ledger table = .ok (victim, after, changed)) :
    ledger.SameSwap after := by
  induction chances generalizing ledger table victim with
  | zero =>
      simp only [sweep, bind_eq_ok_iff] at swept
      obtain ⟨_, _, _, _, ⟨⟩⟩ := swept
      exact .refl consistent
  | succ chances ih =>
      simp only [sweep, bind_eq_ok_iff] at swept
      obtain ⟨front, _, entry, _, swept⟩ := swept
      split at swept
      · simp only [bind_eq_ok_iff, Prod.exists] at swept
        obtain ⟨now, clocked, advanced, ranked, requeued, _, _, _, rest, ⟨⟩⟩ :=
          swept
        have first := Ledger.sameSwap_of_advanceClock consistent advanced
        have second := first.trans
          (Ledger.sameSwap_of_setRecency first.isConsistent requeued)
        exact second.trans (ih second.isConsistent rest)
      · cases swept
        exact .refl consistent

theorem sameSwap_of_select {victim : Victim} (consistent : ledger.IsConsistent)
    (selected : policy.select ledger table = .ok (victim, after, changed)) :
    ledger.SameSwap after := by
  cases policy with
  | noPaging => cases selected
  | nfua | lapa =>
      simp only [select, bind_eq_ok_iff] at selected
      obtain ⟨_, _, ⟨⟩⟩ := selected
      exact .refl consistent
  | scfifo => exact sameSwap_of_sweep consistent selected

theorem sameSwap_of_agePages {pages : List ResidentPage}
    (consistent : ledger.IsConsistent)
    (aged : agePages pages ledger table = .ok (after, changed)) :
    ledger.SameSwap after := by
  induction pages generalizing ledger table with
  | nil =>
      cases aged
      exact .refl consistent
  | cons page pages ih =>
      simp only [agePages, agePage, bind_eq_ok_iff, Prod.exists] at aged
      obtain ⟨middle, _, ⟨found, _, aging⟩, rest⟩ := aged
      cases found with
      | none => cases aging
      | some entry =>
          simp only [bind_eq_ok_iff] at aging
          obtain ⟨_, ranked, ⟨⟩⟩ := aging
          have first := Ledger.sameSwap_of_setRecency consistent ranked
          exact first.trans (ih first.isConsistent rest)

theorem sameSwap_of_onTick {aged : Option Nat}
    (consistent : ledger.IsConsistent)
    (ticked : policy.onTick ledger table = .ok (aged, after, changed)) :
    ledger.SameSwap after := by
  cases policy with
  | noPaging | scfifo =>
      cases ticked
      exact .refl consistent
  | nfua | lapa =>
      simp only [onTick, bind_eq_ok_iff, Prod.exists] at ticked
      obtain ⟨_, _, aging, ⟨⟩⟩ := ticked
      exact sameSwap_of_agePages consistent aging

end Policy

end DemandPaging
