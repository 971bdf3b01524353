import DemandPaging.Proofs.Effects.Chances
import DemandPaging.Proofs.Positions

/-!
# Pages that went to swap

In a ledger that receded, every place has what it had, except that pages which
were in memory may be in swap.  How many those are can be told from the
counters, and every page is tracked at the place where it was.
-/

namespace DemandPaging

theorem Residence.eq_free_of_isFree {residence : Residence}
    (isFree : residence.isFree = true) : residence = .free := by
  cases residence with
  | free => rfl
  | resident _ => cases isFree
  | swapped _ _ => cases isFree

namespace Ledger

variable {ledger before middle after : Ledger} {handle page : Nat}

/-- The place has what it had, or its page left memory. -/
def RecedesAt (before after : Ledger) (handle : Nat) : Prop :=
  after.residenceAt? handle = before.residenceAt? handle ∨
    ∃ page slot, before.residenceAt? handle = some (.resident page) ∧
      after.residenceAt? handle = some (.swapped page slot)

/-- Every page is where it was, or left memory. -/
def Recedes (before after : Ledger) : Prop :=
  ∀ handle, before.RecedesAt after handle

theorem Recedes.refl (ledger : Ledger) : ledger.Recedes ledger :=
  fun _ => .inl rfl

theorem RecedesAt.trans (first : before.RecedesAt middle handle)
    (second : middle.RecedesAt after handle) :
    before.RecedesAt after handle := by
  obtain same | ⟨page, slot, resident, swapped⟩ := first
  · obtain still | ⟨page, slot, resident, swapped⟩ := second
    · exact .inl (still.trans same)
    · exact .inr ⟨page, slot, same.symm.trans resident, swapped⟩
  · obtain still | ⟨_, _, again, _⟩ := second
    · exact .inr ⟨page, slot, resident, still.trans swapped⟩
    · cases swapped.symm.trans again

theorem RecedesAt.free (recedes : before.RecedesAt after handle)
    (isFree : after.residenceAt? handle = some .free) :
    before.residenceAt? handle = some .free := by
  obtain same | ⟨_, _, _, swapped⟩ := recedes
  · exact same.symm.trans isFree
  · cases swapped.symm.trans isFree

/-- The places whose pages were in memory and are in swap now. -/
def departed (before after : Ledger) : Finset Nat :=
  positions Tracked.isResident before.places ∩
    positions Tracked.isSwapped after.places

/-- The places are found by what their pages are at. -/
theorem mem_positions_residence (test : Residence → Bool) :
    handle ∈ positions (fun tracked => test tracked.residence)
      ledger.places ↔
        ∃ residence, ledger.residenceAt? handle = some residence ∧
          test residence = true := by
  rw [mem_positions]
  constructor
  · rintro ⟨tracked, place, passes⟩
    exact ⟨_, residenceAt?_of_place place, passes⟩
  · rintro ⟨_, known, passes⟩
    obtain ⟨tracked, place, rfl⟩ := Option.map_eq_some_iff.mp known
    exact ⟨tracked, place, passes⟩

theorem mem_positions_isResident :
    handle ∈ positions Tracked.isResident ledger.places ↔
      ∃ page, ledger.residenceAt? handle = some (.resident page) := by
  refine (mem_positions_residence Residence.isResident).trans ?_
  constructor
  · rintro ⟨residence, known, isResident⟩
    cases residence with
    | resident page => exact ⟨page, known⟩
    | free => cases isResident
    | swapped _ _ => cases isResident
  · rintro ⟨page, known⟩
    exact ⟨_, known, rfl⟩

theorem mem_positions_isSwapped :
    handle ∈ positions Tracked.isSwapped ledger.places ↔
      ∃ page slot, ledger.residenceAt? handle = some (.swapped page slot) := by
  refine (mem_positions_residence Residence.isSwapped).trans ?_
  constructor
  · rintro ⟨residence, known, isSwapped⟩
    cases residence with
    | swapped page slot => exact ⟨page, slot, known⟩
    | free => cases isSwapped
    | resident _ => cases isSwapped
  · rintro ⟨page, slot, known⟩
    exact ⟨_, known, rfl⟩

/-- A page is found at the place whose page is at its address. -/
theorem IsConsistent.find?_eq_some_iff_residenceAt?
    (consistent : ledger.IsConsistent) :
    ledger.find? page = some handle ↔ ∃ residence,
      ledger.residenceAt? handle = some residence ∧
        residence.isFree = false ∧ residence.address = page := by
  rw [consistent.find?_eq_some_iff]
  constructor
  · rintro ⟨tracked, place, taken, address⟩
    exact ⟨_, residenceAt?_of_place place, taken, address⟩
  · rintro ⟨_, found, taken, address⟩
    obtain ⟨tracked, place, rfl⟩ := Option.map_eq_some_iff.mp found
    exact ⟨tracked, place, taken, address⟩

namespace IsConsistent

variable (consistent : before.IsConsistent)
  (isConsistent : after.IsConsistent)

include consistent isConsistent

/-- As many pages are in swap if the same places have one there. -/
theorem swappedCount_congr
    (same : ∀ handle page slot,
      after.residenceAt? handle = some (.swapped page slot) ↔
        before.residenceAt? handle = some (.swapped page slot)) :
    after.swappedCount = before.swappedCount := by
  rw [consistent.swappedCount_eq, isConsistent.swappedCount_eq,
    ← card_positions, ← card_positions]
  refine congrArg Finset.card (Finset.ext fun handle => ?_)
  rw [mem_positions_isSwapped, mem_positions_isSwapped]
  exact exists_congr fun page => exists_congr fun slot => same handle page slot

/-- As many pages are in memory if the same places have one there. -/
theorem residentCount_congr
    (same : ∀ handle page,
      after.residenceAt? handle = some (.resident page) ↔
        before.residenceAt? handle = some (.resident page)) :
    after.residentCount = before.residentCount := by
  rw [consistent.residentCount_eq, isConsistent.residentCount_eq,
    ← card_positions, ← card_positions]
  refine congrArg Finset.card (Finset.ext fun handle => ?_)
  rw [mem_positions_isResident, mem_positions_isResident]
  exact exists_congr fun page => same handle page

theorem residentCount_add_card (recedes : before.Recedes after) :
    after.residentCount + (before.departed after).card =
      before.residentCount := by
  have left : positions Tracked.isResident after.places =
      positions Tracked.isResident before.places \
        positions Tracked.isSwapped after.places := by
    ext handle
    rw [Finset.mem_sdiff, mem_positions_isResident, mem_positions_isResident,
      mem_positions_isSwapped]
    constructor
    · rintro ⟨page, resident⟩
      refine ⟨⟨page, ?_⟩, fun ⟨_, _, swapped⟩ => ?_⟩
      · obtain same | ⟨_, _, _, swapped⟩ := recedes handle
        · exact same.symm.trans resident
        · cases resident.symm.trans swapped
      · cases resident.symm.trans swapped
    · rintro ⟨⟨page, resident⟩, notSwapped⟩
      obtain same | ⟨_, _, _, swapped⟩ := recedes handle
      · exact ⟨page, same.trans resident⟩
      · exact absurd ⟨_, _, swapped⟩ notSwapped
  rw [consistent.residentCount_eq, isConsistent.residentCount_eq,
    ← card_positions, ← card_positions, left, departed]
  exact Finset.card_sdiff_add_card_inter _ _

theorem swappedCount_eq_add_card (recedes : before.Recedes after) :
    after.swappedCount =
      before.swappedCount + (before.departed after).card := by
  have gained : positions Tracked.isSwapped after.places =
      positions Tracked.isSwapped before.places ∪ before.departed after := by
    ext handle
    rw [Finset.mem_union, departed, Finset.mem_inter,
      mem_positions_isSwapped, mem_positions_isSwapped,
      mem_positions_isResident]
    constructor
    · rintro ⟨page, slot, swapped⟩
      obtain same | ⟨other, _, resident, _⟩ := recedes handle
      · exact .inl ⟨page, slot, same.symm.trans swapped⟩
      · exact .inr ⟨⟨other, resident⟩, page, slot, swapped⟩
    · rintro (⟨page, slot, swapped⟩ | ⟨_, swapped⟩)
      · obtain same | ⟨_, _, resident, _⟩ := recedes handle
        · exact ⟨page, slot, same.trans swapped⟩
        · cases swapped.symm.trans resident
      · exact swapped
  have apart : Disjoint (positions Tracked.isSwapped before.places)
      (before.departed after) := by
    rw [Finset.disjoint_left]
    intro handle isSwapped isDeparted
    obtain ⟨_, _, swapped⟩ := mem_positions_isSwapped.mp isSwapped
    obtain ⟨_, resident⟩ :=
      mem_positions_isResident.mp (Finset.mem_inter.mp isDeparted).1
    cases swapped.symm.trans resident
  rw [consistent.swappedCount_eq, isConsistent.swappedCount_eq,
    ← card_positions, ← card_positions, gained,
    Finset.card_union_of_disjoint apart]

theorem find?_of_recedes (recedes : before.Recedes after) (page : Nat) :
    after.find? page = before.find? page := by
  refine Option.ext fun handle => ?_
  rw [consistent.find?_eq_some_iff_residenceAt?,
    isConsistent.find?_eq_some_iff_residenceAt?]
  obtain same | ⟨_, _, resident, swapped⟩ := recedes handle
  · rw [same]
  · simp [resident, swapped, Residence.isFree, Residence.address]

end IsConsistent

end Ledger

end DemandPaging
