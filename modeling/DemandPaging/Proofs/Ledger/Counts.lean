import DemandPaging.Proofs.Ledger.Residences

/-!
# The counters of a ledger

In a consistent ledger the counters tell how many pages can be found in each
state.  A ledger that is not full has an unused place, and one whose ceiling is
reached has a resident page to evict.
-/

namespace DemandPaging

namespace Ledger

variable {ledger : Ledger} {handle : Nat}

theorem IsConsistent.length_residents (consistent : ledger.IsConsistent) :
    ledger.residents.length = ledger.residentCount := by
  have places : ledger.places.toList.zipIdx.map Prod.fst =
      ledger.places.toList := List.zipIdx_map_fst 0 _
  have counted := congrArg (List.countP Tracked.isResident) places
  rw [List.countP_map] at counted
  rw [residents, List.length_filterMap_eq_countP, consistent.residentCount_eq,
    ← Array.countP_toList, ← counted]
  apply List.countP_congr
  rintro ⟨⟨residence, recency⟩, handle⟩ _
  cases residence <;> simp [Tracked.isResident, Residence.isResident]

theorem IsConsistent.trackedCount_eq (consistent : ledger.IsConsistent) :
    ledger.trackedCount =
      ledger.places.countP fun tracked => !tracked.isFree := by
  have split : ∀ places : List Tracked,
      places.countP (fun tracked => !tracked.isFree) =
        places.countP Tracked.isResident +
          places.countP Tracked.isSwapped := by
    intro places
    induction places with
    | nil => rfl
    | cons tracked places ih =>
        obtain ⟨residence, recency⟩ := tracked
        rw [List.countP_cons, List.countP_cons, List.countP_cons, ih]
        cases residence <;>
          simp only [Tracked.isFree, Tracked.isResident, Tracked.isSwapped,
            Residence.isFree, Residence.isResident, Residence.isSwapped,
            Bool.not_true, Bool.not_false, Bool.false_eq_true, ↓reduceIte] <;>
          omega
  rw [trackedCount, consistent.residentCount_eq, consistent.swappedCount_eq,
    ← Array.countP_toList, ← Array.countP_toList, ← Array.countP_toList, split]

theorem IsConsistent.trackedCount_le (consistent : ledger.IsConsistent) :
    ledger.trackedCount ≤ ledger.capacity := by
  rw [consistent.trackedCount_eq]
  exact Array.countP_le_size

theorem IsConsistent.trackedCount_eq_zero_iff
    (consistent : ledger.IsConsistent) :
    ledger.trackedCount = 0 ↔ ∀ page, ledger.find? page = none := by
  rw [consistent.trackedCount_eq, Array.countP_eq_zero]
  constructor
  · intro unused page
    refine Option.eq_none_iff_forall_ne_some.mpr fun handle known => ?_
    obtain ⟨tracked, place, taken, _⟩ :=
      (consistent.find?_eq_some_iff page handle).mp known
    have isFree := unused tracked (Array.mem_of_getElem? place)
    rw [taken] at isFree
    exact isFree rfl
  · intro unknown tracked member taken
    obtain ⟨handle, place⟩ := Array.getElem?_of_mem member
    rw [Bool.not_eq_eq_eq_not, Bool.not_true] at taken
    have known := (consistent.find?_eq_some_iff tracked.address handle).mpr
      ⟨tracked, place, taken, rfl⟩
    cases (unknown _).symm.trans known

theorem IsConsistent.reserve_of_not_isFull (consistent : ledger.IsConsistent)
    (notFull : ledger.isFull = false) :
    ∃ handle tracked, ledger.reserve = some handle ∧
      ledger.places[handle]? = some tracked ∧ tracked.residence = .free := by
  cases reserved : ledger.reserve with
  | none =>
      have taken := reserve_eq_none_iff.mp reserved
      have full : ledger.places.countP (fun tracked => !tracked.isFree) =
          ledger.places.size := by
        rw [Array.countP_eq_size]
        intro tracked member
        obtain ⟨handle, place⟩ := Array.getElem?_of_mem member
        rw [taken handle tracked place]
        rfl
      rw [← consistent.trackedCount_eq] at full
      simp [isFull, capacity, full] at notFull
  | some handle =>
      obtain ⟨⟨⟨residence, recency⟩, place, isFree⟩, _⟩ :=
        reserve_eq_some_iff.mp reserved
      refine ⟨handle, _, rfl, place, ?_⟩
      cases residence with
      | free => rfl
      | resident _ => cases isFree
      | swapped _ _ => cases isFree

/-- A page comes to be tracked where its address is not tracked yet. -/
theorem markResident_of_free {page : Nat} {old : Tracked}
    (room : ledger.residentCount < ledger.maxResident)
    (held : ledger.places[handle]? = some old)
    (unused : old.residence = .free) (missing : ledger.find? page = none) :
    ledger.markResident handle page = .ok
      { ledger.put handle { old with residence := .resident page } with
        residentCount := ledger.residentCount + 1
        index := ledger.index.insert page handle } :=
  markResident_eq_ok_iff.mpr
    ⟨room, old, held, .inl ⟨unused, missing, rfl⟩⟩

theorem markResident_of_swapped {page slot : Nat} {old : Tracked}
    (room : ledger.residentCount < ledger.maxResident)
    (held : ledger.places[handle]? = some old)
    (swapped : old.residence = .swapped page slot) :
    ledger.markResident handle page = .ok
      { ledger.put handle { old with residence := .resident page } with
        residentCount := ledger.residentCount + 1
        swappedCount := ledger.swappedCount - 1 } :=
  markResident_eq_ok_iff.mpr
    ⟨room, old, held, .inr ⟨slot, swapped, rfl⟩⟩

theorem markSwapped_of_resident {page slot : Nat} {old : Tracked}
    (held : ledger.places[handle]? = some old)
    (resident : old.residence = .resident page) :
    ledger.markSwapped handle page slot = .ok
      { ledger.put handle { old with residence := .swapped page slot } with
        residentCount := ledger.residentCount - 1
        swappedCount := ledger.swappedCount + 1 } :=
  markSwapped_eq_ok_iff.mpr ⟨old, held, resident, rfl⟩

end Ledger

end DemandPaging
