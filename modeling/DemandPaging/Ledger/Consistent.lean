import DemandPaging.Ledger.Lemmas

/-!
# Consistent ledgers

The index and the two counters of a ledger are copies of what its places say.
A ledger is consistent if they are true copies.  In a consistent ledger no
address is tracked at two places, because the index has one handle for it.
-/

namespace DemandPaging

namespace Ledger

/-- The index leads to exactly the pages that the places track, and the
counters are the numbers of places in each state. -/
structure IsConsistent (ledger : Ledger) : Prop where
  find?_eq_some_iff : ∀ address handle,
    ledger.find? address = some handle ↔
      ∃ page, ledger.places[handle]? = some page ∧ page.isFree = false ∧
        page.address = address
  residentCount_eq :
    ledger.residentCount = ledger.places.countP Tracked.isResident
  swappedCount_eq :
    ledger.swappedCount = ledger.places.countP Tracked.isSwapped

variable {ledger : Ledger}

/-- No address is tracked at two places. -/
theorem IsConsistent.handle_unique (consistent : ledger.IsConsistent)
    {first second : Nat} {page other : Tracked}
    (firstFound : ledger.places[first]? = some page)
    (secondFound : ledger.places[second]? = some other)
    (firstTaken : page.isFree = false) (secondTaken : other.isFree = false)
    (sameAddress : page.address = other.address) : first = second := by
  have firstIndexed := (consistent.find?_eq_some_iff _ _).mpr
    ⟨page, firstFound, firstTaken, rfl⟩
  have secondIndexed := (consistent.find?_eq_some_iff _ _).mpr
    ⟨other, secondFound, secondTaken, rfl⟩
  rw [sameAddress, secondIndexed] at firstIndexed
  exact (Option.some.inj firstIndexed).symm

theorem isConsistent_new {maxResident maxSwap : Nat}
    (made : Ledger.new maxResident maxSwap = .ok ledger) :
    ledger.IsConsistent := by
  obtain ⟨_, rfl⟩ := new_eq_ok_iff.mp made
  refine ⟨fun address handle => ?_, ?_, ?_⟩
  · simp only [find?, Std.TreeMap.getElem?_emptyc, reduceCtorEq, false_iff,
      not_exists, not_and, Array.getElem?_replicate,
      Option.ite_none_right_eq_some, Option.some.injEq]
    rintro _ ⟨_, rfl⟩ taken
    cases taken
  · simp [Tracked.unused, Tracked.isResident, Residence.isResident,
      Array.countP_replicate]
  · simp [Tracked.unused, Tracked.isSwapped, Residence.isSwapped,
      Array.countP_replicate]

end Ledger

end DemandPaging
