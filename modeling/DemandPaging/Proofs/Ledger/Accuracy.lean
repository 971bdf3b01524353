import DemandPaging.Proofs.Ledger.Records

/-!
# Ledgers that are accurate

After any operations on a ledger that was made empty the index leads to just the
pages that the places track, the counters count them, and a tracked page stays
where it is until it is released.  Records that are kept in place of pages name a
slot for the pages in swap alone (`isAccurate_of_runAll`).
-/

namespace DemandPaging

namespace Ledger

variable {ledger : Ledger}

/-- What the places, the index and the counters of a ledger tell about each
other. -/
structure IsAccurate (ledger : Ledger) (maxResident maxSwap : Nat) : Prop where
  find?_eq_some_iff : ∀ address handle,
    ledger.find? address = some handle ↔
      ∃ page, ledger.places[handle]? = some page ∧ page.isFree = false ∧
        page.address = address
  handle_unique : ∀ (first second : Nat) (page other : Tracked),
    ledger.places[first]? = some page → ledger.places[second]? = some other →
      page.isFree = false → other.isFree = false →
        page.address = other.address → first = second
  residentCount_eq :
    ledger.residentCount = ledger.places.countP Tracked.isResident
  swappedCount_eq :
    ledger.swappedCount = ledger.places.countP Tracked.isSwapped
  residentCount_le : ledger.residentCount ≤ maxResident
  trackedCount_le : ledger.trackedCount ≤ ledger.capacity
  capacity_eq : ledger.capacity = maxResident + maxSwap
  slot_iff_isSwapped : ∀ (handle : Nat) (page : Tracked),
    ledger.places[handle]? = some page →
      (page.residence.slot?.isSome ↔ page.isSwapped)
  reserve_eq_some_iff : ∀ handle, ledger.reserve = some handle ↔
    (∃ page, ledger.places[handle]? = some page ∧ page.isFree = true) ∧
      ∀ other page, other < handle → ledger.places[other]? = some page →
        page.isFree = false
  reserve_eq_none_iff : ledger.reserve = none ↔ ledger.isFull = true

theorem IsConsistent.isAccurate {maxResident maxSwap : Nat}
    (consistent : ledger.IsConsistent)
    (below : ledger.residentCount ≤ maxResident)
    (size : ledger.capacity = maxResident + maxSwap) :
    ledger.IsAccurate maxResident maxSwap where
  find?_eq_some_iff := consistent.find?_eq_some_iff
  handle_unique _ _ _ _ := consistent.handle_unique
  residentCount_eq := consistent.residentCount_eq
  swappedCount_eq := consistent.swappedCount_eq
  residentCount_le := below
  trackedCount_le := consistent.trackedCount_le
  capacity_eq := size
  slot_iff_isSwapped _ page _ := by
    obtain ⟨residence, recency⟩ := page
    cases residence <;> rfl
  reserve_eq_some_iff _ := Ledger.reserve_eq_some_iff
  reserve_eq_none_iff := consistent.reserve_eq_none_iff_isFull

/-- A ledger that was made empty is accurate after any operations.  A ledger of
records comes to have the records of its pages, each with a slot exactly if the
page is in swap.  Each further operation changes no place but the one that it
names, and a page that is tracked keeps its place and its address until it is
released from there. -/
theorem isAccurate_of_runAll {maxResident maxSwap : Nat} {fresh : Ledger}
    {operations : List Operation}
    (made : Ledger.new maxResident maxSwap = .ok fresh)
    (ran : fresh.runAll operations = .ok ledger) :
    ledger.IsAccurate maxResident maxSwap ∧
      (∃ records, (do
          let empty ← RecordLedger.new maxResident maxSwap
          runAllRecords empty operations) = .ok records ∧
        records = ledger.inRecords ∧
        ∀ (handle : Nat) (record : PageRecord),
          records.records[handle]? = some record →
            (record.slot?.isSome = true ↔ record.state = .swapped)) ∧
      (∀ (operation : Operation) (after : Ledger),
        operation.run ledger = .ok after →
          ∀ other : Nat, operation.handle? ≠ some other →
            after.places[other]? = ledger.places[other]?) ∧
      ∀ (more : List Operation) (later : Ledger),
        ledger.runAll more = .ok later →
          ∀ (handle : Nat) (page : Tracked),
            (∀ operation ∈ more, operation ≠ .release handle) →
            ledger.places[handle]? = some page → page.isFree = false →
              ∃ same, later.places[handle]? = some same ∧
                same.isFree = false ∧ same.address = page.address := by
  have keeps := keeps_of_runAll (isConsistent_new made) ran
  have consistent := keeps.isConsistent
  have kept : (do
      let empty ← RecordLedger.new maxResident maxSwap
      runAllRecords empty operations) = .ok ledger.inRecords := by
    rw [new_inRecords, made]
    exact (runAll_inRecords fresh operations).trans
      (congrArg (inRecords <$> ·) ran)
  obtain ⟨_, rfl⟩ := new_eq_ok_iff.mp made
  refine ⟨?_, ⟨_, kept, rfl, fun handle record place => ?_⟩, ?_⟩
  · apply consistent.isAccurate
    · exact keeps.residentCount_le (Nat.zero_le _)
    · exact keeps.capacity.trans Array.size_replicate
  · rw [inRecords, Array.getElem?_map, Option.map_eq_some_iff] at place
    obtain ⟨page, _, rfl⟩ := place
    exact page.isSome_slot?_record_iff
  · constructor
    · intro operation after once
      exact (consistent.operates once).others
    · intro more later onwards handle page unreleased place taken
      have found := consistent.find?_iff.mpr ⟨page, place, taken, rfl⟩
      have still := find?_of_runAll consistent onwards unreleased found
      exact (keeps_of_runAll consistent onwards).isConsistent.find?_iff.mp still

/-- A page that goes to swap makes room for another in a ledger for two pages
of which one may be resident. -/
theorem isAccurate_of_runAll_two_pages :
    ∃ fresh ledger, Ledger.new 1 1 = .ok fresh ∧
      fresh.runAll [.markResident 0 5, .markSwapped 0 5 3, .markResident 1 7] =
        .ok ledger ∧
      ledger.IsAccurate 1 1 := by
  have runs : ((Ledger.new 1 1).bind fun fresh => fresh.runAll
      [.markResident 0 5, .markSwapped 0 5 3, .markResident 1 7]).isOk =
        true := by
    decide +kernel
  cases made : Ledger.new 1 1 with
  | error cause =>
      rw [made] at runs
      cases runs
  | ok fresh =>
      rw [made, Except.bind] at runs
      cases ran : fresh.runAll
          [.markResident 0 5, .markSwapped 0 5 3, .markResident 1 7] with
      | error cause =>
          rw [ran] at runs
          cases runs
      | ok ledger => exact ⟨fresh, ledger, rfl, ran,
          (isAccurate_of_runAll made ran).1⟩

end Ledger

end DemandPaging
