import DemandPaging.Ledger.Records
import DemandPaging.Proofs.Ledger.Operations

/-!
# Records and what is left of them

A ledger of records that gets the same operations as a ledger holds at every
place the record of what the ledger holds there, and both end the run at the same
operation and for the same reason (`runAll_inRecords`).  So a record names a slot
for a page in swap and for no other, although nothing in a record says so.
-/

namespace DemandPaging

/-- The state of a page without its address and its slot. -/
def Residence.state : Residence → PageState
  | free => .free
  | resident _ => .resident
  | swapped _ _ => .swapped

/-- The record of a page. -/
def Tracked.record (page : Tracked) : PageRecord where
  address := page.address
  state := page.residence.state
  recency := page.recency
  slot? := page.residence.slot?

@[simp] theorem Tracked.residence_record (page : Tracked) :
    page.record.residence = page.residence := by
  obtain ⟨_ | _ | _, _⟩ := page <;> rfl

theorem Tracked.isSome_slot?_record_iff (page : Tracked) :
    page.record.slot?.isSome = true ↔ page.record.state = .swapped := by
  obtain ⟨_ | _ | _, _⟩ := page <;> simp [record, Residence.state, Residence.slot?]

namespace Ledger

variable {ledger : Ledger}

/-- The ledger as one of records. -/
def inRecords (ledger : Ledger) : RecordLedger where
  records := ledger.places.map Tracked.record
  index := ledger.index
  maxResident := ledger.maxResident
  residentCount := ledger.residentCount
  swappedCount := ledger.swappedCount
  generation := ledger.generation

theorem get_inRecords (ledger : Ledger) (handle : Nat) :
    ledger.inRecords.get handle = Tracked.record <$> ledger.get handle := by
  rw [RecordLedger.get, inRecords, Array.getElem?_map, get]
  cases ledger.places[handle]? <;> rfl

theorem put_inRecords (ledger : Ledger) (handle : Nat) (page : Tracked) :
    ledger.inRecords.put handle page.record =
      (ledger.put handle page).inRecords := by
  simp only [RecordLedger.put, inRecords, put, Array.map_setIfInBounds]

theorem markResident_inRecords (ledger : Ledger) (handle address : Nat) :
    ledger.inRecords.markResident handle address =
      inRecords <$> ledger.markResident handle address := by
  rw [RecordLedger.markResident, markResident, map_bind]
  refine bind_congr fun _ => ?_
  rw [get_inRecords, bind_map_left, map_bind]
  refine bind_congr fun page => ?_
  have put := ledger.put_inRecords handle
    { page with residence := .resident address }
  obtain ⟨_ | held | ⟨held, slot⟩, recency⟩ := page
  · have sameIndex : ledger.inRecords.index[address]? = ledger.find? address :=
      rfl
    dsimp only [Tracked.record]
    rw [sameIndex]
    cases ledger.find? address with
    | some other => rfl
    | none => exact congrArg (fun records : RecordLedger => Except.ok
        { records with
          index := ledger.index.insert address handle
          residentCount := ledger.residentCount + 1 }) put
  · rfl
  · by_cases same : held = address
    · subst same
      change ensure (held = held) _ >>= _ =
        inRecords <$> (ensure (held = held) _ >>= _)
      rw [ensure_of_holds _ rfl, ensure_of_holds _ rfl]
      exact congrArg (fun records : RecordLedger => Except.ok
        { records with
          residentCount := ledger.residentCount + 1
          swappedCount := ledger.swappedCount - 1 }) put
    · change ensure (held = address) _ >>= _ =
        inRecords <$> (ensure (held = address) _ >>= _)
      rw [ensure_of_fails _ same, ensure_of_fails _ same]
      rfl

theorem markSwapped_inRecords (ledger : Ledger) (handle address slot : Nat) :
    ledger.inRecords.markSwapped handle address slot =
      inRecords <$> ledger.markSwapped handle address slot := by
  rw [RecordLedger.markSwapped, markSwapped, get_inRecords, bind_map_left,
    map_bind]
  refine bind_congr fun page => ?_
  have put := ledger.put_inRecords handle
    { page with residence := .swapped address slot }
  by_cases isThere : page.residence = .resident address
  · obtain ⟨_, recency⟩ := page
    obtain rfl := isThere
    rw [ensure_of_holds _ ⟨rfl, rfl⟩, ensure_of_holds _ rfl]
    exact congrArg (fun records : RecordLedger => Except.ok
      { records with
        residentCount := ledger.residentCount - 1
        swappedCount := ledger.swappedCount + 1 }) put
  · rw [ensure_of_fails _ isThere, ensure_of_fails, page.residence_record]
    · rfl
    · obtain ⟨_ | held | ⟨held, _⟩, recency⟩ := page
      · rintro ⟨isResident, _⟩
        cases isResident
      · rintro ⟨_, rfl⟩
        exact isThere rfl
      · rintro ⟨isResident, _⟩
        cases isResident

theorem release_inRecords (ledger : Ledger) (handle : Nat) :
    ledger.inRecords.release handle =
      Prod.map Tracked.record inRecords <$> ledger.release handle := by
  rw [RecordLedger.release, release, get_inRecords, bind_map_left, map_bind]
  refine bind_congr fun page => ?_
  have put := ledger.put_inRecords handle .unused
  obtain ⟨_ | held | ⟨held, slot⟩, recency⟩ := page
  · rfl
  · exact congrArg (fun records : RecordLedger => Except.ok (_,
      { records with
        index := ledger.index.erase held
        residentCount := ledger.residentCount - 1 })) put
  · exact congrArg (fun records : RecordLedger => Except.ok (_,
      { records with
        index := ledger.index.erase held
        swappedCount := ledger.swappedCount - 1 })) put

theorem adopt_inRecords (ledger : Ledger) (handle : Nat) (page : Tracked) :
    ledger.inRecords.adopt handle page.record =
      inRecords <$> ledger.adopt handle page := by
  rw [RecordLedger.adopt, adopt, get_inRecords, bind_map_left, map_bind]
  refine bind_congr fun place => ?_
  have put := ledger.put_inRecords handle page
  obtain ⟨_ | _ | _, before⟩ := place
  · have isFree : (Tracked.record ⟨.free, before⟩).state = .free := rfl
    rw [ensure_of_holds _ isFree, ensure_of_holds _ rfl]
    obtain ⟨_ | held | ⟨held, slot⟩, recency⟩ := page
    · rfl
    · change (ensure (ledger.residentCount < ledger.maxResident) _ >>= fun _ =>
          ensure (ledger.index[held]? = none) _ >>= _) =
        inRecords <$> (ensure _ _ >>= fun _ =>
          ensure (ledger.index[held]? = none) _ >>= _)
      rw [map_bind]
      refine bind_congr fun _ => ?_
      rw [map_bind]
      refine bind_congr fun _ => ?_
      exact congrArg (fun records : RecordLedger => Except.ok
        { records with
          index := ledger.index.insert held handle
          residentCount := ledger.residentCount + 1 }) put
    · change (ensure (ledger.index[held]? = none) _ >>= _) =
        inRecords <$> (ensure (ledger.index[held]? = none) _ >>= _)
      rw [map_bind]
      refine bind_congr fun _ => ?_
      exact congrArg (fun records : RecordLedger => Except.ok
        { records with
          index := ledger.index.insert held handle
          swappedCount := ledger.swappedCount + 1 }) put
  · rfl
  · rfl

theorem setRecency_inRecords (ledger : Ledger) (handle recency : Nat) :
    ledger.inRecords.setRecency handle recency =
      inRecords <$> ledger.setRecency handle recency := by
  rw [RecordLedger.setRecency, setRecency, get_inRecords, bind_map_left,
    map_bind]
  refine bind_congr fun page => ?_
  exact congrArg Except.ok (ledger.put_inRecords handle { page with recency })

theorem new_inRecords (maxResident maxSwap : Nat) :
    RecordLedger.new maxResident maxSwap =
      inRecords <$> Ledger.new maxResident maxSwap := by
  rw [RecordLedger.new, new, map_bind]
  refine bind_congr fun capacity => ?_
  rw [map_pure, inRecords, Array.map_replicate]
  rfl

/-- The operation on records. -/
def Operation.runRecords (records : RecordLedger) :
    Operation → Except Fatal RecordLedger
  | markResident handle address => records.markResident handle address
  | markSwapped handle address slot => records.markSwapped handle address slot
  | release handle => do
    let (_, released) ← records.release handle
    return released
  | adopt handle page => records.adopt handle page.record
  | setRecency handle recency => records.setRecency handle recency
  | setGeneration generation => return { records with generation }
  | advanceClock => do
    let (_, advanced) ← records.advanceClock
    return advanced

/-- What a ledger of records comes to, up to the first fatal operation. -/
def runAllRecords (records : RecordLedger) :
    List Operation → Except Fatal RecordLedger
  | [] => return records
  | operation :: operations => do
    runAllRecords (← operation.runRecords records) operations

theorem runRecords_inRecords (ledger : Ledger) (operation : Operation) :
    operation.runRecords ledger.inRecords =
      inRecords <$> operation.run ledger := by
  cases operation with
  | markResident handle address => exact markResident_inRecords ..
  | markSwapped handle address slot => exact markSwapped_inRecords ..
  | release handle =>
      rw [Operation.runRecords, release_inRecords, Operation.run,
        bind_map_left, map_bind]
      rfl
  | adopt handle page => exact adopt_inRecords ..
  | setRecency handle recency => exact setRecency_inRecords ..
  | setGeneration generation => rfl
  | advanceClock =>
      rw [Operation.runRecords, RecordLedger.advanceClock, Operation.run,
        advanceClock, bind_assoc, bind_assoc, map_bind]
      rfl

/-- Over a whole run the records are those of what the ledger holds. -/
theorem runAll_inRecords (ledger : Ledger) (operations : List Operation) :
    runAllRecords ledger.inRecords operations =
      inRecords <$> ledger.runAll operations := by
  induction operations generalizing ledger with
  | nil => rfl
  | cons operation operations ih =>
      rw [runAllRecords, runRecords_inRecords, bind_map_left, runAll, map_bind]
      exact bind_congr fun next => ih next

end Ledger

end DemandPaging
