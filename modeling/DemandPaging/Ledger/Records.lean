import DemandPaging.Ledger

/-!
# Ledgers of records

Of each page a record has the address, the state, the recency and the swap slot,
every one in a field of its own.  So a record could name a slot for a page in
memory, or none for a page in swap; that it does not is left to the operations,
which set the slot whenever they set the state.  `Tracked` is what remains of a
record once this is known.
-/

namespace DemandPaging

/-- Where a page is. -/
inductive PageState where
  | free
  | resident
  | swapped
  deriving DecidableEq

/-- What is on record of one page. -/
structure PageRecord where
  address : Nat := 0
  state : PageState := .free
  recency : Nat := 0
  /-- The slot that the page is in, if it is in swap. -/
  slot? : Option Nat := none
  deriving DecidableEq

/-- What a record says of its page. -/
def PageRecord.residence (record : PageRecord) : Residence :=
  match record.state with
  | .free => .free
  | .resident => .resident record.address
  | .swapped => .swapped record.address (record.slot?.getD 0)

/-- A ledger whose places hold records. -/
structure RecordLedger where
  records : Array PageRecord
  index : Std.TreeMap Nat Nat
  maxResident : Nat
  residentCount : Nat
  swappedCount : Nat
  generation : Nat

namespace RecordLedger

def new (maxResident maxSwap : Nat) : Except Fatal RecordLedger := do
  let capacity ← Word.add maxResident maxSwap
  return {
    records := Array.replicate capacity {}
    index := ∅
    maxResident
    residentCount := 0
    swappedCount := 0
    generation := 0 }

def get (ledger : RecordLedger) (handle : Nat) : Except Fatal PageRecord :=
  match ledger.records[handle]? with
  | some record => .ok record
  | none => .error .outOfBounds

def put (ledger : RecordLedger) (handle : Nat) (record : PageRecord) :
    RecordLedger :=
  { ledger with records := ledger.records.setIfInBounds handle record }

/-- Makes a page resident: a new one, which then has its address, or one that
comes back from swap. -/
def markResident (ledger : RecordLedger) (handle address : Nat) :
    Except Fatal RecordLedger := do
  ensure (ledger.residentCount < ledger.maxResident)
    (.residentSetFull ledger.maxResident address)
  let record ← ledger.get handle
  let present := { record with state := .resident, slot? := none }
  match record.state with
  | .free =>
    match ledger.index[address]? with
    | some other => throw (.alreadyTracked address other)
    | none => return { ledger.put handle { present with address } with
        index := ledger.index.insert address handle
        residentCount := ledger.residentCount + 1 }
  | .swapped =>
    ensure (record.address = address)
      (.holdsOtherPage handle record.address address)
    return { ledger.put handle present with
      residentCount := ledger.residentCount + 1
      swappedCount := ledger.swappedCount - 1 }
  | .resident => throw (.alreadyResident record.address)

/-- Records the slot of a page that goes to swap. -/
def markSwapped (ledger : RecordLedger) (handle address slot : Nat) :
    Except Fatal RecordLedger := do
  let record ← ledger.get handle
  ensure (record.state = .resident ∧ record.address = address)
    (.notResidentAt address handle record.residence)
  return { ledger.put handle
      { record with state := .swapped, slot? := some slot } with
    residentCount := ledger.residentCount - 1
    swappedCount := ledger.swappedCount + 1 }

/-- Clears a record; gives what it was. -/
def release (ledger : RecordLedger) (handle : Nat) :
    Except Fatal (PageRecord × RecordLedger) := do
  let record ← ledger.get handle
  let released := { ledger.put handle {} with
    index := ledger.index.erase record.address }
  match record.state with
  | .free => throw (.releasingFree handle)
  | .resident => return (record,
      { released with residentCount := ledger.residentCount - 1 })
  | .swapped => return (record,
      { released with swappedCount := ledger.swappedCount - 1 })

/-- Copies a record of another ledger to the same place. -/
def adopt (ledger : RecordLedger) (handle : Nat) (record : PageRecord) :
    Except Fatal RecordLedger := do
  let place ← ledger.get handle
  ensure (place.state = .free) (.adoptingIntoBusy handle)
  let adopted := { ledger.put handle record with
    index := ledger.index.insert record.address handle }
  match record.state with
  | .free => throw .adoptingFree
  | .resident =>
    ensure (ledger.residentCount < ledger.maxResident)
      (.adoptingBeyondCeiling record.address)
    ensure (ledger.index[record.address]? = none)
      (.adoptingTracked record.address)
    return { adopted with residentCount := ledger.residentCount + 1 }
  | .swapped =>
    ensure (ledger.index[record.address]? = none)
      (.adoptingTracked record.address)
    return { adopted with swappedCount := ledger.swappedCount + 1 }

def setRecency (ledger : RecordLedger) (handle recency : Nat) :
    Except Fatal RecordLedger := do
  let record ← ledger.get handle
  return ledger.put handle { record with recency }

/-- Advances the clock; gives the new time. -/
def advanceClock (ledger : RecordLedger) :
    Except Fatal (Nat × RecordLedger) := do
  let generation ← Word.add ledger.generation 1
  return (generation, { ledger with generation })

end RecordLedger

end DemandPaging
