import DemandPaging.Ledger.Tracked
import DemandPaging.Word
import Std.Data.TreeMap

/-!
# The ledger of tracked pages

A ledger has a fixed number of places, each unused or tracking one page.  A
page keeps its place from the moment it is tracked until it is released; the
number of the place is the page's handle.  An index leads from addresses to
handles, and two counters keep the numbers of resident and of swapped pages.

A page becomes resident when it is first tracked or when it comes back from
swap, is swapped out from there, and is released from either state.  Every
other transition is fatal.
-/

namespace DemandPaging

/-- The pages of one address space under paging. -/
structure Ledger where
  /-- The places, in the order of their handles. -/
  places : Array Tracked
  /-- The handle of each tracked page, under its address. -/
  index : Std.TreeMap Nat Nat
  /-- The most pages that may be resident. -/
  maxResident : Nat
  residentCount : Nat
  swappedCount : Nat
  /-- The clock of the second-chance policy. -/
  generation : Nat

/-- A resident page: its handle, its address and its recency. -/
structure ResidentPage where
  handle : Nat
  address : Nat
  recency : Nat
  deriving DecidableEq

namespace Ledger

/-- An empty ledger for `maxResident` pages in memory and `maxSwap` in swap. -/
def new (maxResident maxSwap : Nat) : Except Fatal Ledger := do
  let capacity ← Word.add maxResident maxSwap
  return {
    places := Array.replicate capacity Tracked.unused
    index := ∅
    maxResident
    residentCount := 0
    swappedCount := 0
    generation := 0 }

/-- The number of places. -/
def capacity (ledger : Ledger) : Nat :=
  ledger.places.size

/-- The number of tracked pages. -/
def trackedCount (ledger : Ledger) : Nat :=
  ledger.residentCount + ledger.swappedCount

/-- Is every place taken? -/
def isFull (ledger : Ledger) : Bool :=
  ledger.trackedCount == ledger.capacity

/-- Is the ceiling of resident pages reached? -/
def isResidentFull (ledger : Ledger) : Bool :=
  ledger.residentCount == ledger.maxResident

/-- What the place `handle` holds. -/
def get (ledger : Ledger) (handle : Nat) : Except Fatal Tracked :=
  match ledger.places[handle]? with
  | some page => .ok page
  | none => .error .outOfBounds

/-- The ledger with `page` at the place `handle`. -/
def put (ledger : Ledger) (handle : Nat) (page : Tracked) : Ledger :=
  { ledger with places := ledger.places.setIfInBounds handle page }

/-- The first unused place, if any. -/
def reserve (ledger : Ledger) : Option Nat :=
  ledger.places.findIdx? Tracked.isFree

/-- The handle of the page tracked at `address`. -/
def find? (ledger : Ledger) (address : Nat) : Option Nat :=
  ledger.index[address]?

/-- The resident pages, in the order of their handles. -/
def residents (ledger : Ledger) : List ResidentPage :=
  ledger.places.toList.zipIdx.filterMap fun (page, handle) =>
    match page.residence with
    | .resident address => some ⟨handle, address, page.recency⟩
    | _ => none

/-- Makes the page at `address` resident at the place `handle`: a new page if
the place is unused, a page back from swap if it is tracked there. -/
def markResident (ledger : Ledger) (handle address : Nat) :
    Except Fatal Ledger := do
  ensure (ledger.residentCount < ledger.maxResident)
    (.residentSetFull ledger.maxResident address)
  let page ← ledger.get handle
  let marked := { ledger.put handle { page with residence := .resident address }
    with residentCount := ledger.residentCount + 1 }
  match page.residence with
  | .free =>
    match ledger.find? address with
    | some other => throw (.alreadyTracked address other)
    | none => return { marked with index := ledger.index.insert address handle }
  | .swapped held _ =>
    ensure (held = address) (.holdsOtherPage handle held address)
    return { marked with swappedCount := ledger.swappedCount - 1 }
  | .resident held => throw (.alreadyResident held)

/-- Records that the resident page at `address` and `handle` is now in the
swap slot `slot`. -/
def markSwapped (ledger : Ledger) (handle address slot : Nat) :
    Except Fatal Ledger := do
  let page ← ledger.get handle
  ensure (page.residence = .resident address)
    (.notResidentAt address handle page.residence)
  return { ledger.put handle { page with residence := .swapped address slot }
    with
      residentCount := ledger.residentCount - 1
      swappedCount := ledger.swappedCount + 1 }

/-- Stops tracking the page at the place `handle`; gives what was there. -/
def release (ledger : Ledger) (handle : Nat) :
    Except Fatal (Tracked × Ledger) := do
  let page ← ledger.get handle
  let released := { ledger.put handle Tracked.unused with
    index := ledger.index.erase page.address }
  match page.residence with
  | .free => throw (.releasingFree handle)
  | .resident _ =>
    return (page,
      { released with residentCount := ledger.residentCount - 1 })
  | .swapped _ _ =>
    return (page, { released with swappedCount := ledger.swappedCount - 1 })

/-- Takes over a page of another ledger at the same place. -/
def adopt (ledger : Ledger) (handle : Nat) (page : Tracked) :
    Except Fatal Ledger := do
  let place ← ledger.get handle
  ensure (place.residence = .free) (.adoptingIntoBusy handle)
  let adopted := { ledger.put handle page with
    index := ledger.index.insert page.address handle }
  match page.residence with
  | .free => throw .adoptingFree
  | .resident address =>
    ensure (ledger.residentCount < ledger.maxResident)
      (.adoptingBeyondCeiling address)
    ensure (ledger.find? address = none) (.adoptingTracked address)
    return { adopted with residentCount := ledger.residentCount + 1 }
  | .swapped address _ =>
    ensure (ledger.find? address = none) (.adoptingTracked address)
    return { adopted with swappedCount := ledger.swappedCount + 1 }

/-- Gives the place `handle` another recency. -/
def setRecency (ledger : Ledger) (handle recency : Nat) :
    Except Fatal Ledger := do
  let page ← ledger.get handle
  return ledger.put handle { page with recency }

/-- Advances the clock; gives the new time. -/
def advanceClock (ledger : Ledger) : Except Fatal (Nat × Ledger) := do
  let generation ← Word.add ledger.generation 1
  return (generation, { ledger with generation })

end Ledger

end DemandPaging
