import DemandPaging.AddressSpace.Basic

/-!
# Taking pages away

Unmapping a run of pages clears their entries, gives back what they held, a
frame or a swap slot, and stops tracking them.  Every page of the run must be
there: a hole is fatal.
-/

namespace DemandPaging

namespace AddressSpace

/-- Stops tracking a page whose entry is `entry`, and gives back its swap
slot if it has one. -/
def untrack (page : Nat) (entry : Entry) : SpaceAction Unit := do
  let ledger ← look AddressSpace.ledger
  let handle ← Action.orCrash (.unmapNotTracked page) (ledger.find? page)
  let tracked ← ledger.get handle
  Action.crashUnless
    (if entry.isValid then tracked.isResident else tracked.isSwapped)
    (.unmapMismatch page tracked.residence entry)
  let released ← onLedger (Action.step fun ledger => ledger.release handle)
  match released.residence.slot? with
  | some slot => releaseSlot slot
  | none => return ()

/-- Takes the page at `page` away.  Its frame goes back to the pool if
`freeing` is set. -/
def unmapPage (freeing : Bool) (page : Nat) : SpaceAction Unit := do
  let entry ← Action.orCrash (.unmapWithoutEntry page) (← lookup page)
  Action.crashUnless entry.isPresent (.unmapNotMapped page)
  Action.crashUnless (!(entry.isValid && entry.isPagedOut)) (.unmapBoth page)
  Action.crashUnless (!entry.isValid || entry.isLeaf) (.unmapNotLeaf page)
  let isPaging ← look isPaging
  Action.crashUnless (isPaging || !entry.isPagedOut)
    (.unmapPagedOutUntracked page)
  Action.runIf isPaging (untrack page entry)
  Action.runIf (freeing && entry.isValid) (releaseFrame entry.address)
  updateEntry page fun _ => Entry.empty

/-- Takes `count` pages away, the first at `page`. -/
def unmapRun (freeing : Bool) (page : Nat) : (count : Nat) → SpaceAction Unit
  | 0 => return ()
  | count + 1 => do
    unmapPage freeing page
    unmapRun freeing (page + pageSize) count

/-- Takes `count` pages away, the first at `address`, which must begin a
page. -/
def unmap (address count : Nat) (freeing : Bool) : SpaceAction Unit := do
  Action.crashUnless (Address.isPageAligned address) .unmapUnaligned
  unmapRun freeing address count

/-- Takes the pages of the first `size` bytes away, and then the page table.
No page may be left. -/
def tearDown (size : Nat) : SpaceAction Unit := do
  Action.runIf (0 < size) do
    let stop ← Word.roundUp size
    unmap 0 (stop / pageSize) true
  onTable (Action.change PageTable.destroy)
  let tracked ← look fun space => space.ledger.trackedCount
  Action.crashUnless (tracked = 0) (.stillTracked tracked)

end AddressSpace

end DemandPaging
