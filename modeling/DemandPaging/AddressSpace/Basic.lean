import DemandPaging.Host
import DemandPaging.Replacement
import DemandPaging.Swap.Space

/-!
# Address spaces

The user memory of one process.  A page of it is mapped, that is, it has a
frame and a valid entry, or its contents are in a swap slot and its entry says
so.  In a space under paging the ledger tracks every page and the entry, the
ledger and the slots agree; a space that is not under paging has mapped pages
only and tracks none.

A space owns its page table, its ledger and its swap slots and takes frames
from one pool of the host.  This module has the space itself, its parts as
operations see them, and how spaces are made.
-/

namespace DemandPaging

/-- Counts of what happened in an address space.  They are numbers without a
bound: a count of 64 bits shows them modulo `Word.limit`, which nothing that a
space does depends on. -/
structure PagingStats where
  /-- Page faults taken. -/
  faults : Nat := 0
  /-- Pages read back from swap. -/
  pageIns : Nat := 0
  /-- Pages written to swap. -/
  evictions : Nat := 0
  /-- Pages spared by the second-chance policy. -/
  secondChances : Nat := 0
  /-- Ticks of the scheduler. -/
  ticks : Nat := 0
  /-- Failed transfers. -/
  swapErrors : Nat := 0
  deriving DecidableEq

/-- The user memory of one process. -/
structure AddressSpace where
  table : PageTable
  ledger : Ledger
  swap : SwapSpace
  /-- The number of the frame pool that serves the space. -/
  pool : Nat
  config : Config
  /-- Are the pages tracked, and moved to swap when memory is short? -/
  isPaging : Bool
  stats : PagingStats := {}

/-- An operation on an address space. -/
abbrev SpaceAction (Result : Type) : Type :=
  Action (Hosted AddressSpace) Result

namespace AddressSpace

variable {Result : Type}

/-- Runs an operation on the page table. -/
def onTable (action : Action PageTable Result) : SpaceAction Result :=
  Action.zoom (fun state => state.focus.table)
    (fun table state => { state with focus := { state.focus with table } })
    action

/-- Runs an operation on the ledger. -/
def onLedger (action : Action Ledger Result) : SpaceAction Result :=
  Action.zoom (fun state => state.focus.ledger)
    (fun ledger state => { state with focus := { state.focus with ledger } })
    action

/-- Runs an operation on the swap slots. -/
def onSlots (action : Action SwapSpace Result) : SpaceAction Result :=
  Action.zoom (fun state => state.focus.swap)
    (fun swap state => { state with focus := { state.focus with swap } })
    action

/-- Runs a transfer to or from swap. -/
def onDevice (action : Action SwapDevice Result) : SpaceAction Result :=
  Action.zoom (fun state => ⟨state.focus.swap, state.host.transfers⟩)
    (fun device state =>
      ⟨{ state.focus with swap := device.space },
        { state.host with transfers := device.transfers }⟩)
    action

/-- Runs an operation on the frame pool that serves the space. -/
def onFrames (action : Action FramePool Result) : SpaceAction Result :=
  Action.zoom (fun state => state.host.pool state.focus.pool)
    (fun pool state =>
      { state with host := state.host.setPool state.focus.pool pool })
    action

/-- Runs a step of the replacement policy, which sees the ledger and the page
table. -/
def onPolicy
    (step : Policy → Ledger → PageTable →
      Except Fatal (Result × Ledger × PageTable)) :
    SpaceAction Result :=
  Action.step fun state => do
    let (result, ledger, table) ←
      step state.focus.config.policy state.focus.ledger state.focus.table
    return (result, { state with focus := { state.focus with ledger, table } })

/-- Changes the statistics. -/
def count (change : PagingStats → PagingStats) : SpaceAction Unit :=
  Action.modify fun state =>
    { state with
      focus := { state.focus with stats := change state.focus.stats } }

/-- A value read off the space. -/
def look (value : AddressSpace → Result) : SpaceAction Result :=
  Action.read fun state => value state.focus

/-- The entry of the page that holds `address`. -/
def lookup (address : Nat) : SpaceAction (Option Entry) :=
  onTable (Action.inspect fun table => table.lookup address)

/-- Changes the entry of the page that holds `address`, if it has one. -/
def updateEntry (address : Nat) (change : Entry → Entry) :
    SpaceAction Unit :=
  onTable (Action.modify fun table => table.update address change)

/-- A frame for the space. -/
def takeFrame : SpaceAction Nat := do
  let frame ← onFrames (Action.step fun pool => .ok pool.allocate)
  Action.orFail .outOfMemory frame

/-- Gives a frame back. -/
def releaseFrame (frame : Nat) : SpaceAction Unit :=
  onFrames (Action.change fun pool => pool.release frame)

/-- The contents of a frame. -/
def readFrame (frame : Nat) : SpaceAction Page :=
  onFrames (Action.inspect fun pool => pool.read frame)

/-- Writes `bytes` to the beginning of a frame. -/
def writeFrame (frame : Nat) (bytes : List UInt8) : SpaceAction Unit :=
  onFrames (Action.change fun pool => pool.write frame bytes)

/-- Gives a swap slot back. -/
def releaseSlot (slot : Nat) : SpaceAction Unit :=
  onSlots (Action.change fun swap => swap.release slot)

/-- The frame of a valid page that user code may use. -/
def translate (space : AddressSpace) (address : Nat) : Option Nat :=
  space.table.translate address

/-- An empty space over a page table without entries and a swap space without
claimed slots.  The swap space may have more slots than the configuration asks
for, but not fewer.  The space is under paging if it is eligible and its policy
pages. -/
def make (config : Config) (isEligible : Bool) (pool : Nat)
    (table : PageTable) (swap : SwapSpace) : Action Host AddressSpace := do
  Action.ofResult config.validate
  Action.failUnless (config.maxSwap ≤ swap.capacity)
    (.invalidConfig "swap space smaller than max_swap")
  let isPaging := isEligible && config.policy.isPaging
  Action.modify fun host => host.report (.spaceMade config isPaging)
  let ledger ← Ledger.new config.maxResident config.maxSwap
  return { table, ledger, swap, pool, config, isPaging }

/-- An empty space with just the swap slots that its configuration asks
for. -/
def new (config : Config) (isEligible : Bool) (pool : Nat) :
    Action Host AddressSpace := do
  let swap ← SwapSpace.new config.maxSwap
  make config isEligible pool {} swap

end AddressSpace

end DemandPaging
