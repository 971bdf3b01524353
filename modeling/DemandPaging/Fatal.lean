import DemandPaging.Entry
import DemandPaging.Ledger.Tracked

/-!
# Fatal errors

A fatal error is a broken rule of use or a broken invariant: it ends the run,
and no state survives it.  Each cause carries the values that its message
shows; `Fatal.message` has the wording.  Errors that a caller recovers from are
in `DemandPaging.PagingError`.
-/

namespace DemandPaging

/-- Why a run ends. -/
inductive Fatal where
  /-- A sum or product left the 64-bit range. -/
  | overflow
  /-- An index or a slice lies outside its array. -/
  | outOfBounds
  /-- A page table was asked for an address beyond user memory. -/
  | walkBeyondLimit (address : Nat)
  /-- A mapping of no bytes was asked for. -/
  | emptyMapping
  /-- A mapping would replace a valid entry. -/
  | remapped (page : Nat)
  /-- A page table that still has a page was to be destroyed. -/
  | leafLeft (page : Nat)
  /-- The address is not that of a frame of the pool. -/
  | badFrame (frame : Nat)
  /-- The frame is not lent out. -/
  | frameNotAllocated (frame : Nat)
  /-- The system's frame pool was used before it was made. -/
  | noFramePool
  | slotAlreadyClaimed (slot : Nat)
  /-- A slot was given back that nobody held. -/
  | slotNotClaimed (slot : Nat)
  /-- A page was to become resident beyond the ceiling. -/
  | residentSetFull (ceiling page : Nat)
  | alreadyTracked (page handle : Nat)
  /-- A place of the ledger holds another page than the one named. -/
  | holdsOtherPage (handle held page : Nat)
  | alreadyResident (page : Nat)
  /-- A page was to be marked swapped out that is not resident there. -/
  | notResidentAt (page handle : Nat) (residence : Residence)
  | releasingFree (handle : Nat)
  | adoptingIntoBusy (handle : Nat)
  | adoptingFree
  | adoptingBeyondCeiling (page : Nat)
  | adoptingTracked (page : Nat)
  /-- A victim was asked for while no page is resident. -/
  | nothingResident
  /-- A victim was asked for of a policy that does not page. -/
  | pagingDisabled
  /-- The page table has no entry for a resident page that is to be aged. -/
  | agedWithoutEntry (page : Nat)
  /-- The page table has no entry for the page at the front of the queue. -/
  | queuedWithoutEntry (page : Nat)
  /-- The first program does not fit in a page. -/
  | firstPageTooLong
  /-- User access was to be withdrawn where there is no entry. -/
  | clearWithoutEntry (address : Nat)
  /-- A page was to be tracked that is not mapped. -/
  | enrollUnmapped (address : Nat)
  | enrollWithoutPlace (address : Nat)
  /-- A page was to be evicted while every slot is taken. -/
  | swapFull
  /-- The chosen victim has no valid entry. -/
  | victimEntry (page : Nat) (found : Option Entry)
  | pageInBoth (page : Nat)
  | pageInNotSwapped (page : Nat)
  | unmapUnaligned
  | unmapWithoutEntry (page : Nat)
  | unmapNotMapped (page : Nat)
  | unmapBoth (page : Nat)
  | unmapNotLeaf (page : Nat)
  | unmapPagedOutUntracked (page : Nat)
  | unmapNotTracked (page : Nat)
  /-- The ledger and the page table disagree on a page being unmapped. -/
  | unmapMismatch (page : Nat) (residence : Residence) (entry : Entry)
  /-- Pages are tracked after all memory has been unmapped. -/
  | stillTracked (count : Nat)
  | forkLimitsDiffer
  | forkWithoutEntry (page : Nat)
  | forkNotPresent (page : Nat)
  | forkBoth (page : Nat)
  | forkNotTracked (page : Nat)
  | forkWithoutSlot (page : Nat)
  /-- A process was to be copied into itself. -/
  | forkIntoItself (pid : Nat)
  /-- A process with memory was to receive a copy. -/
  | forkIntoOccupied (pid : Nat)
  /-- An entry is both valid and paged out. -/
  | bothPresentAndPagedOut (page : Nat)
  | pagedOutWithoutPaging (page : Nat)
  | leafNotTracked (page : Nat)
  /-- The ledger's index leads to a place that holds another page. -/
  | wrongIndex
  | validTrackedAs (page : Nat) (residence : Residence)
  | pagedOutTrackedAs (page : Nat) (residence : Residence)
  /-- The slot of a swapped page is not claimed. -/
  | slotOfPageFree (slot page : Nat)
  | residentCountDrifted
  | swappedCountDrifted
  | residentBeyondCeiling
  | trackedBeyondCapacity
  | slotsLeaked
  | slotShared
  deriving DecidableEq

namespace Fatal

open Text in
/-- The wording of a fatal error.  A departure from 64-bit range or from the
bounds of an array has none: it is told by its kind alone. -/
def message : Fatal → Option String
  | overflow => none
  | outOfBounds => none
  | walkBeyondLimit address =>
    some s!"walk: {hexLiteral address} beyond MAXVA"
  | emptyMapping => some "mappages: size"
  | remapped page => some s!"mappages: remap {hexLiteral page}"
  | leafLeft page => some s!"freewalk: leaf {hexLiteral page}"
  | badFrame frame => some s!"kfree: bad frame {hexLiteral frame}"
  | frameNotAllocated frame =>
    some s!"frame {hexLiteral frame} is not allocated"
  | noFramePool => some "frame pool not initialized"
  | slotAlreadyClaimed slot => some s!"swap slot {slot} already claimed"
  | slotNotClaimed slot => some s!"swap slot {slot} released twice"
  | residentSetFull ceiling page =>
    some s!"ledger: resident set full ({ceiling}) admitting {hexLiteral page}"
  | alreadyTracked page handle =>
    some s!"ledger: {hexLiteral page} already tracked by entry {handle}"
  | holdsOtherPage handle held page =>
    some (s!"ledger: entry {handle} holds {hexLiteral held}, " ++
      s!"not {hexLiteral page}")
  | alreadyResident page =>
    some s!"ledger: {hexLiteral page} is already resident"
  | notResidentAt page handle residence =>
    some (s!"ledger: swapping out {hexLiteral page} from entry {handle} " ++
      s!"in state {residence.describe}")
  | releasingFree handle => some s!"ledger: releasing free entry {handle}"
  | adoptingIntoBusy handle =>
    some s!"ledger: adopting into busy entry {handle}"
  | adoptingFree => some "ledger: adopting a free entry"
  | adoptingBeyondCeiling page =>
    some s!"ledger: resident set full adopting {hexLiteral page}"
  | adoptingTracked page =>
    some s!"ledger: {hexLiteral page} already tracked"
  | nothingResident => some "select_victim: no resident pages"
  | pagingDisabled => some "select_victim: paging disabled"
  | agedWithoutEntry page =>
    some s!"aging: resident page {hexLiteral page} has no pte"
  | queuedWithoutEntry page =>
    some s!"scfifo: resident page {hexLiteral page} has no pte"
  | firstPageTooLong => some "uvmfirst: more than a page"
  | clearWithoutEntry address => some s!"uvmclear: {hexLiteral address}"
  | enrollUnmapped address =>
    some s!"admit: {hexLiteral address} is not mapped"
  | enrollWithoutPlace address =>
    some s!"admit: no free ledger entry for {hexLiteral address}"
  | swapFull => some "evict: swap file is full"
  | victimEntry page found =>
    some (s!"evict: victim {hexLiteral page} has pte " ++
      Entry.describeOption found)
  | pageInBoth page =>
    some s!"fault_in: {hexLiteral page} both present and paged out"
  | pageInNotSwapped page =>
    some s!"fault_in: {hexLiteral page} paged out but not in swap"
  | unmapUnaligned => some "uvmunmap: not aligned"
  | unmapWithoutEntry page => some s!"uvmunmap: walk {hexLiteral page}"
  | unmapNotMapped page => some s!"uvmunmap: not mapped {hexLiteral page}"
  | unmapBoth page =>
    some s!"uvmunmap: {hexLiteral page} both present and paged out"
  | unmapNotLeaf page => some s!"uvmunmap: not a leaf {hexLiteral page}"
  | unmapPagedOutUntracked page =>
    some s!"uvmunmap: paged-out {hexLiteral page} in a non-paging space"
  | unmapNotTracked page =>
    some s!"uvmunmap: {hexLiteral page} mapped but not tracked"
  | unmapMismatch page residence entry =>
    some (s!"uvmunmap: {hexLiteral page} tracked {residence.describe} " ++
      s!"but pte {entry.describe}")
  | stillTracked count => some s!"uvmfree: {count} pages still tracked"
  | forkLimitsDiffer =>
    some "uvmcopy: parent and child paging limits differ"
  | forkWithoutEntry page =>
    some s!"uvmcopy: pte should exist {hexLiteral page}"
  | forkNotPresent page => some s!"uvmcopy: page not present {hexLiteral page}"
  | forkBoth page =>
    some s!"uvmcopy: {hexLiteral page} both present and paged out"
  | forkNotTracked page => some s!"uvmcopy: {hexLiteral page} not tracked"
  | forkWithoutSlot page =>
    some s!"uvmcopy: {hexLiteral page} swapped without a slot"
  | forkIntoItself pid => some s!"fork_copy: pid {pid} into itself"
  | forkIntoOccupied pid => some s!"fork_copy: pid {pid} already has memory"
  | bothPresentAndPagedOut page =>
    some s!"{hexLiteral page} both present and paged out"
  | pagedOutWithoutPaging page =>
    some s!"{hexLiteral page} paged out without paging"
  | leafNotTracked page => some s!"leaf {hexLiteral page} is not tracked"
  | wrongIndex => some "index points at the wrong entry"
  | validTrackedAs page residence =>
    some s!"valid {hexLiteral page} tracked as {residence.describe}"
  | pagedOutTrackedAs page residence =>
    some s!"paged-out {hexLiteral page} tracked as {residence.describe}"
  | slotOfPageFree slot page =>
    some s!"slot {slot} of {hexLiteral page} not claimed"
  | residentCountDrifted => some "resident count drifted"
  | swappedCountDrifted => some "swapped count drifted"
  | residentBeyondCeiling => some "resident pages exceed the ceiling"
  | trackedBeyondCapacity => some "tracked pages exceed the ledger"
  | slotsLeaked => some "swap slots leaked"
  | slotShared => some "swap slot shared by two pages"

end Fatal

/-- Ends the run with `cause` unless the condition holds. -/
def ensure (condition : Prop) [Decidable condition] (cause : Fatal) :
    Except Fatal Unit :=
  if condition then .ok () else .error cause

@[simp]
theorem ensure_eq_ok_iff {condition : Prop} [Decidable condition]
    {cause : Fatal} {result : Unit} :
    ensure condition cause = .ok result ↔ condition := by
  unfold ensure
  split <;> simp_all

/-- A sequence succeeds exactly when its first part succeeds and the rest
succeeds from there. -/
theorem bind_eq_ok_iff {First Second : Type} {first : Except Fatal First}
    {next : First → Except Fatal Second} {result : Second} :
    first >>= next = .ok result ↔
      ∃ middle, first = .ok middle ∧ next middle = .ok result := by
  cases first with
  | ok middle =>
      constructor
      · exact fun success => ⟨middle, rfl, success⟩
      · rintro ⟨_, ⟨⟩, success⟩
        exact success
  | error cause =>
      constructor
      · exact fun success => nomatch success
      · rintro ⟨_, ⟨⟩, _⟩

theorem ensure_of_holds {condition : Prop} [Decidable condition]
    (cause : Fatal) (holds : condition) :
    ensure condition cause = .ok () :=
  if_pos holds

theorem ensure_of_fails {condition : Prop} [Decidable condition]
    (cause : Fatal) (fails : ¬condition) :
    ensure condition cause = .error cause :=
  if_neg fails

end DemandPaging
