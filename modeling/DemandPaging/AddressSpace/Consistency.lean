import DemandPaging.AddressSpace.Basic

/-!
# Checking an address space

The check passes if page table, ledger and swap slots agree: the valid pages
are the resident ones, the paged-out pages are the swapped ones, every swapped
page has a claimed slot of its own, and no other slot is claimed.
-/

namespace DemandPaging

namespace AddressSpace

/-- Checks a page of a space under paging against the ledger and the slots.
Gives the slot of a paged-out page. -/
def checkTracked (space : AddressSpace) (page : Nat) (entry : Entry) :
    Except Fatal (Option Nat) := do
  match space.ledger.find? page with
  | none => throw (.leafNotTracked page)
  | some handle =>
    let tracked ← space.ledger.get handle
    ensure (tracked.address = page) .wrongIndex
    if entry.isValid then
      ensure tracked.isResident (.validTrackedAs page tracked.residence)
      return none
    else
      match tracked.residence with
      | .swapped _ slot =>
        ensure (space.swap.isClaimed slot) (.slotOfPageFree slot page)
        return some slot
      | residence => throw (.pagedOutTrackedAs page residence)

/-- Checks one page that is in memory or in swap.  Gives the slot of a
paged-out page. -/
def checkLeaf (space : AddressSpace) (leaf : Nat × Entry) :
    Except Fatal (Option Nat) := do
  let (page, entry) := leaf
  ensure (!(entry.isValid && entry.isPagedOut)) (.bothPresentAndPagedOut page)
  if space.isPaging then
    space.checkTracked page entry
  else
    ensure (!entry.isPagedOut) (.pagedOutWithoutPaging page)
    return none

/-- Checks all pages; gives the slot of each that is paged out. -/
def checkLeaves (space : AddressSpace) :
    List (Nat × Entry) → Except Fatal (List (Option Nat))
  | [] => .ok []
  | leaf :: leaves => do
    let slot ← space.checkLeaf leaf
    return slot :: (← space.checkLeaves leaves)

/-- Checks that page table, ledger and swap slots agree. -/
def check (space : AddressSpace) : Except Fatal Unit := do
  let held ← space.checkLeaves space.table.leaves
  if space.isPaging then
    let slots := held.filterMap id
    ensure (held.countP Option.isNone = space.ledger.residentCount)
      .residentCountDrifted
    ensure (slots.length = space.ledger.swappedCount) .swappedCountDrifted
    ensure (space.ledger.residentCount ≤ space.ledger.maxResident)
      .residentBeyondCeiling
    ensure (space.ledger.trackedCount ≤ space.ledger.capacity)
      .trackedBeyondCapacity
    ensure (space.swap.inUse = slots.length) .slotsLeaked
    ensure slots.Nodup .slotShared

end AddressSpace

end DemandPaging
