import DemandPaging.AddressSpace.Basic
import DemandPaging.Ledger.Consistent
import DemandPaging.PageTable.Leaves
import DemandPaging.Swap.Consistent

/-!
# When the parts of an address space agree

What it means that page table, ledger and swap slots tell the same story, said
of the pages and not by way of a computation.  `AddressSpace.check` in
`DemandPaging.AddressSpace.Consistency` is the test for it.
-/

namespace DemandPaging

namespace AddressSpace

/-- The page at `page` is in memory, as the page table has it. -/
def IsMapped (space : AddressSpace) (page : Nat) : Prop :=
  ∃ entry, (page, entry) ∈ space.table.leaves ∧ entry.isValid = true

/-- The page at `page` is in swap, as the page table has it. -/
def IsPagedOut (space : AddressSpace) (page : Nat) : Prop :=
  ∃ entry, (page, entry) ∈ space.table.leaves ∧ entry.isPagedOut = true

/-- The page at `page` is in memory, as the ledger has it. -/
def IsResident (space : AddressSpace) (page : Nat) : Prop :=
  ∃ (handle : Nat) (tracked : Tracked),
    space.ledger.places[handle]? = some tracked ∧
      tracked.residence = .resident page

/-- The page at `page` is in the slot `slot`, as the ledger has it. -/
def HoldsSlot (space : AddressSpace) (page slot : Nat) : Prop :=
  ∃ (handle : Nat) (tracked : Tracked),
    space.ledger.places[handle]? = some tracked ∧
      tracked.residence = .swapped page slot

/-- In a space under paging the pages in memory are the resident ones, the
pages in swap are the swapped ones, and the claimed slots are theirs, one
each. -/
structure Tracks (space : AddressSpace) : Prop where
  isMapped_iff : ∀ page, space.IsMapped page ↔ space.IsResident page
  isPagedOut_iff : ∀ page,
    space.IsPagedOut page ↔ ∃ slot, space.HoldsSlot page slot
  isClaimed_iff : ∀ slot,
    space.swap.isClaimed slot = true ↔ ∃ page, space.HoldsSlot page slot
  slot_inj : ∀ {first second slot : Nat}, space.HoldsSlot first slot →
    space.HoldsSlot second slot → first = second
  residentCount_le : space.ledger.residentCount ≤ space.ledger.maxResident

/-- The parts of the space agree: no page is both in memory and in swap, and a
space under paging tracks its pages, while one that is not has none in
swap. -/
structure Agrees (space : AddressSpace) : Prop where
  exclusive : ∀ page entry, (page, entry) ∈ space.table.leaves →
    ¬(entry.isValid = true ∧ entry.isPagedOut = true)
  tracks : space.isPaging = true → space.Tracks
  not_isPagedOut : space.isPaging = false → ∀ page, ¬space.IsPagedOut page

end AddressSpace

end DemandPaging
