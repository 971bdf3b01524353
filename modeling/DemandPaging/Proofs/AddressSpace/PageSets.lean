import DemandPaging.Proofs.AddressSpace.Extent
import DemandPaging.Proofs.Ledger.Queue
import DemandPaging.Proofs.Ledger.Swapped
import DemandPaging.Proofs.Pager.Occupancy

/-!
# The pages of a space as sets

The leaves of a page table, the places of a ledger and the claimed slots as
finite sets, and how large each of them is.  Two of them that correspond are
equally large, and one that is part of another as large as itself is all of it.
-/

namespace DemandPaging

namespace Ledger

variable {ledger : Ledger} {page : Nat}

/-- The pages that are in memory. -/
def residentPages (ledger : Ledger) : Finset Nat :=
  (ledger.residents.map ResidentPage.address).toFinset

theorem mem_residentPages : page ∈ ledger.residentPages ↔
    ∃ (handle : Nat) (recency : Nat),
      ledger.places[handle]? = some ⟨.resident page, recency⟩ := by
  rw [residentPages, List.mem_toFinset, List.mem_map]
  constructor
  · rintro ⟨resident, member, rfl⟩
    exact ⟨_, _, mem_residents_iff.mp member⟩
  · rintro ⟨handle, recency, place⟩
    exact ⟨⟨handle, page, recency⟩, mem_residents_iff.mpr place, rfl⟩

theorem IsConsistent.card_residentPages (consistent : ledger.IsConsistent) :
    ledger.residentPages.card = ledger.residentCount := by
  rw [residentPages, List.toFinset_card_of_nodup, List.length_map,
    consistent.length_residents]
  refine ledger.nodup_residents.map_on ?_
  rintro ⟨first, page, recency⟩ isFirst ⟨second, _, otherRecency⟩ isSecond
    same
  obtain rfl : page = _ := same
  have place := mem_residents_iff.mp isFirst
  have otherPlace := mem_residents_iff.mp isSecond
  obtain rfl : first = second :=
    consistent.handle_unique place otherPlace rfl rfl rfl
  cases place.symm.trans otherPlace
  rfl

end Ledger

namespace PageTable

variable {table : PageTable} {kind : Entry → Bool} {page : Nat}

/-- The pages whose leaves are of a kind. -/
def pagesOfKind (table : PageTable) (kind : Entry → Bool) : Finset Nat :=
  ((table.leaves.filter fun leaf => kind leaf.2).map Prod.fst).toFinset

theorem mem_pagesOfKind : page ∈ table.pagesOfKind kind ↔
    ∃ entry, (page, entry) ∈ table.leaves ∧ kind entry = true := by
  simp only [pagesOfKind, List.mem_toFinset, List.mem_map, List.mem_filter,
    Prod.exists]
  constructor
  · rintro ⟨_, entry, leaf, rfl⟩
    exact ⟨entry, leaf⟩
  · rintro ⟨entry, leaf⟩
    exact ⟨page, entry, leaf, rfl⟩

theorem card_pagesOfKind (table : PageTable) (kind : Entry → Bool) :
    (table.pagesOfKind kind).card =
      table.leaves.countP fun leaf => kind leaf.2 := by
  have nodup : ((table.leaves.filter fun leaf =>
      kind leaf.2).map Prod.fst).Nodup :=
    List.Nodup.sublist (List.filter_sublist.map _)
      ((List.pairwise_map.mpr table.pairwise_leaves).imp Nat.ne_of_lt)
  rw [pagesOfKind, List.toFinset_card_of_nodup nodup, List.length_map,
    List.countP_eq_length_filter]

end PageTable

namespace AddressSpace

variable {space : AddressSpace} {page : Nat}

theorem mem_residentPages_iff :
    page ∈ space.ledger.residentPages ↔ space.IsResident page := by
  rw [Ledger.mem_residentPages]
  constructor
  · rintro ⟨handle, recency, place⟩
    exact ⟨handle, _, place, rfl⟩
  · rintro ⟨handle, ⟨residence, recency⟩, place, resident⟩
    obtain rfl : residence = .resident page := resident
    exact ⟨handle, recency, place⟩

theorem mem_swappedPages_iff :
    page ∈ space.ledger.swappedPages ↔ ∃ slot, space.HoldsSlot page slot := by
  rw [Ledger.mem_swappedPages]
  constructor
  · rintro ⟨handle, ⟨residence, recency⟩, place, swapped, same⟩
    cases residence with
    | free => cases swapped
    | resident other => cases swapped
    | swapped other slot =>
        obtain rfl : other = page := same
        exact ⟨slot, handle, _, place, rfl⟩
  · rintro ⟨slot, handle, ⟨residence, recency⟩, place, swapped⟩
    obtain rfl : residence = .swapped page slot := swapped
    exact ⟨handle, _, place, rfl, rfl⟩

/-- Where leaves and places correspond, the pages in memory are the resident
ones. -/
theorem Tracks.pagesOfKind_isValid (tracks : space.Tracks) :
    space.table.pagesOfKind Entry.isValid = space.ledger.residentPages := by
  ext page
  rw [mem_residentPages_iff, ← tracks.isMapped_iff, PageTable.mem_pagesOfKind]
  rfl

/-- Where leaves and places correspond, the pages in swap are the swapped
ones. -/
theorem Tracks.pagesOfKind_isPagedOut (tracks : space.Tracks) :
    space.table.pagesOfKind Entry.isPagedOut = space.ledger.swappedPages := by
  ext page
  rw [mem_swappedPages_iff, ← tracks.isPagedOut_iff, PageTable.mem_pagesOfKind]
  rfl

/-- Where leaves and places correspond, as many pages are resident as are in
memory. -/
theorem Tracks.residentCount_eq (tracks : space.Tracks)
    (consistent : space.ledger.IsConsistent) :
    space.ledger.residentCount = space.mappedCount := by
  rw [← consistent.card_residentPages, ← tracks.pagesOfKind_isValid,
    PageTable.card_pagesOfKind, mappedCount]

end AddressSpace

end DemandPaging
