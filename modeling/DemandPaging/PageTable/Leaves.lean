import DemandPaging.PageTable

/-!
# The leaves of a page table

The list of leaves is the view of a page table as a whole: it has each page
that is in memory or in swap once, with its entry, in the order of addresses
(`mem_leaves_iff`, `pairwise_leaves`).
-/

namespace DemandPaging

namespace PageTable

variable {table after : PageTable} {page : Nat} {entry : Entry}

theorem mem_leavesOf_iff {group : Nat} {entries : Vector Entry tableSize} :
    (page, entry) ∈ leavesOf group entries ↔
      ∃ place : Fin tableSize, entries[place] = entry ∧
        entry.isPresent = true ∧ page = pageAt group place := by
  simp only [leavesOf, List.mem_filterMap, Prod.exists,
    List.mem_zipIdx_iff_getElem?, Option.ite_none_right_eq_some,
    Option.some.injEq, Prod.mk.injEq, Vector.getElem?_toList]
  constructor
  · rintro ⟨held, place, found, isPresent, rfl, rfl⟩
    obtain ⟨inside, rfl⟩ := Vector.getElem?_eq_some_iff.mp found
    exact ⟨⟨place, inside⟩, rfl, isPresent, rfl⟩
  · rintro ⟨place, rfl, isPresent, rfl⟩
    exact ⟨_, place, Vector.getElem?_eq_getElem place.isLt, isPresent, rfl,
      rfl⟩

/-- The leaves are the pages whose entries say that they are in memory or in
swap. -/
theorem mem_leaves_iff :
    (page, entry) ∈ table.leaves ↔
      Address.isPageAligned page = true ∧ table.get? page = some entry ∧
        entry.isPresent = true := by
  simp only [leaves, List.mem_flatMap, Prod.exists,
    Std.TreeMap.mem_toList_iff_getElem?_eq_some, mem_leavesOf_iff]
  constructor
  · rintro ⟨group, entries, found, place, rfl, isPresent, rfl⟩
    have sameGroup : PageTable.group (pageAt group place) = group :=
      group_pageAt place.isLt
    have samePlace : PageTable.place (pageAt group place) = place :=
      Fin.ext (place_pageAt place.isLt)
    refine ⟨?_, ?_, isPresent⟩
    · simp only [Address.isPageAligned_iff, pageAt, pageSize]
      omega
    · simp only [get?, sameGroup, samePlace, found, Option.map_some]
  · rintro ⟨aligned, found, isPresent⟩
    obtain ⟨entries, entriesFound, rfl⟩ := Option.map_eq_some_iff.mp found
    refine ⟨_, entries, entriesFound, _, rfl, isPresent, ?_⟩
    rw [pageAt_group_place, Address.pageBase_eq_self_iff.mpr aligned]

private theorem pairwise_leavesOf (group : Nat)
    (entries : Vector Entry tableSize) :
    (leavesOf group entries).Pairwise fun first second =>
      first.1 < second.1 := by
  have ordered : (entries.toList.zipIdx).Pairwise fun first second =>
      first.2 < second.2 := by
    rw [← List.pairwise_map (f := Prod.snd), List.zipIdx_map_snd]
    exact List.pairwise_lt_range'
  refine List.Pairwise.filterMap _ ?_ ordered
  rintro ⟨first, place⟩ ⟨second, other⟩ less leaf selected otherLeaf chosen
  simp only [Option.ite_none_right_eq_some, Option.some.injEq]
    at selected chosen
  obtain ⟨_, rfl⟩ := selected
  obtain ⟨_, rfl⟩ := chosen
  simp only [pageAt, pageSize] at less ⊢
  omega

/-- The leaves are in the order of their addresses, and no page comes twice. -/
theorem pairwise_leaves (table : PageTable) :
    table.leaves.Pairwise fun first second => first.1 < second.1 := by
  rw [leaves, List.pairwise_flatMap]
  refine ⟨fun group _ => pairwise_leavesOf group.1 group.2, ?_⟩
  refine table.tables.ordered_keys_toList.imp ?_
  rintro ⟨group, entries⟩ ⟨otherGroup, otherEntries⟩ less ⟨page, entry⟩ member
    ⟨otherPage, otherEntry⟩ otherMember
  obtain ⟨place, _, _, rfl⟩ := mem_leavesOf_iff.mp member
  obtain ⟨otherPlace, _, _, rfl⟩ := mem_leavesOf_iff.mp otherMember
  have groupLess : group < otherGroup := Nat.compare_eq_lt.mp less
  have inside := place.isLt
  simp only [pageAt, tableSize, pageSize] at inside ⊢
  omega

@[simp]
theorem leaves_new (budget : Option Nat) : (new budget).leaves = [] := by
  rw [List.eq_nil_iff_forall_not_mem]
  rintro ⟨page, entry⟩ member
  obtain ⟨_, found, _⟩ := mem_leaves_iff.mp member
  simp at found

theorem lookup_eq_ok_iff {address : Nat} {found : Option Entry} :
    table.lookup address = .ok found ↔
      address < addressLimit ∧ found = table.get? address := by
  unfold lookup checkAddress
  split
  · rename_i inside
    simp only [inside, true_and]
    exact ⟨fun success => (Except.ok.inj success).symm,
      fun same => congrArg Except.ok same.symm⟩
  · rename_i outside
    exact ⟨fun success => (nomatch success),
      fun success => absurd success.1 outside⟩

theorem destroy_eq_ok_iff :
    table.destroy = .ok after ↔
      table.leaves = [] ∧ after = new table.budget := by
  unfold destroy
  split
  · rename_i noLeaf
    simp only [noLeaf, true_and]
    exact ⟨fun success => (Except.ok.inj success).symm,
      fun same => congrArg Except.ok same.symm⟩
  · rename_i leaf
    constructor
    · exact fun success => (nomatch success)
    · rw [leaf]
      exact fun success => (nomatch success.1)

end PageTable

end DemandPaging
