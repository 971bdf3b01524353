import DemandPaging.Proofs.Unmapping.Pages

/-!
# A run of pages that is unmapped

The pages of a run go one after another, and each leaves a space that is intact
with the rest of the run as it was.  So either all of them are there, and then
exactly they go, or the run ends at the first one that is not.
-/

namespace DemandPaging

namespace AddressSpace

variable {state after : Hosted AddressSpace} {freeing : Bool}
  {page other address count : Nat}

/-- The pages of a run of `count` pages, the first at `page`. -/
def pagesFrom (page count : Nat) : Finset Nat :=
  (Finset.range count).image fun index => page + index * pageSize

theorem mem_pagesFrom : other ∈ pagesFrom page count ↔
    ∃ index < count, page + index * pageSize = other := by
  simp [pagesFrom]

theorem pagesFrom_succ (page count : Nat) :
    pagesFrom page (count + 1) =
      {page} ∪ pagesFrom (page + pageSize) count := by
  ext other
  simp only [Finset.mem_union, Finset.mem_singleton, mem_pagesFrom]
  constructor
  · rintro ⟨index, inside, rfl⟩
    cases index with
    | zero => exact .inl (by rw [Nat.zero_mul, Nat.add_zero])
    | succ index =>
        exact .inr ⟨index, Nat.lt_of_succ_lt_succ inside,
          (Address.add_succ_mul_pageSize page index).symm⟩
  · rintro (rfl | ⟨index, inside, rfl⟩)
    · exact ⟨0, Nat.succ_pos count, by rw [Nat.zero_mul, Nat.add_zero]⟩
    · exact ⟨index + 1, Nat.succ_lt_succ inside,
        Address.add_succ_mul_pageSize page index⟩

theorem mem_pagesFrom_head (page count : Nat) :
    page ∈ pagesFrom page (count + 1) := by
  rw [pagesFrom_succ]
  exact Finset.mem_union_left _ (Finset.mem_singleton_self page)

theorem disjoint_pagesFrom (page count : Nat) :
    Disjoint {page} (pagesFrom (page + pageSize) count) := by
  rw [Finset.disjoint_singleton_left, mem_pagesFrom]
  rintro ⟨index, _, same⟩
  simp only [pageSize] at same
  omega

theorem pageBase_of_mem_pagesFrom (aligned : Address.pageBase page = page)
    (member : other ∈ pagesFrom page count) :
    Address.pageBase other = other := by
  obtain ⟨index, _, rfl⟩ := mem_pagesFrom.mp member
  exact Address.pageBase_add_mul aligned index

/-- The page can be unmapped: it is one of the address space, and it is in
memory or in swap. -/
def IsUnmappable (state : Hosted AddressSpace) (page : Nat) : Prop :=
  page < addressLimit ∧ ((pager state).entryAt page).isPresent = true

/-- The first page of a run goes, and the pages behind it are there if they
were. -/
theorem IsIntact.exists_unmapPage (intact : IsIntact state) (freeing : Bool)
    (aligned : Address.pageBase page = page)
    (isThere : IsUnmappable state page) :
    ∃ middle, (unmapPage freeing page).run state = .done () middle ∧
      Unmaps freeing {page} state middle ∧ IsIntact middle ∧
      ∀ count, ∀ other ∈ pagesFrom (page + pageSize) count,
        IsUnmappable middle other ↔ IsUnmappable state other := by
  have meets : ((unmapPage freeing page).run state).Meets (fun _ => False)
      (fun _ => Strips freeing state page) fun _ _ => False :=
    intact.strips_unmapPage freeing aligned isThere.1 isThere.2
  obtain ⟨_, middle, ran, strips⟩ := meets.exists_done
  have unmaps := strips.unmaps intact
  refine ⟨middle, ran, unmaps, strips.isIntact intact,
    fun count other behind => ?_⟩
  rw [IsUnmappable, unmaps.entryAt_of_not_mem
    (pageBase_of_mem_pagesFrom (Address.pageBase_next aligned) behind)
    (Finset.disjoint_right.mp (disjoint_pagesFrom page count) behind)]
  rfl

/-- A run of pages that are there goes. -/
theorem IsIntact.exists_unmapRun (intact : IsIntact state) (freeing : Bool)
    (aligned : Address.pageBase page = page)
    (areThere : ∀ other ∈ pagesFrom page count, IsUnmappable state other) :
    ∃ after, (unmapRun freeing page count).run state = .done () after ∧
      Unmaps freeing (pagesFrom page count) state after ∧ IsIntact after := by
  induction count generalizing page state with
  | zero => exact ⟨state, rfl, .nothing freeing state, intact⟩
  | succ count ih =>
      obtain ⟨middle, ran, unmaps, stillIntact, remains⟩ :=
        intact.exists_unmapPage freeing aligned
          (areThere page (mem_pagesFrom_head page count))
      rw [pagesFrom_succ] at areThere ⊢
      obtain ⟨after, ranRest, unmapsRest, intactAfter⟩ :=
        ih stillIntact (Address.pageBase_next aligned) fun other behind =>
          (remains count other behind).mpr
            (areThere other (Finset.mem_union_right _ behind))
      refine ⟨after, ?_, unmaps.trans unmapsRest
        (disjoint_pagesFrom page count), intactAfter⟩
      rw [unmapRun, Action.run_bind_of_done ran]
      exact ranRest

theorem IsIntact.run_unmapRun_of_missing (intact : IsIntact state)
    (freeing : Bool) (aligned : Address.pageBase page = page)
    (isMissing : ∃ other ∈ pagesFrom page count, ¬IsUnmappable state other) :
    ∃ cause, (unmapRun freeing page count).run state = .fatal cause := by
  induction count generalizing page state with
  | zero =>
      obtain ⟨other, member, _⟩ := isMissing
      exact absurd member (Finset.notMem_empty other)
  | succ count ih =>
      rw [unmapRun]
      by_cases isThere : IsUnmappable state page
      case neg =>
        rw [IsUnmappable, not_and_or, Nat.not_lt, Bool.not_eq_true] at isThere
        obtain ⟨cause, ends⟩ := run_unmapPage_of_missing freeing isThere
        exact ⟨cause, Action.run_bind_of_fatal ends⟩
      obtain ⟨middle, ran, _, stillIntact, remains⟩ :=
        intact.exists_unmapPage freeing aligned isThere
      rw [Action.run_bind_of_done ran]
      obtain ⟨other, member, missing⟩ := isMissing
      rw [pagesFrom_succ, Finset.mem_union, Finset.mem_singleton] at member
      obtain rfl | behind := member
      · exact absurd isThere missing
      · exact ih stillIntact (Address.pageBase_next aligned)
          ⟨other, behind, mt (remains count other behind).mp missing⟩

/-- Unmapping takes exactly the pages of its run away, and leaves a space that
is intact.  If one of them is neither in memory nor in swap, or lies beyond the
address space, it is fatal. -/
theorem unmap_takes_run_away (intact : IsIntact state)
    (aligned : Address.isPageAligned address = true) (count : Nat)
    (freeing : Bool) :
    ((∀ page ∈ pagesFrom address count, IsUnmappable state page) →
      ∃ after, (unmap address count freeing).run state = .done () after ∧
        Unmaps freeing (pagesFrom address count) state after ∧
        IsIntact after) ∧
    ((∃ page ∈ pagesFrom address count, ¬IsUnmappable state page) →
      ∃ cause, (unmap address count freeing).run state = .fatal cause) := by
  have runs : (unmap address count freeing).run state =
      (unmapRun freeing address count).run state :=
    Action.run_bind_of_done (by rw [Action.run_crashUnless, if_pos aligned])
  have base := Address.pageBase_eq_self_iff.mpr aligned
  rw [runs]
  exact ⟨intact.exists_unmapRun freeing base,
    intact.run_unmapRun_of_missing freeing base⟩

theorem unmap_takes_run_away_from_crowded :
    IsIntact crowdedSpace ∧ Address.isPageAligned 0 = true ∧
      (∃ after, (unmap 0 1 true).run crowdedSpace = .done () after ∧
        Unmaps true (pagesFrom 0 1) crowdedSpace after ∧ IsIntact after) ∧
      ∃ cause, (unmap 0 2 true).run crowdedSpace = .fatal cause := by
  have intact := wellFormed_crowdedSpace.isIntact
  have aligned : Address.isPageAligned 0 = true := rfl
  have entry : ∀ page, Address.pageBase page = page →
      (pager crowdedSpace).entryAt page =
        if page = 0 then Entry.pagedOut { read := true, user := true }
        else Entry.empty := fun page isBase => by
    have written := entryAt_write_small
      (Entry.pagedOut { read := true, user := true }) page
    rwa [isBase] at written
  refine ⟨intact, aligned,
    (unmap_takes_run_away intact aligned 1 true).1 fun page member => ?_,
    (unmap_takes_run_away intact aligned 2 true).2
      ⟨pageSize, by decide, ?_⟩⟩
  · obtain rfl : page = 0 := Finset.mem_singleton.mp member
    rw [IsUnmappable, entry 0 rfl]
    decide
  · rw [IsUnmappable, entry pageSize rfl]
    decide

end AddressSpace

end DemandPaging
