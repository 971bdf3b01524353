import DemandPaging.Proofs.AddressSpace.Checking
import DemandPaging.Proofs.Growth.Leaving

/-!
# Spaces that are intact

What unmapping asks of a space is less than that it is well-formed: the check
passes, the parts are consistent in themselves, and the pages in memory can be
read and have frames of their own.  Nothing is asked of the sizes of the parts
or of the configuration, and where the space is not under paging nothing of
what its ledger says.
-/

namespace DemandPaging

namespace AddressSpace

variable {state before after : Hosted AddressSpace} {page address other : Nat}
  {entry : Entry}

/-- The check passes, the parts are consistent in themselves, and every page in
memory can be read and has a lent frame that no other page of the space has. -/
structure IsIntact (state : Hosted AddressSpace) : Prop where
  passes : state.focus.check = .ok ()
  ledger : state.focus.ledger.IsConsistent
  swap : state.focus.swap.IsConsistent
  pool : (state.host.pool state.focus.pool).IsConsistent
  pool_lt : state.focus.pool < state.host.pools.size
  readable : ∀ page entry, (page, entry) ∈ state.focus.table.leaves →
    entry.isValid = true → entry.flags.read = true
  framed : ∀ page entry, (page, entry) ∈ state.focus.table.leaves →
    entry.isValid = true → ∃ contents,
      (state.host.pool state.focus.pool).read entry.address = .ok contents
  frame_inj : ∀ first second firstEntry secondEntry,
    (first, firstEntry) ∈ state.focus.table.leaves →
      (second, secondEntry) ∈ state.focus.table.leaves →
        firstEntry.isValid = true → secondEntry.isValid = true →
          firstEntry.address = secondEntry.address → first = second

theorem WellFormed.isIntact (wellFormed : WellFormed state) :
    IsIntact state where
  passes := wellFormed.agrees.check_eq_ok wellFormed.ledger wellFormed.swap
  ledger := wellFormed.ledger
  swap := wellFormed.swap
  pool := wellFormed.pool
  pool_lt := wellFormed.pool_lt
  readable := wellFormed.readable
  framed := wellFormed.framed
  frame_inj := wellFormed.frame_inj

theorem leaf_of_isPresent
    (isPresent : ((pager state).entryAt address).isPresent = true) :
    (Address.pageBase address, (pager state).entryAt address) ∈
      state.focus.table.leaves :=
  PageTable.mem_leaves_iff_entryAt.mpr ⟨Address.pageBase_pageBase address,
    (pager state).entryAt_pageBase address, isPresent⟩

namespace IsIntact

variable (intact : IsIntact state)
include intact

theorem agrees : state.focus.Agrees :=
  agrees_of_check intact.ledger intact.swap intact.passes

theorem isPagedOut_of_isValid
    (isValid : ((pager state).entryAt address).isValid = true) :
    ((pager state).entryAt address).isPagedOut = false := by
  have leaf := leaf_of_isPresent (Pager.isPresent_of_isValid isValid)
  rw [← Bool.not_eq_true]
  exact fun isPagedOut =>
    intact.agrees.exclusive _ _ leaf ⟨isValid, isPagedOut⟩

theorem isPagedOut_of_not_isPaging (notPaging : state.focus.isPaging = false)
    (address : Nat) : ((pager state).entryAt address).isPagedOut = false := by
  rw [← Bool.not_eq_true, ← Pager.entryAt_pageBase]
  intro isPagedOut
  exact intact.agrees.not_isPagedOut notPaging _ ((isPagedOut_iff state _).mpr
    ⟨Address.pageBase_pageBase address, isPagedOut⟩)

theorem isReadable (isValid : ((pager state).entryAt address).isValid = true) :
    ((pager state).entryAt address).flags.read = true :=
  intact.readable _ _ (leaf_of_isPresent (Pager.isPresent_of_isValid isValid))
    isValid

theorem contents?_frame
    (isValid : ((pager state).entryAt address).isValid = true) :
    ∃ contents, (pager state).frames.contents?
      ((pager state).entryAt address).address = some contents := by
  obtain ⟨contents, holds⟩ := intact.framed _ _
    (leaf_of_isPresent (Pager.isPresent_of_isValid isValid)) isValid
  exact ⟨contents, FramePool.contents?_eq_some_iff.mpr holds⟩

/-- Two addresses in one frame are in one page. -/
theorem pageBase_eq_of_frame
    (isValid : ((pager state).entryAt address).isValid = true)
    (otherValid : ((pager state).entryAt other).isValid = true)
    (same : ((pager state).entryAt address).address =
      ((pager state).entryAt other).address) :
    Address.pageBase address = Address.pageBase other :=
  intact.frame_inj _ _ _ _
    (leaf_of_isPresent (Pager.isPresent_of_isValid isValid))
    (leaf_of_isPresent (Pager.isPresent_of_isValid otherValid)) isValid
    otherValid same

/-- A page that is there passes all the checks that are made before it is taken
away. -/
theorem run_unmapPage (freeing : Bool) (inside : page < addressLimit)
    (isPresent : ((pager state).entryAt page).isPresent = true) :
    (unmapPage freeing page).run state = (do
      Action.runIf state.focus.isPaging
        (untrack page ((pager state).entryAt page))
      Action.runIf (freeing && ((pager state).entryAt page).isValid)
        (releaseFrame ((pager state).entryAt page).address)
      updateEntry page fun _ => Entry.empty : SpaceAction Unit).run state :=
  run_unmapPage_of_isPresent freeing inside isPresent
    intact.isPagedOut_of_isValid intact.isReadable
    fun notPaging => intact.isPagedOut_of_not_isPaging notPaging page

end IsIntact

theorem run_unmapPage_of_missing (freeing : Bool)
    (isMissing : addressLimit ≤ page ∨
      ((pager state).entryAt page).isPresent = false) :
    ∃ cause, (unmapPage freeing page).run state = .fatal cause := by
  rw [unmapPage]
  by_cases inside : page < addressLimit
  case neg =>
    exact ⟨_, Action.run_bind_of_fatal
      (run_lookup_of_le (Nat.le_of_not_lt inside))⟩
  have isAbsent := isMissing.resolve_left (Nat.not_le.mpr inside)
  rw [Action.run_bind_of_done (run_lookup_of_lt inside)]
  cases found : state.focus.table.get? page with
  | none => exact ⟨_, rfl⟩
  | some entry =>
      have held : (pager state).entryAt page = entry :=
        PageTable.entryAt_of_get? found
      rw [held] at isAbsent
      rw [Action.run_bind_of_done (Action.run_orCrash_some _ _ _)]
      exact ⟨_, Action.run_bind_of_fatal (by
        rw [Action.run_crashUnless, isAbsent, if_neg Bool.false_ne_true])⟩

end AddressSpace

end DemandPaging
