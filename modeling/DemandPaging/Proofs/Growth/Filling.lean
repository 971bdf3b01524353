import DemandPaging.Proofs.Growth.Runs

/-!
# What memory has once it has grown

The pages that are added fill memory up, and from then on each of them costs an
eviction.  So the counts after a number of pages can be told from that number
(`Filled`), and so can the frames that it takes: one for each page until memory
is full, and one more for the page that is added before another one leaves.
-/

namespace DemandPaging

namespace AddressSpace

variable {origin state after : Hosted AddressSpace}
  {start added total count old new : Nat} {flags permissions : Flags}
  {cause : Fatal}

/-- Since `origin`, whose memory ends at `start`, `added` pages were added from
there on. -/
structure Filled (origin : Hosted AddressSpace) (start added : Nat)
    (state : Hosted AddressSpace) : Prop extends
    Grown origin start 0 added state where
  budget : state.focus.table.budget = origin.focus.table.budget
  isReliable : origin.focus.swap.IsReliable → state.focus.swap.IsReliable
  generation_le : state.focus.ledger.generation ≤
    origin.focus.ledger.generation + added * ((pager origin).turns + 1)
  residentCount : origin.focus.isPaging = true →
    state.focus.ledger.residentCount =
      min (origin.focus.ledger.residentCount + added)
        origin.focus.ledger.maxResident
  trackedCount : origin.focus.isPaging = true →
    state.focus.ledger.trackedCount =
      origin.focus.ledger.trackedCount + added
  evictions : origin.focus.isPaging = true →
    state.focus.stats.evictions = origin.focus.stats.evictions +
      (origin.focus.ledger.residentCount + added -
        origin.focus.ledger.maxResident)
  hadFrames : origin.focus.isPaging = true →
    min added (origin.focus.ledger.maxResident -
      origin.focus.ledger.residentCount + 1) ≤
        (pager origin).frames.freeCount

theorem WellFormed.residentCount_le (wellFormed : WellFormed state)
    (isPaging : state.focus.isPaging = true) :
    state.focus.ledger.residentCount ≤ state.focus.ledger.maxResident :=
  (wellFormed.agrees.tracks isPaging).residentCount_le

/-- A page more is too many for memory that is full. -/
theorem WellFormed.toNat_isResidentFull (wellFormed : WellFormed state)
    (isPaging : state.focus.isPaging = true) :
    state.focus.ledger.isResidentFull.toNat =
      state.focus.ledger.residentCount + 1 -
        state.focus.ledger.maxResident := by
  have ceiling := wellFormed.residentCount_le isPaging
  cases isFull : state.focus.ledger.isResidentFull with
  | true =>
      have atCeiling := beq_iff_eq.mp isFull
      rw [Bool.toNat_true]
      omega
  | false =>
      have below := beq_eq_false_iff_ne.mp isFull
      rw [Bool.toNat_false]
      omega

theorem Ends.filled (ends : Ends origin start) :
    Filled origin start 0 origin where
  toGrown := ends.grown
  budget := rfl
  isReliable := id
  generation_le := by omega
  residentCount isPaging := by
    have ceiling := ends.wellFormed.residentCount_le isPaging
    omega
  trackedCount _ := rfl
  evictions isPaging := by
    have ceiling := ends.wellFormed.residentCount_le isPaging
    omega
  hadFrames _ := by omega

namespace Filled

variable (filled : Filled origin start added state)

include filled

theorem turns : (pager state).turns = (pager origin).turns := by
  have ceiling : (pager state).ledger.maxResident =
      (pager origin).ledger.maxResident := filled.setting.maxResident
  rw [Pager.turns, Pager.turns, ceiling]

theorem joins (ends : Ends origin start)
    (joins : Joins state (start + added * pageSize) after) :
    Filled origin start (added + 1) after where
  toGrown := filled.toGrown.joins ends.aligned joins
  budget := joins.budget.trans filled.budget
  isReliable reliable := joins.isReliable (filled.isReliable reliable)
  generation_le := by
    have earlier := filled.generation_le
    rw [Nat.succ_mul]
    cases isPaging : state.focus.isPaging with
    | false =>
        rw [(joins.plain isPaging).1]
        omega
    | true =>
        have formed := filled.wellFormed.nearlyFormed isPaging
        have turns := formed.residentCount_le_turns nofun
        have ticks := (joins.tracked isPaging).1.generation_le
        rw [filled.turns] at turns
        omega
  residentCount isPaging := by
    have count := filled.residentCount isPaging
    have ceiling := filled.setting.maxResident
    rw [← filled.setting.isPaging] at isPaging
    have more := (joins.tracked isPaging).1.residentCount
    have evicted := filled.wellFormed.toNat_isResidentFull isPaging
    omega
  trackedCount isPaging := by
    have count := filled.trackedCount isPaging
    rw [← filled.setting.isPaging] at isPaging
    have enters := (joins.tracked isPaging).1
    have resident := enters.residentCount
    have swapped := enters.swappedCount
    rw [Ledger.trackedCount] at count ⊢
    omega
  evictions isPaging := by
    have before := filled.evictions isPaging
    have count := filled.residentCount isPaging
    have ceiling := filled.setting.maxResident
    rw [← filled.setting.isPaging] at isPaging
    have more := (joins.tracked isPaging).1.evictions
    have evicted := filled.wellFormed.toNat_isResidentFull isPaging
    omega
  hadFrames isPaging := by
    have ceiling := ends.wellFormed.residentCount_le isPaging
    have before := filled.hadFrames isPaging
    have balance := filled.tracked isPaging
    have count := filled.residentCount isPaging
    have hasFrame := joins.hasFrame
    omega

theorem runsLate (late : RunsLate state ((pager state).turns + 1) cause)
    (less : added < total) :
    RunsLate origin (total * ((pager origin).turns + 1)) cause := by
  obtain ⟨rfl, policy, _, beyond⟩ := late
  have earlier := filled.generation_le
  have whole := Nat.mul_le_mul_right ((pager origin).turns + 1) less
  rw [Nat.succ_mul] at whole
  rw [filled.turns] at beyond
  refine ⟨rfl, filled.setting.config ▸ policy, ?_, ?_⟩
  · omega
  · omega

end Filled

/-- Since `origin`, as many pages were added as there was room for, and then all
of them were taken back for want of something. -/
def FallsShort (origin : Hosted AddressSpace) (start total : Nat)
    (error : PagingError) (after : Hosted AddressSpace) : Prop :=
  ∃ fewer middle, fewer < total ∧ Filled origin start fewer middle ∧
    Shortage middle error ∧ Grown origin start fewer fewer after

/-- A run of pages is added as a whole, or nothing of it is left. -/
theorem filled_addRun (count : Nat) (ends : Ends origin (Address.pageCeil old))
    (inside : Address.pageCeil old + (added + count) * pageSize ≤ addressLimit)
    (isRead : flags.read = true) (isClear : flags.pagedOut = false)
    (filled : Filled origin (Address.pageCeil old) added state) :
    ((addRun flags old (Address.pageCeil old + added * pageSize)
      count).run state).Meets
      (RunsLate origin ((added + count) * ((pager origin).turns + 1)))
      (fun _ => Filled origin (Address.pageCeil old) (added + count))
      (FallsShort origin (Address.pageCeil old) (added + count)) := by
  induction count generalizing added state with
  | zero => exact filled
  | succ count ih =>
      have further : added + (count + 1) = added + 1 + count := by omega
      have next : Address.pageCeil old + added * pageSize + pageSize =
          Address.pageCeil old + (added + 1) * pageSize := by
        rw [Nat.succ_mul, Nat.add_assoc]
      have pageInside :
          Address.pageCeil old + added * pageSize < addressLimit := by
        simp only [pageSize] at inside ⊢
        omega
      have absent : ((pager state).entryAt
          (Address.pageCeil old + added * pageSize)).isPresent = false := by
        rw [← Bool.not_eq_true, filled.isPresent]
        omega
      rw [further] at inside ⊢
      rw [addRun, next]
      refine Action.meets_bind (Action.meets_onFailure
        ((joins_or_remains filled.wellFormed []
          (Address.pageBase_add_mul ends.aligned added) pageInside absent isRead
          isClear).mono_fatal fun _ late => filled.runsLate late (by omega))
        ?_) fun _ middle joins => ih inside (filled.joins ends joins)
      -- The pages that were added before the one that failed go again.
      rintro error middle ⟨remains, short⟩
      refine Action.meets_bind (grown_shrink ends (Nat.le_of_lt pageInside)
        (filled.toGrown.remains remains)) fun _ after grown => ?_
      exact ⟨added, state, by omega, filled, short, grown⟩

/-- Memory that grows has all its new pages, or none of them. -/
theorem filled_grow (ends : Ends state (Address.pageCeil old)) (le : old ≤ new)
    (inside : new ≤ addressLimit) (isClear : permissions.pagedOut = false) :
    ((grow old new permissions).run state).Meets
      (RunsLate state (grownPages old new * ((pager state).turns + 1)))
      (fun size after => size = new ∧
        Filled state (Address.pageCeil old) (grownPages old new) after)
      (FallsShort state (Address.pageCeil old) (grownPages old new)) := by
  have fits : old + pageSize < Word.limit := by
    simp only [addressLimit, pageSize, Word.limit] at *
    omega
  have limit : Address.pageCeil addressLimit = addressLimit := by decide
  have whole : Address.pageCeil old + grownPages old new * pageSize ≤
      addressLimit := by
    rw [pageCeil_add_grownPages le, ← limit]
    exact Address.pageCeil_mono inside
  have isRead : (grownFlags permissions).read = true := Bool.or_true _
  have notPagedOut : (grownFlags permissions).pagedOut = false := by
    rw [grownFlags, Flags.union, isClear]
    rfl
  rw [grow, if_neg (Nat.not_lt.mpr le), Action.liftM_eq_ofExcept,
    Word.roundUp_of_lt fits,
    Action.run_bind_of_done (Action.run_ofExcept_ok _ _)]
  have adds := filled_addRun (grownPages old new) ends
    (by rwa [Nat.zero_add]) isRead notPagedOut ends.filled
  rw [Nat.zero_mul, Nat.add_zero, Nat.zero_add] at adds
  exact Action.meets_bind adds fun _ after filled => ⟨rfl, filled⟩

end AddressSpace

end DemandPaging
