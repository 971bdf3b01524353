import DemandPaging.AddressSpace.Agreement
import DemandPaging.FramePool.Consistent

/-!
# Well-formed address spaces

What operations on an address space and its host may rely on.  The parts of
the space agree, each part is consistent in itself and has the size that the
configuration asks for, and every page in memory can be read and has a lent
frame that no other page of the space has.
-/

namespace DemandPaging

/-- The most frames of a pool whose addresses an entry can hold, and more. -/
abbrev FramePool.sizeLimit : Nat := 1 <<< 32

namespace AddressSpace

/-- The space and its host are as operations leave them. -/
structure WellFormed (state : Hosted AddressSpace) : Prop where
  agrees : state.focus.Agrees
  ledger : state.focus.ledger.IsConsistent
  swap : state.focus.swap.IsConsistent
  pool : (state.host.pool state.focus.pool).IsConsistent
  pool_lt : state.focus.pool < state.host.pools.size
  total_le :
    (state.host.pool state.focus.pool).total ≤ FramePool.sizeLimit
  maxResident_eq :
    state.focus.ledger.maxResident = state.focus.config.maxResident
  capacity_eq : state.focus.ledger.capacity =
    state.focus.config.maxResident + state.focus.config.maxSwap
  maxSwap_le : state.focus.config.maxSwap ≤ state.focus.swap.capacity
  maxResident_pos :
    state.focus.isPaging = true → 0 < state.focus.config.maxResident
  isPaging_policy :
    state.focus.isPaging = true → state.focus.config.policy.isPaging = true
  page_lt : ∀ page entry, (page, entry) ∈ state.focus.table.leaves →
    page < addressLimit
  readable : ∀ page entry, (page, entry) ∈ state.focus.table.leaves →
    entry.isValid = true → entry.flags.read = true
  framed : ∀ page entry, (page, entry) ∈ state.focus.table.leaves →
    entry.isValid = true → ∃ contents,
      (state.host.pool state.focus.pool).read entry.address = .ok contents
  frame_inj : ∀ first second firstEntry secondEntry,
    (first, firstEntry) ∈ state.focus.table.leaves →
      (second, secondEntry) ∈ state.focus.table.leaves →
        firstEntry.isValid = true → secondEntry.isValid = true →
          firstEntry.address = secondEntry.address → first = second

/-- What it takes to make a space, and the space that is made. -/
theorem run_make_eq_done_iff {config : Config} {isEligible : Bool}
    {pool : Nat} {table : PageTable} {swap : SwapSpace} {host after : Host}
    {space : AddressSpace} :
    (make config isEligible pool table swap).run host = .done space after ↔
      config.validate = .ok () ∧ config.maxSwap ≤ swap.capacity ∧
        ∃ ledger, Ledger.new config.maxResident config.maxSwap = .ok ledger ∧
          space = { table, ledger, swap, pool, config
                    isPaging := isEligible && config.policy.isPaging } ∧
          after = host.report
            (.spaceMade config (isEligible && config.policy.isPaging)) := by
  unfold make
  cases config.validate with
  | error error =>
      simp only [reduceCtorEq, false_and, iff_false]
      exact fun made => nomatch made
  | ok _ =>
      by_cases room : config.maxSwap ≤ swap.capacity
      · cases Ledger.new config.maxResident config.maxSwap with
        | error cause => simp [Action.run_bind, room]
        | ok ledger => simp [Action.run_bind, room, eq_comm]
      · simp [Action.run_bind, room]

private theorem agrees_new {maxResident maxSwap slots : Nat} {ledger : Ledger}
    (made : Ledger.new maxResident maxSwap = .ok ledger)
    (budget : Option Nat) (file : SwapFile) (isMetered : Bool) (pool : Nat)
    (config : Config) (isPaging : Bool) :
    Agrees { table := PageTable.new budget, ledger
             swap := { SwapSpace.over slots file with isMetered }
             pool, config, isPaging } := by
  obtain ⟨_, rfl⟩ := Ledger.new_eq_ok_iff.mp made
  have untracked : ∀ {count handle : Nat} {tracked : Tracked},
      (Array.replicate count Tracked.unused)[handle]? = some tracked →
        tracked.residence = .free := by
    intro count handle tracked found
    rw [Array.getElem?_replicate] at found
    split at found
    · cases found
      rfl
    · cases found
  refine ⟨by simp, fun _ => ⟨?_, ?_, ?_, ?_, Nat.zero_le _⟩, ?_⟩
  · intro page
    simp only [IsMapped, PageTable.leaves_new, List.not_mem_nil, false_and,
      exists_false, false_iff]
    rintro ⟨_, _, found, resident⟩
    cases (untracked found).symm.trans resident
  · intro page
    simp only [IsPagedOut, PageTable.leaves_new, List.not_mem_nil, false_and,
      exists_false, false_iff]
    rintro ⟨_, _, _, found, swapped⟩
    cases (untracked found).symm.trans swapped
  · intro slot
    simp only [SwapSpace.isClaimed, SwapSpace.over, Array.getElem?_replicate]
    constructor
    · intro claimed
      split at claimed <;> cases claimed
    · rintro ⟨_, _, _, found, swapped⟩
      cases (untracked found).symm.trans swapped
  · rintro _ _ _ ⟨_, _, found, swapped⟩
    cases (untracked found).symm.trans swapped
  · simp [IsPagedOut]

/-- The space was just made, whatever its configuration, the budget of its page
tables and the device that it swaps to. -/
inductive IsMade : Hosted AddressSpace → Prop where
  | made {config : Config} {isEligible isMetered : Bool} {pool slots : Nat}
      {budget : Option Nat} {file : SwapFile} {host after : Host}
      {space : AddressSpace}
      (ran : (make config isEligible pool (PageTable.new budget)
        { SwapSpace.over slots file with isMetered }).run host =
          .done space after) : IsMade ⟨space, after⟩

/-- The space was just made, over a pool as its operations leave it. -/
structure IsNew (state : Hosted AddressSpace) : Prop where
  isMade : IsMade state
  consistent : (state.host.pool state.focus.pool).IsConsistent
  pool_lt : state.focus.pool < state.host.pools.size
  total_le :
    (state.host.pool state.focus.pool).total ≤ FramePool.sizeLimit

variable {state : Hosted AddressSpace}

/-- To make a space changes no pool. -/
theorem isNew_of_run_make {config : Config} {isEligible isMetered : Bool}
    {pool slots : Nat} {budget : Option Nat} {file : SwapFile}
    {host after : Host} {space : AddressSpace}
    (ran : (make config isEligible pool (PageTable.new budget)
      { SwapSpace.over slots file with isMetered }).run host =
        .done space after)
    (consistent : (host.pool pool).IsConsistent)
    (inside : pool < host.pools.size)
    (total_le : (host.pool pool).total ≤ FramePool.sizeLimit) :
    IsNew ⟨space, after⟩ := by
  have isMade : IsMade ⟨space, after⟩ := .made ran
  obtain ⟨_, _, ledger, _, rfl, rfl⟩ := run_make_eq_done_iff.mp ran
  exact ⟨isMade, consistent, inside, total_le⟩

theorem IsNew.wellFormed (isNew : IsNew state) : WellFormed state := by
  obtain ⟨isMade, consistent, inside, total_le⟩ := isNew
  obtain @⟨config, _, isMetered, pool, slots, budget, file, _, _, _, ran⟩ :=
    isMade
  obtain ⟨isValid, fits, ledger, ledgerMade, rfl, rfl⟩ :=
    run_make_eq_done_iff.mp ran
  have hasRoom := Config.validate_eq_ok_iff.mp isValid
  obtain ⟨_, shape⟩ := Ledger.new_eq_ok_iff.mp ledgerMade
  exact {
    agrees := agrees_new ledgerMade budget file isMetered pool config _
    ledger := Ledger.isConsistent_new ledgerMade
    swap := SwapSpace.isConsistent_over slots file
    pool := consistent
    pool_lt := inside
    total_le
    maxResident_eq := by simp [shape]
    capacity_eq := by simp [shape, Ledger.capacity]
    maxSwap_le := fits
    maxResident_pos := fun isPaging =>
      hasRoom (Bool.and_eq_true_iff.mp isPaging).2
    isPaging_policy := fun isPaging => (Bool.and_eq_true_iff.mp isPaging).2
    page_lt := by simp
    readable := by simp
    framed := by simp
    frame_inj := by simp }

end AddressSpace

end DemandPaging
