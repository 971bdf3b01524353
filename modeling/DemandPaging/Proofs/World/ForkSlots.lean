import DemandPaging.Proofs.World.Processes

/-!
# Forks and the slots of the child

A child takes over the slots of its parent with their numbers.  A space may
have more slots than its configuration asks for, and its pages may come to be
in any of them, but the child of a fork has just as many slots as the
configuration asks for.  A fork ends the run only where a page of the parent is
in a slot that the child does not have.
-/

namespace DemandPaging

namespace UserProcess

open AddressSpace (IsTidy pager)

variable {world : World UserProcess} {process : UserProcess} {number : Nat}

/-- A new space under paging has the limits of the process, and `slots` slots. -/
structure IsTwin (world : World UserProcess) (process : UserProcess)
    (slots : Nat) (twin : Hosted AddressSpace) : Prop where
  made : ∃ (config : Config) (isEligible isMetered : Bool) (pool : Nat)
    (budget : Option Nat) (file : SwapFile), pool < world.host.pools.size ∧
      (AddressSpace.make config isEligible pool (PageTable.new budget)
        { SwapSpace.over slots file with isMetered }).run world.host =
          .done twin.focus twin.host
  isPaging : twin.focus.isPaging = true
  maxResident : twin.focus.config.maxResident =
    process.space.config.maxResident
  maxSwap : twin.focus.config.maxSwap = process.space.config.maxSwap

/-- A copy into a space with the same limits ends only where a page is in a
slot that this space does not have. -/
theorem IsKept.meets_forkCopy_of_isTwin (kept : IsKept world)
    (isMember : world.focus[number]? = some process) {slots size : Nat}
    {twin : Hosted AddressSpace} (isTwin : IsTwin world process slots twin)
    (isPaging : process.space.isPaging = true)
    (within : Address.pageCeil size ≤ Address.pageCeil process.size) :
    ((AddressSpace.forkCopy size).run
      ⟨⟨process.space, twin.focus⟩, twin.host⟩).Meets
      (fun cause => cause = .outOfBounds ∧ ∃ page slot,
        page < Address.pageCeil size ∧
        (pager (spaceOf ⟨process, world.host⟩)).residenceOf? page =
          some (.swapped page slot) ∧ slots ≤ slot)
      (fun _ _ => True) fun _ _ => True := by
  obtain ⟨_, _, _, pool, _, _, inside, made⟩ := isTwin.made
  have empty := (AddressSpace.isNew_of_run_make made (kept.owned.pools pool)
    inside (kept.owned.total_le pool)).isTidy
  obtain ⟨capacity, pools⟩ : twin.focus.swap.capacity = slots ∧
      twin.host.pools = world.host.pools := by
    obtain ⟨_, _, _, _, space, host⟩ :=
      AddressSpace.run_make_eq_done_iff.mp made
    rw [space, host]
    exact ⟨Array.size_replicate, rfl⟩
  have tidy : IsTidy process.size ⟨process.space, twin.host⟩ :=
    (kept.tidy isMember).rehost pools
  have both : AddressSpace.bothPaging ⟨process.space, twin.focus⟩ = true := by
    rw [AddressSpace.bothPaging, isPaging, isTwin.isPaging]
    rfl
  have same : AddressSpace.sameLimits ⟨process.space, twin.focus⟩ = true := by
    simp [AddressSpace.sameLimits, isTwin.maxResident, isTwin.maxSwap]
  refine ((AddressSpace.meets_forkCopy_of_tidy
    (show IsTidy _ (AddressSpace.parentOf
      ⟨⟨process.space, twin.focus⟩, twin.host⟩) from tidy) empty size
        within).mono (fun _ _ _ => trivial) fun _ _ _ => trivial).mono_fatal ?_
  rintro cause (⟨_, _, differ⟩ | ⟨isBounds, _, page, slot, below, known, beyond⟩ |
    ⟨notBoth, _⟩)
  · cases same.symm.trans differ
  · exact ⟨isBounds, page, slot, below, known, capacity ▸ beyond⟩
  · cases both.symm.trans notBoth

/-- A fork ends the run only where a page is in a slot that the child does not
have, or where a process with this configuration cannot be made at all. -/
theorem fork_ends_only_beyond_slots (reaches : Reaches world)
    (isMember : world.focus[number]? = some process) :
    (∀ pid, ((fork pid).run ⟨process, world.host⟩).Meets
      (ForkMayEnd ⟨process, world.host⟩ pid) (fun _ _ => True)
      fun _ _ => True) ∧
    (∀ pid, process.space.swap.capacity ≤ process.space.config.maxSwap →
      ((fork pid).run ⟨process, world.host⟩).Meets
        (IsTooLarge process.space.config) (fun _ _ => True)
        fun _ _ => True) ∧
    ∀ (slots size : Nat) (twin : Hosted AddressSpace),
      IsTwin world process slots twin → process.space.isPaging = true →
        Address.pageCeil size ≤ Address.pageCeil process.size →
          ((AddressSpace.forkCopy size).run
            ⟨⟨process.space, twin.focus⟩, twin.host⟩).Meets
            (fun cause => cause = .outOfBounds ∧ ∃ page slot,
              page < Address.pageCeil size ∧
              (pager (spaceOf ⟨process, world.host⟩)).residenceOf? page =
                some (.swapped page slot) ∧ slots ≤ slot)
            (fun _ _ => True) fun _ _ => True := by
  have kept := reaches.isKept
  have tidy := kept.tidy isMember
  have forks : ∀ pid, ((fork pid).run ⟨process, world.host⟩).Meets
      (ForkMayEnd ⟨process, world.host⟩ pid) (fun _ _ => True)
      fun _ _ => True := fun pid =>
    (meets_fork tidy pid).mono (fun _ _ _ => trivial) fun _ _ _ => trivial
  refine ⟨forks, fun pid roomless => (forks pid).mono_fatal ?_,
    fun slots size twin isTwin isPaging within =>
      kept.meets_forkCopy_of_isTwin isMember isTwin isPaging within⟩
  rintro cause (tooLarge | ⟨_, _, _, page, slot, known, beyond⟩)
  · exact tooLarge
  · have claimed := (tidy.sound.claimed slot).mpr ⟨page, known⟩
    have inside := SwapSpace.lt_capacity_of_isClaimed claimed
    exact absurd (Nat.lt_of_lt_of_le inside (Nat.le_trans roomless beyond))
      (Nat.lt_irrefl slot)

theorem fork_ends_only_beyond_slots_of_new :
    ∃ (world : World UserProcess) (process : UserProcess), Reaches world ∧
      world.focus[0]? = some process ∧ process.size = 5000 ∧
        ∀ cause, (fork 4).run ⟨process, world.host⟩ ≠ .fatal cause := by
  have computed : (Command.new 3 ⟨2, 1, .scfifo⟩ 0).action.leadsTo (fun made =>
      made.focus[0]?.isSome && (Command.call 0 (.growBy 5000)).action.leadsTo
        (fun grown => grown.focus[0]?.any fun process =>
          process.size == 5000 && process.space.swap.capacity == 1 &&
            decide (process.space.config = ⟨2, 1, .scfifo⟩)) made)
      (World.empty threeFrames) = true := by
    decide +kernel
  obtain ⟨grown, process, reaches, isMember, passed⟩ := exists_grown computed
  simp only [Bool.and_eq_true, beq_iff_eq, decide_eq_true_eq] at passed
  obtain ⟨⟨size, capacity⟩, config⟩ := passed
  refine ⟨grown, process, reaches, isMember, size, fun cause => ?_⟩
  refine ((fork_ends_only_beyond_slots reaches isMember).2.1 4 ?_).ne_fatal ?_
  · rw [capacity, config]
  · rw [config]
    rintro ⟨_, tooLarge | tooLarge⟩ <;> revert tooLarge <;> decide

end UserProcess

end DemandPaging
