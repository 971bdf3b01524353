import DemandPaging.Proofs.UserProcess.Calls

/-!
# Processes that fork

A fork leaves the parent as it is.  The child has the size that was asked for
and the memory to go with it, or it is as empty as it was.
-/

namespace DemandPaging

namespace UserProcess

open AddressSpace (IsTidy IsTidied ForkEnds grownPages pager)

variable {state after : Hosted UserProcess} {fatal : Fatal → Prop}

section Copies

variable {fork after : Hosted (Fork UserProcess)} {size : Nat}

/-- The parent of a fork. -/
def parentOf (fork : Hosted (Fork UserProcess)) : Hosted UserProcess :=
  ⟨fork.focus.parent, fork.host⟩

/-- The child of a fork. -/
def childOf (fork : Hosted (Fork UserProcess)) : Hosted UserProcess :=
  ⟨fork.focus.child, fork.host⟩

/-- The address spaces of both, with their host. -/
def spacesOf (fork : Hosted (Fork UserProcess)) : Hosted (Fork AddressSpace) :=
  ⟨spaces fork.focus, fork.host⟩

/-- What ends a copy: the size cannot be rounded, the child has memory, or the
fork of the spaces ends. -/
def CopyEnds (fork : Hosted (Fork UserProcess)) (size : Nat) (cause : Fatal) :
    Prop :=
  cause = .overflow ∧ Word.limit ≤ size + pageSize ∨
    cause = .forkIntoOccupied fork.focus.child.pid ∧
      fork.focus.child.size ≠ 0 ∨
    ForkEnds (spacesOf fork) size cause

/-- The child has the size that was asked for, or it is as it was, and the
parent is as it was in either case. -/
theorem meets_copyMemory
    (parent : IsTidy fork.focus.parent.size (spaceOf (parentOf fork)))
    (child : IsTidy fork.focus.child.size (spaceOf (childOf fork)))
    (size : Nat) :
    ((copyMemory size).run fork).Meets (CopyEnds fork size)
      (fun _ after => after.focus.parent = fork.focus.parent ∧
        IsManaged (childOf fork) (childOf after) ∧
          fork.focus.child.size = 0 ∧ after.focus.child.size = size)
      (fun _ after => after.focus.parent = fork.focus.parent ∧
        IsSpared (childOf fork) (childOf after)) := by
  have inside : (parentOf fork).focus.size ≤ addressLimit := size_le parent
  have available : Word.roundUp fork.focus.parent.size =
      .ok (Address.pageCeil fork.focus.parent.size) := roundUp_of_le inside
  rw [copyMemory, Action.run_bind_of_done (Action.run_read _ _)]
  refine Action.meets_roundUp_bind (fun large => .inl ⟨rfl, large⟩)
    fun _ => ?_
  rw [Action.liftM_eq_ofExcept, available,
    Action.run_bind_of_done (Action.run_ofExcept_ok _ _)]
  refine Action.meets_failUnless_bind
    (fun _ => ⟨rfl, isSpared_refl child⟩) fun within => ?_
  refine Action.meets_crashUnless_bind
    (fun occupied => .inr (.inl ⟨rfl, occupied⟩)) fun isEmpty => ?_
  have empty : IsTidy 0 (spaceOf (childOf fork)) := isEmpty ▸ child
  have copies := AddressSpace.meets_forkCopy_of_tidy
    (show IsTidy _ (AddressSpace.parentOf (spacesOf fork)) from parent)
    (show IsTidy 0 (AddressSpace.childOf (spacesOf fork)) from empty) size
      within
  refine Action.meets_bind_of (fun _ after =>
    after.focus.parent = fork.focus.parent ∧
      IsTidied (spaceOf (childOf fork)) size (spaceOf (childOf after)))
    (Action.meets_zoom_iff.mpr ((copies.mono (fun _ after copied => ?_)
      fun _ after undone => ?_).mono_fatal fun _ ends => .inr (.inr ends)))
    fun _ middle copied => ?_
  · obtain ⟨sameParent, tidied⟩ := copied
    refine ⟨?_, tidied⟩
    rw [setSpaces, sameParent]
    rfl
  · obtain ⟨sameParent, tidied⟩ := undone
    refine ⟨?_, ?_, rfl⟩
    · rw [setSpaces, sameParent]
      rfl
    · rw [← isEmpty] at tidied
      exact tidied
  · exact ⟨copied.1, copied.2, isEmpty, rfl⟩

/-- One process is copied into another. -/
theorem meets_forkCopy
    (parent : IsTidy fork.focus.parent.size (spaceOf (parentOf fork)))
    (child : IsTidy fork.focus.child.size (spaceOf (childOf fork)))
    (size : Nat) :
    ((forkCopy size).run fork).Meets
      (fun cause => cause = .forkIntoItself fork.focus.parent.pid ∧
          fork.focus.parent.pid = fork.focus.child.pid ∨
        CopyEnds fork size cause)
      (fun _ after => after.focus.parent = fork.focus.parent ∧
        IsManaged (childOf fork) (childOf after) ∧
          fork.focus.child.size = 0 ∧ after.focus.child.size = size)
      (fun _ after => after.focus.parent = fork.focus.parent ∧
        IsSpared (childOf fork) (childOf after)) := by
  rw [forkCopy, Action.run_bind_of_done (Action.run_read _ _)]
  refine Action.meets_crashUnless_bind (fun same =>
    .inl ⟨rfl, Decidable.not_not.mp same⟩) fun _ => ?_
  exact (meets_copyMemory parent child size).mono_fatal fun _ => .inr

end Copies

/-- A new process has no memory, and just the slots that its configuration asks
for. -/
structure IsNew (pid : Nat) (config : Config) (pool : Nat) (host : Host)
    (fresh : Hosted UserProcess) : Prop where
  pools : fresh.host.pools = host.pools
  samePid : fresh.focus.pid = pid
  size : fresh.focus.size = 0
  samePool : fresh.focus.space.pool = pool
  sameConfig : fresh.focus.space.config = config
  isPaging : fresh.focus.space.isPaging =
    (!Pid.isOfSystem pid && config.policy.isPaging)
  capacity : fresh.focus.space.swap.capacity = config.maxSwap
  generation : fresh.focus.space.ledger.generation = 0
  tidy : IsTidy 0 (spaceOf fresh)

/-- What ends the making of a process: its swap file or its ledger would be too
large. -/
def IsTooLarge (config : Config) (cause : Fatal) : Prop :=
  cause = .overflow ∧ (Word.limit ≤ config.maxSwap * pageSize ∨
    Word.limit ≤ config.maxResident + config.maxSwap)

theorem meets_new {pid pool : Nat} {config : Config} {host : Host}
    (consistent : (host.pool pool).IsConsistent)
    (inside : pool < host.pools.size)
    (total_le : (host.pool pool).total ≤ FramePool.sizeLimit) :
    ((UserProcess.new pid config pool).run host).Meets (IsTooLarge config)
      (fun child after => IsNew pid config pool host ⟨child, after⟩)
      (fun _ after => after = host) := by
  rw [UserProcess.new, AddressSpace.new, bind_assoc, Action.liftM_eq_ofExcept]
  rcases Nat.lt_or_ge (config.maxSwap * pageSize) Word.limit with fits | large
  swap
  · have refused : SwapSpace.new config.maxSwap = .error .overflow := by
      rw [SwapSpace.new, SwapFile.new, Word.mul, Word.fit_of_le large]
      rfl
    rw [refused, Action.run_bind_of_fatal (Action.run_ofExcept_error _ _)]
    exact ⟨rfl, .inl large⟩
  obtain ⟨file, isNew⟩ : ∃ file, SwapSpace.new config.maxSwap =
      .ok { SwapSpace.over config.maxSwap file with isMetered := false } := by
    rw [SwapSpace.new, SwapFile.new, Word.mul_of_lt fits]
    exact ⟨_, rfl⟩
  rw [isNew, Action.run_bind_of_done (Action.run_ofExcept_ok _ _)]
  refine Action.meets_bind ((AddressSpace.meets_make.mono
    (fun _ _ made => made) fun _ _ same => same).mono_fatal
      fun _ ends => ⟨ends.1, .inr ends.2⟩) fun space middle made => ?_
  have tidy : IsTidy 0 ⟨space, middle⟩ :=
    (AddressSpace.isNew_of_run_make made consistent inside total_le).isTidy
  obtain ⟨_, _, ledger, ledgerMade, rfl, rfl⟩ :=
    AddressSpace.run_make_eq_done_iff.mp made
  obtain ⟨_, rfl⟩ := Ledger.new_eq_ok_iff.mp ledgerMade
  exact {
    pools := rfl
    samePid := rfl
    size := rfl
    samePool := rfl
    sameConfig := rfl
    isPaging := rfl
    capacity := Array.size_replicate
    generation := rfl
    tidy := ⟨⟨tidy.served, tidy.sound, tidy.ceiling, tidy.spans⟩, tidy.strict⟩ }

/-- The process gave a copy of its memory to a new one.  `fresh` is the new
process before, and `child` after. -/
structure Forks (state : Hosted UserProcess) (pid : Nat)
    (fresh child : Hosted UserProcess) : Prop where
  isNew : IsNew pid state.focus.space.config state.focus.space.pool state.host
    fresh
  managed : IsManaged fresh child
  size : child.focus.size = state.focus.size

/-- What ends a fork: the new process cannot be made, or a page is in a slot
that it does not have. -/
def ForkMayEnd (state : Hosted UserProcess) (pid : Nat) (cause : Fatal) :
    Prop :=
  IsTooLarge state.focus.space.config cause ∨
    cause = .outOfBounds ∧ state.focus.space.isPaging = true ∧
      Pid.isOfSystem pid = false ∧ ∃ page slot,
        (pager (spaceOf state)).residenceOf? page =
          some (.swapped page slot) ∧
        state.focus.space.config.maxSwap ≤ slot

/-- What fills a child is run on the parent and the child. -/
theorem meets_withChild {child : UserProcess} {fill : ProcessFork Unit}
    {done : UserProcess → Hosted UserProcess → Prop}
    {failed : PagingError → Hosted UserProcess → Prop}
    (meets : (fill.run ⟨⟨state.focus, child⟩, state.host⟩).Meets fatal
      (fun _ filled =>
        done filled.focus.child ⟨filled.focus.parent, filled.host⟩)
      fun error filled => failed error ⟨filled.focus.parent, filled.host⟩) :
    ((withChild child fill).run state).Meets fatal done failed := by
  rw [Action.run, withChild]
  rw [Action.run] at meets
  cases ended : fill ⟨⟨state.focus, child⟩, state.host⟩ <;>
    rw [ended] at meets <;> exact meets

/-- A new process has the limits of its parent, so a copy into it ends only for
want of a slot. -/
theorem forkMayEnd_of_copyEnds {pid : Nat} {fresh : Hosted UserProcess}
    {cause : Fatal} (tidy : IsTidy state.focus.size (spaceOf state))
    (isNew : IsNew pid state.focus.space.config state.focus.space.pool
      state.host fresh)
    (ends : CopyEnds ⟨⟨state.focus, fresh.focus⟩, fresh.host⟩ state.focus.size
      cause) : ForkMayEnd state pid cause := by
  have inside := size_le tidy
  rcases ends with ⟨_, large⟩ | ⟨_, occupied⟩ | limits | slots | late
  · simp only [addressLimit, pageSize, Word.limit] at *
    omega
  · exact absurd isNew.size occupied
  · have same : AddressSpace.sameLimits
        (spaces ⟨state.focus, fresh.focus⟩) = true := by
      simp [AddressSpace.sameLimits, spaces, isNew.sameConfig]
    exact absurd (limits.2.2.symm.trans same) Bool.false_ne_true
  · obtain ⟨rfl, both, page, slot, _, known, beyond⟩ := slots
    obtain ⟨isPaging, tracks⟩ := Bool.and_eq_true_iff.mp both
    have notSystem := isNew.isPaging.symm.trans tracks
    rw [Bool.and_eq_true, Bool.not_eq_true'] at notSystem
    refine .inr ⟨rfl, isPaging, notSystem.1, page, slot, known, ?_⟩
    rw [← isNew.capacity]
    exact beyond
  · have few := AddressSpace.growTicks_le 0 inside (pager (spaceOf fresh))
    have late : Word.limit ≤ fresh.focus.space.ledger.generation +
      grownPages 0 state.focus.size * ((pager (spaceOf fresh)).turns + 1) :=
        late.2.2.2.2
    rw [isNew.generation] at late
    simp only [Word.limit] at late
    omega

/-- A process forks, or leaves nothing behind. -/
theorem meets_fork (tidy : IsTidy state.focus.size (spaceOf state))
    (pid : Nat) :
    ((fork pid).run state).Meets (ForkMayEnd state pid)
      (fun child after => after.focus = state.focus ∧
        ∃ fresh, Forks state pid fresh ⟨child, after.host⟩)
      (fun _ after => after.focus = state.focus ∧
        (after.host = state.host ∨ ∃ fresh child,
          IsNew pid state.focus.space.config state.focus.space.pool state.host
            fresh ∧ IsSpared fresh ⟨child, after.host⟩)) := by
  rw [fork, Action.run_bind_of_done (Action.run_read _ _)]
  refine Action.meets_bind_of (fun child middle =>
    middle.focus = state.focus ∧
      IsNew pid state.focus.space.config state.focus.space.pool state.host
        ⟨child, middle.host⟩)
    (Action.meets_zoom_iff.mpr (((meets_new tidy.sound.frames tidy.served
      tidy.sound.fits.total_le).mono (fun _ _ isNew => ⟨rfl, isNew⟩)
        fun _ _ same => ⟨rfl, .inl same⟩).mono_fatal fun _ => .inl)) ?_
  rintro child ⟨_, host⟩ ⟨rfl, isNew⟩
  have empty := isNew.tidy
  rw [← isNew.size] at empty
  refine meets_withChild (((meets_copyMemory (tidy.rehost isNew.pools) empty
    state.focus.size).mono (fun _ after copied => ?_)
      fun _ after undone => ?_).mono_fatal fun _ ends =>
        forkMayEnd_of_copyEnds tidy isNew ends)
  · obtain ⟨sameParent, managed, _, sameSize⟩ := copied
    exact ⟨sameParent, ⟨child, host⟩, isNew, managed, sameSize⟩
  · exact ⟨undone.1, .inr ⟨⟨child, host⟩, after.focus.child, isNew, undone.2⟩⟩

end UserProcess

end DemandPaging
