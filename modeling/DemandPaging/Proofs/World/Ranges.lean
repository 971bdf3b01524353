import DemandPaging.Proofs.UserProcess.Bounds
import DemandPaging.Proofs.World.Processes

/-!
# Ranges of user memory

A range that is added to a process or taken from it has to border on the end of
the process's memory, to the page.  One that does not is refused and nothing
changes (`refuses_bad_ranges`), and where it does the range is memory that grows
or shrinks, short of the limit of user memory (`range_calls_are_growth`).

Both are said of worlds that may arise in any way at all: commands are given
without regard to what they ask for, and the host comes to be another at any
time (`ReachesUnchecked`).  All that matters here is that no process is larger
than user memory may be, so that its size can be rounded up to a page.
-/

namespace DemandPaging

namespace UserProcess

variable {world after : World UserProcess} {process second : UserProcess}
  {state : Hosted UserProcess} {number : Nat}

/-- The worlds that may arise: commands are given whether or not what they ask
for is seen to, and between them anything happens to the host. -/
inductive ReachesUnchecked : World UserProcess → Prop where
  | start (host : Host) : ReachesUnchecked (World.empty host)
  | rehosted {world : World UserProcess} (reached : ReachesUnchecked world)
      (host : Host) : ReachesUnchecked ⟨world.focus, host⟩
  | done {world after : World UserProcess} {command : Command}
      (reached : ReachesUnchecked world)
      (done : command.action.run world = .done () after) :
      ReachesUnchecked after
  | failed {world after : World UserProcess} {command : Command}
      {error : PagingError} (reached : ReachesUnchecked world)
      (failed : command.action.run world = .failed error after) :
      ReachesUnchecked after

theorem Reaches.unchecked (reaches : Reaches world) :
    ReachesUnchecked world := by
  induction reaches with
  | start _ => exact .start _
  | rewired _ _ reached => exact reached.rehosted _
  | done _ _ done reached => exact reached.done done
  | failed _ _ failed reached => exact reached.failed failed

/-- No process is larger than user memory may be. -/
def AreWithin (world : World UserProcess) : Prop :=
  ∀ (number : Nat) (process : UserProcess),
    world.focus[number]? = some process → process.size ≤ addressLimit

namespace AreWithin

theorem replaced (within : AreWithin world)
    (inside : state.focus.size ≤ addressLimit) :
    AreWithin (world.replaced number state) := by
  intro other member isOther
  rw [World.replaced, Array.getElem?_setIfInBounds] at isOther
  split at isOther
  · split at isOther
    · cases isOther
      exact inside
    · cases isOther
  · exact within other member isOther

theorem meets_add (within : AreWithin world) {making : Action Host UserProcess}
    (yields : making.Yields (UserProcess.size · ≤ addressLimit)) :
    ((World.add making).run world).Meets (fun _ => True)
      (fun _ => AreWithin) fun _ => AreWithin := by
  refine World.meets_add ((yields world.host).mono
    (fun made host inside other member isOther => ?_)
    fun _ _ _ => within)
  rw [Array.getElem?_push] at isOther
  split at isOther
  · cases isOther
    exact inside
  · exact within other member isOther

theorem meets_onMember {Result : Type} {action : ProcessAction Result}
    (within : AreWithin world) (holds : Result → Prop)
    (meets : ∀ process, world.focus[number]? = some process →
      (action.run ⟨process, world.host⟩).Meets (fun _ => True)
        (fun result after => holds result ∧ after.focus.size ≤ addressLimit)
        fun _ after => after.focus.size ≤ addressLimit) :
    ((World.onMember number action).run world).Meets (fun _ => True)
      (fun result after => (∀ made ∈ result, holds made) ∧ AreWithin after)
      fun _ => AreWithin := by
  cases isMember : world.focus[number]? with
  | none =>
      rw [Action.run, World.onMember, isMember]
      exact ⟨fun made found => absurd found (Option.not_mem_none made),
        within⟩
  | some process =>
      refine World.meets_onMember isMember
        ((meets process isMember).mono ?_ ?_)
      · rintro result after ⟨found, inside⟩
        refine ⟨fun made same => ?_, within.replaced inside⟩
        cases same
        exact found
      · intro _ after inside
        exact within.replaced inside

theorem meets_onFork {Result : Type} {action : ProcessFork Result}
    {parent child : Nat} (within : AreWithin world)
    (meets : ∀ first second, world.focus[parent]? = some first →
      world.focus[child]? = some second →
        (action.run ⟨⟨first, second⟩, world.host⟩).Meets (fun _ => True)
          (fun _ after => after.focus.parent.size ≤ addressLimit ∧
            after.focus.child.size ≤ addressLimit)
          fun _ after => after.focus.parent.size ≤ addressLimit ∧
            after.focus.child.size ≤ addressLimit) :
    ((World.onFork parent child action).run world).Meets (fun _ => True)
      (fun _ => AreWithin) fun _ => AreWithin := by
  have replacedBoth : ∀ after : Hosted (Fork UserProcess),
      after.focus.parent.size ≤ addressLimit ∧
        after.focus.child.size ≤ addressLimit →
      AreWithin ⟨(world.focus.setIfInBounds parent
        after.focus.parent).setIfInBounds child after.focus.child,
          after.host⟩ := by
    rintro ⟨⟨first, second⟩, host⟩ ⟨parentInside, childInside⟩
    have one : AreWithin (world.replaced parent ⟨first, host⟩) :=
      within.replaced parentInside
    have both : AreWithin ((world.replaced parent ⟨first, host⟩).replaced
        child ⟨second, host⟩) := one.replaced childInside
    exact both
  cases isParent : world.focus[parent]? with
  | none =>
      rw [Action.run, World.onFork, isParent]
      exact within
  | some first =>
      cases isChild : world.focus[child]? with
      | none =>
          rw [Action.run, World.onFork, isParent, isChild]
          exact within
      | some second =>
          rw [Action.run, World.onFork, isParent, isChild]
          exact Action.meets_zoom_iff.mpr (Action.meets_map
            ((meets first second isParent isChild).mono
              (fun _ after => replacedBoth after)
              fun _ after => replacedBoth after))

theorem yields_make {making : Action Host AddressSpace} (pid : Nat) :
    (do let space ← making
        ofSpace pid space : Action Host UserProcess).Yields
      (UserProcess.size · ≤ addressLimit) :=
  Action.yields_bind fun _ => Action.yields_bind fun _ _ => Nat.zero_le _

theorem meets_command (within : AreWithin world) (command : Command) :
    (command.action.run world).Meets (fun _ => True) (fun _ => AreWithin)
      fun _ => AreWithin := by
  cases command with
  | make pid config isEligible isMetered pool slots budget file =>
      exact Action.meets_map (within.meets_add (yields_make pid))
  | new pid config pool =>
      exact Action.meets_map (within.meets_add (yields_make pid))
  | call number asked =>
      refine Action.meets_map ((within.meets_onMember (fun _ => True)
        fun process isMember => ?_).mono_done fun _ _ left => left.2)
      exact (staysWithin_call asked _ (within number process isMember)).mono_done
        fun _ _ inside => ⟨trivial, inside⟩
  | fork number pid =>
      rw [Command.action]
      refine Action.meets_bind (within.meets_onMember
        (UserProcess.size · ≤ addressLimit) fun process isMember => ?_) ?_
      · refine (meets_fork_within pid (within number process isMember)).mono
          (fun child after made => ⟨made.1, ?_⟩) fun _ after same => ?_
        · rw [made.2]
          exact within number process isMember
        · rw [same]
          exact within number process isMember
      · rintro (_ | child) middle ⟨inside, stillWithin⟩
        · exact stillWithin
        · exact Action.meets_map
            (stillWithin.meets_add fun _ => inside child rfl)
  | forkCopy parent child size =>
      refine Action.meets_map (within.meets_onFork
        fun first second isParent isChild => ?_)
      have parentWithin := within parent first isParent
      have childWithin := within child second isChild
      rw [UserProcess.forkCopy, Action.run_bind_of_done (Action.run_read _ _)]
      refine Action.meets_crashUnless_bind (fun _ => trivial) fun _ => ?_
      refine (meets_copyMemory_within size parentWithin).mono
        (fun _ after left => ⟨?_, left.2⟩) fun _ after left => ⟨?_, ?_⟩
      · rw [left.1]
        exact parentWithin
      · rw [left.1]
        exact parentWithin
      · rw [left.2]
        exact childWithin

end AreWithin

theorem ReachesUnchecked.areWithin (reached : ReachesUnchecked world) :
    AreWithin world := by
  induction reached with
  | start host => exact nofun
  | rehosted _ host within => exact within
  | @done _ _ command _ done within =>
      have meets := within.meets_command command
      rw [done] at meets
      exact meets
  | @failed _ _ command _ _ failed within =>
      have meets := within.meets_command command
      rw [failed] at meets
      exact meets

theorem run_extendRange_of_ne (within : state.focus.size ≤ addressLimit)
    {low : Nat} (high : Nat)
    (apart : Address.pageCeil low ≠ Address.pageCeil state.focus.size) :
    (extendRange low high).run state = refusal low state := by
  rw [extendRange, currentSize, Action.run_bind_of_done (Action.run_read _ _)]
  exact (run_checkRounded within _ Nat.le_of_eq _).trans (if_neg apart)

theorem run_releaseRange_of_ne (within : state.focus.size ≤ addressLimit)
    (low : Nat) {high : Nat}
    (apart : Address.pageCeil high ≠ Address.pageCeil state.focus.size) :
    (releaseRange low high).run state = refusal high state := by
  rw [releaseRange, currentSize, Action.run_bind_of_done (Action.run_read _ _)]
  exact (run_checkRounded within _ Nat.le_of_eq _).trans (if_neg apart)

/-- What a call does to a process it does to the world. -/
theorem run_call (isMember : world.focus[number]? = some process)
    (asked : Call) :
    (Command.call number asked).action.run world =
      match asked.action.run ⟨process, world.host⟩ with
      | .done _ after => .done () (world.replaced number after)
      | .failed error after => .failed error (world.replaced number after)
      | .fatal cause => .fatal cause := by
  rw [Command.action, Action.run_map, Action.run, World.onMember, isMember]
  change Outcome.andThen ((Action.zoom _ _ _).run world) _ = _
  rw [Action.run_zoom, Action.run_map]
  cases asked.action.run ⟨process, world.host⟩ <;> rfl

/-- What a process is refused changes nothing in the world. -/
theorem run_call_of_refusal (isMember : world.focus[number]? = some process)
    {asked : Call} {address : Nat}
    (refused : asked.action.run ⟨process, world.host⟩ =
      refusal address ⟨process, world.host⟩) :
    (Command.call number asked).action.run world = refusal address world := by
  rw [run_call isMember, refused]
  rcases Nat.lt_or_ge (address + pageSize) Word.limit with small | large
  · simp only [refusal_of_lt small, World.replaced,
      World.setIfInBounds_self isMember]
  · simp only [refusal_of_le large]

/-- More memory than there is is not copied. -/
theorem run_forkCopy_of_lt {fork : Hosted (Fork UserProcess)} {size : Nat}
    (within : fork.focus.parent.size ≤ addressLimit)
    (distinct : fork.focus.parent.pid ≠ fork.focus.child.pid)
    (beyond : Address.pageCeil fork.focus.parent.size <
      Address.pageCeil size) :
    (forkCopy size).run fork = refusal size fork := by
  rw [forkCopy, Action.run_bind_of_done (Action.run_read _ _),
    Action.run_bind_of_done (by rw [Action.run_crashUnless, if_pos distinct]),
    copyMemory, Action.run_bind_of_done (Action.run_read _ _),
    run_checkRounded within size id, if_neg (Nat.not_le.mpr beyond)]

theorem run_command_forkCopy_of_lt {child size : Nat}
    (isMember : world.focus[number]? = some process)
    (isChild : world.focus[child]? = some second)
    (within : process.size ≤ addressLimit)
    (distinct : process.pid ≠ second.pid)
    (beyond : Address.pageCeil process.size < Address.pageCeil size) :
    (Command.forkCopy number child size).action.run world =
      refusal size world := by
  have refused : (UserProcess.forkCopy size).run
      ⟨⟨process, second⟩, world.host⟩ = refusal size _ :=
    run_forkCopy_of_lt within distinct beyond
  rw [Command.action, Action.run_map, Action.run, World.onFork, isMember,
    isChild]
  change Outcome.andThen ((Action.zoom _ _ _).run world) _ = _
  rw [Action.run_zoom, run_map_of_refusal refused]
  rcases Nat.lt_or_ge (size + pageSize) Word.limit with small | large
  · simp only [refusal_of_lt small, Outcome.andThen,
      World.setIfInBounds_self isMember, World.setIfInBounds_self isChild]
  · simp only [refusal_of_le large, Outcome.andThen]

/-- Ranges that do not border on the memory, and copies of more memory than
there is, are refused, and nothing changes in the world. -/
theorem refuses_bad_ranges (reached : ReachesUnchecked world)
    (isMember : world.focus[number]? = some process) :
    (∀ low high, Address.pageCeil low ≠ Address.pageCeil process.size →
      (Command.call number (.extendRange low high)).action.run world =
        refusal low world) ∧
    (∀ low high, Address.pageCeil high ≠ Address.pageCeil process.size →
      (Command.call number (.releaseRange low high)).action.run world =
        refusal high world) ∧
    ∀ (child : Nat) (second : UserProcess) (size : Nat),
      world.focus[child]? = some second → process.pid ≠ second.pid →
        Address.pageCeil process.size < Address.pageCeil size →
          (Command.forkCopy number child size).action.run world =
            refusal size world := by
  have within := reached.areWithin number process isMember
  refine ⟨fun low high apart => ?_, fun low high apart => ?_,
    fun child second size isChild distinct beyond => ?_⟩
  · have refused : (extendRange low high).run ⟨process, world.host⟩ =
        refusal low _ := run_extendRange_of_ne within high apart
    exact run_call_of_refusal isMember (run_map_of_refusal refused _)
  · have refused : (releaseRange low high).run ⟨process, world.host⟩ =
        refusal high _ := run_releaseRange_of_ne within low apart
    exact run_call_of_refusal isMember (run_map_of_refusal refused _)
  · exact run_command_forkCopy_of_lt isMember isChild within distinct beyond

theorem refuses_bad_ranges_of_new :
    ∃ (world : World UserProcess) (first second : UserProcess),
      ReachesUnchecked world ∧ world.focus[0]? = some first ∧
        world.focus[1]? = some second ∧ first.size = 0 ∧
        (Command.call 0 (.extendRange pageSize pageSize)).action.run world =
          .failed (.badAddress pageSize) world ∧
        (Command.call 0 (.releaseRange 0 (Word.limit - 1))).action.run world =
          .fatal .overflow ∧
        (Command.forkCopy 0 1 1).action.run world =
          .failed (.badAddress 1) world := by
  have computed : (Command.new 3 ⟨1, 0, .scfifo⟩ 0).action.leadsTo
      ((Command.new 4 ⟨1, 0, .scfifo⟩ 0).action.leadsTo fun both =>
        both.focus.map (fun process => (process.pid, process.size)) ==
          #[(3, 0), (4, 0)]) (World.empty threeFrames) = true := by
    decide +kernel
  obtain ⟨_, made, doneFirst, computed⟩ := Action.exists_of_leadsTo computed
  obtain ⟨_, both, doneSecond, computed⟩ := Action.exists_of_leadsTo computed
  have reached : ReachesUnchecked both :=
    ((ReachesUnchecked.start threeFrames).done doneFirst).done doneSecond
  have pids : both.focus.map (fun process => (process.pid, process.size)) =
      #[(3, 0), (4, 0)] := eq_of_beq computed
  have shown : ∀ number : Nat, both.focus[number]?.map
      (fun process : UserProcess => (process.pid, process.size)) =
        #[(3, 0), (4, 0)][number]? := by
    intro number
    rw [← pids, Array.getElem?_map]
  obtain ⟨first, isFirst, firstIs⟩ := Option.map_eq_some_iff.mp (shown 0)
  obtain ⟨second, isSecond, secondIs⟩ := Option.map_eq_some_iff.mp (shown 1)
  obtain ⟨firstPid, firstSize⟩ := Prod.mk.inj firstIs
  obtain ⟨secondPid, _⟩ := Prod.mk.inj secondIs
  obtain ⟨extending, releasing, copying⟩ :=
    refuses_bad_ranges reached isFirst
  refine ⟨both, first, second, reached, isFirst, isSecond, firstSize, ?_, ?_,
    ?_⟩
  · exact (extending pageSize pageSize (by rw [firstSize]; decide)).trans
      (refusal_of_lt (by decide) both)
  · exact (releasing 0 (Word.limit - 1) (by rw [firstSize]; decide)).trans
      (refusal_of_le (by decide) both)
  · exact (copying 1 second 1 isSecond (by rw [firstPid, secondPid]; decide)
      (by rw [firstSize]; decide)).trans (refusal_of_lt (by decide) both)

/-- Changes the extent of the memory, and sets the size that it has then. -/
def reshape (action : SpaceAction Nat) (result : Nat → Nat) :
    ProcessAction Nat := do
  let size ← inSpace action
  resize size
  return result size

/-- Apart from its result the operation is the same, whatever it gives. -/
theorem run_map_reshape (action : SpaceAction Nat)
    (first second : Nat → Nat) :
    ((fun _ => ()) <$> reshape action first : ProcessAction Unit).run state =
      ((fun _ => ()) <$> reshape action second :
        ProcessAction Unit).run state := by
  rw [Action.run_map, Action.run_map, reshape, reshape, Action.run_bind,
    Action.run_bind]
  cases (inSpace action).run state <;> rfl

theorem run_extendRange_size (within : state.focus.size ≤ addressLimit)
    (high : Nat) :
    (extendRange state.focus.size high).run state =
      (reshape (AddressSpace.grow state.focus.size high { write := true })
        id).run state := by
  rw [extendRange, currentSize, Action.run_bind_of_done (Action.run_read _ _)]
  exact (run_checkRounded within _ Nat.le_of_eq _).trans (if_pos rfl)

theorem run_releaseRange_size (within : state.focus.size ≤ addressLimit)
    (low : Nat) :
    (releaseRange low state.focus.size).run state =
      (reshape (AddressSpace.shrink state.focus.size low) id).run state := by
  rw [releaseRange, currentSize, Action.run_bind_of_done (Action.run_read _ _)]
  exact (run_checkRounded within _ Nat.le_of_eq _).trans (if_pos rfl)

theorem run_growBy_of_le {bytes : Nat} (positive : 0 < bytes)
    (beyond : addressLimit ≤ state.focus.size + bytes) :
    (growBy bytes).run state = .failed .outOfMemory state := by
  rw [growBy, currentSize, Action.run_bind_of_done (Action.run_read _ _),
    if_pos (Int.natCast_pos.mpr positive), Int.toNat_natCast,
    Action.run_bind_of_failed (by
      rw [Action.run_failUnless, if_neg (Nat.not_lt.mpr beyond)])]

theorem run_growBy_of_lt {bytes : Nat} (positive : 0 < bytes)
    (fits : state.focus.size + bytes < addressLimit) :
    (growBy bytes).run state =
      (reshape (AddressSpace.grow state.focus.size (state.focus.size + bytes)
        { write := true }) fun _ => state.focus.size).run state := by
  rw [growBy, currentSize, Action.run_bind_of_done (Action.run_read _ _),
    if_pos (Int.natCast_pos.mpr positive), Int.toNat_natCast,
    Action.run_bind_of_done (by rw [Action.run_failUnless, if_pos fits])]
  rfl

theorem run_growBy_neg (bytes : Nat) :
    (growBy (-bytes)).run state =
      (reshape (AddressSpace.shrink state.focus.size
        (state.focus.size - bytes)) fun _ => state.focus.size).run state := by
  rw [growBy, currentSize, Action.run_bind_of_done (Action.run_read _ _),
    if_neg (by omega), Int.natAbs_neg, Int.natAbs_natCast]
  rfl

/-- To add a range at the end of the memory is to let the memory grow. -/
theorem run_extendRange_eq_growBy (within : state.focus.size ≤ addressLimit)
    {bytes : Nat} (positive : 0 < bytes)
    (fits : state.focus.size + bytes < addressLimit) :
    (Call.extendRange state.focus.size
      (state.focus.size + bytes)).action.run state =
        (Call.growBy bytes).action.run state := by
  rw [Call.action, Call.action, Action.run_map, Action.run_map,
    run_extendRange_size within, run_growBy_of_lt positive fits,
    ← Action.run_map, ← Action.run_map]
  exact run_map_reshape _ _ _

/-- To take a range away at the end of the memory is to let the memory
shrink. -/
theorem run_releaseRange_eq_growBy (within : state.focus.size ≤ addressLimit)
    (bytes : Nat) :
    (Call.releaseRange (state.focus.size - bytes)
      state.focus.size).action.run state =
        (Call.growBy (-bytes)).action.run state := by
  rw [Call.action, Call.action, Action.run_map, Action.run_map,
    run_releaseRange_size within, run_growBy_neg, ← Action.run_map,
    ← Action.run_map]
  exact run_map_reshape _ _ _

theorem meets_extendRange_size (within : state.focus.size ≤ addressLimit)
    {high : Nat} (beyond : addressLimit < high) :
    ((extendRange state.focus.size high).run state).Meets (fun _ => True)
      (fun _ _ => False) fun _ _ => True := by
  rw [run_extendRange_size within]
  refine Action.meets_bind ((meets_inSpace_size
    (AddressSpace.yields_grow high _ within)).mono (fun size _ found => ?_)
      fun _ _ _ => trivial) fun _ _ impossible => impossible
  obtain ⟨⟨contains, inside⟩, _⟩ := found
  exact Nat.not_le.mpr beyond (Nat.le_trans contains inside)

/-- Calls that do the same to a process do the same to the world. -/
theorem run_call_congr (isMember : world.focus[number]? = some process)
    {first second : Call}
    (same : first.action.run ⟨process, world.host⟩ =
      second.action.run ⟨process, world.host⟩) :
    (Command.call number first).action.run world =
      (Command.call number second).action.run world := by
  rw [run_call isMember, run_call isMember, same]

theorem run_call_growBy_of_le (isMember : world.focus[number]? = some process)
    {bytes : Nat} (positive : 0 < bytes)
    (beyond : addressLimit ≤ process.size + bytes) :
    (Command.call number (.growBy bytes)).action.run world =
      .failed .outOfMemory world := by
  have refused : (growBy bytes).run ⟨process, world.host⟩ =
      .failed .outOfMemory ⟨process, world.host⟩ :=
    run_growBy_of_le positive beyond
  rw [run_call isMember, Call.action, Action.run_map, refused]
  simp only [Outcome.andThen, World.replaced,
    World.setIfInBounds_self isMember]

/-- What is not done to a process is not done in the world. -/
theorem run_call_ne_done (isMember : world.focus[number]? = some process)
    {asked : Call}
    (meets : (asked.action.run ⟨process, world.host⟩).Meets (fun _ => True)
      (fun _ _ => False) fun _ _ => True) (after : World UserProcess) :
    (Command.call number asked).action.run world ≠ .done () after := by
  rw [run_call isMember]
  cases ended : asked.action.run ⟨process, world.host⟩ with
  | done _ _ =>
      rw [ended] at meets
      exact meets.elim
  | failed _ _ => nofun
  | fatal _ => nofun

/-- A range that borders on the memory is added as memory grows, as far as
memory may grow, and taken away as memory shrinks.  Up to the limit or beyond it
memory does not grow, and beyond it a range is not added. -/
theorem range_calls_are_growth (reached : ReachesUnchecked world)
    (isMember : world.focus[number]? = some process) {bytes : Nat}
    (positive : 0 < bytes) :
    (process.size + bytes < addressLimit →
      (Command.call number
        (.extendRange process.size (process.size + bytes))).action.run world =
          (Command.call number (.growBy bytes)).action.run world) ∧
    (addressLimit ≤ process.size + bytes →
      (Command.call number (.growBy bytes)).action.run world =
        .failed .outOfMemory world) ∧
    (addressLimit < process.size + bytes → ∀ after,
      (Command.call number
        (.extendRange process.size (process.size + bytes))).action.run world ≠
          .done () after) ∧
    (Command.call number
      (.releaseRange (process.size - bytes) process.size)).action.run world =
        (Command.call number (.growBy (-bytes))).action.run world := by
  have within := reached.areWithin number process isMember
  refine ⟨fun fits => ?_, fun beyond => ?_, fun beyond after done => ?_, ?_⟩
  · have same : (Call.extendRange process.size
        (process.size + bytes)).action.run ⟨process, world.host⟩ =
          (Call.growBy bytes).action.run ⟨process, world.host⟩ :=
      run_extendRange_eq_growBy within positive fits
    exact run_call_congr isMember same
  · exact run_call_growBy_of_le isMember positive beyond
  · have meets : ((extendRange process.size (process.size + bytes)).run
        ⟨process, world.host⟩).Meets _ _ _ :=
      meets_extendRange_size within beyond
    exact run_call_ne_done isMember (Action.meets_map meets) after done
  · have same : (Call.releaseRange (process.size - bytes)
        process.size).action.run ⟨process, world.host⟩ =
          (Call.growBy (-bytes)).action.run ⟨process, world.host⟩ :=
      run_releaseRange_eq_growBy within bytes
    exact run_call_congr isMember same

theorem range_calls_are_growth_of_one_page :
    ∃ (world : World UserProcess) (process : UserProcess),
      ReachesUnchecked world ∧
      world.focus[0]? = some process ∧ process.size = pageSize ∧
        (Command.call 0
          (.extendRange pageSize (pageSize + 1))).action.run world =
            (Command.call 0 (.growBy 1)).action.run world ∧
        (Command.call 0 (.growBy addressLimit)).action.run world =
          .failed .outOfMemory world ∧
        (Command.call 0
          (.releaseRange (pageSize - 1) pageSize)).action.run world =
            (Command.call 0 (.growBy (-1))).action.run world := by
  have computed : (Command.new 3 ⟨2, 1, .scfifo⟩ 0).action.leadsTo
      ((Command.call 0 (.growBy pageSize)).action.leadsTo fun grown =>
        grown.focus[0]?.map UserProcess.size == some pageSize)
      (World.empty threeFrames) = true := by
    decide +kernel
  obtain ⟨_, made, doneMaking, computed⟩ := Action.exists_of_leadsTo computed
  obtain ⟨_, grown, doneGrowing, computed⟩ := Action.exists_of_leadsTo computed
  rw [beq_iff_eq, Option.map_eq_some_iff] at computed
  obtain ⟨process, isMember, size⟩ := computed
  have reached : ReachesUnchecked grown :=
    ((ReachesUnchecked.start threeFrames).done doneMaking).done doneGrowing
  obtain ⟨extending, -, -, releasing⟩ :=
    range_calls_are_growth reached isMember Nat.one_pos
  obtain ⟨-, refusing, -⟩ :=
    range_calls_are_growth reached isMember (by decide : 0 < addressLimit)
  rw [size] at extending refusing releasing
  exact ⟨grown, process, reached, isMember, size, extending (by decide),
    refusing (by decide), releasing⟩

/-- Memory is not let grow up to the limit.  A range is added there page by
page, until a page is one too many. -/
theorem range_calls_differ_at_limit :
    ∃ (world after : World UserProcess) (process : UserProcess),
      Reaches world ∧ world.focus[0]? = some process ∧ process.size = 0 ∧
        (Command.call 0 (.growBy addressLimit)).action.run world =
          .failed .outOfMemory world ∧
        (Command.call 0 (.extendRange 0 addressLimit)).action.run world =
          .failed (.tooManyPages 1) after := by
  have computed : (Command.new 3 ⟨1, 0, .scfifo⟩ 0).action.leadsTo (fun made =>
      made.focus[0]?.map UserProcess.size == some 0 &&
        (Command.call 0 (.extendRange 0 addressLimit)).action.failsWith
          (.tooManyPages 1) made)
      (World.empty threeFrames) = true := by
    decide +kernel
  obtain ⟨made, reaches, computed⟩ :=
    reaches_threeFrames.exists_of_leadsTo computed Nat.zero_lt_one
  rw [Bool.and_eq_true, beq_iff_eq, Option.map_eq_some_iff] at computed
  obtain ⟨⟨process, isMember, size⟩, failed⟩ := computed
  obtain ⟨after, failed⟩ := Action.exists_of_failsWith failed
  refine ⟨made, after, process, reaches, isMember, size, ?_, failed⟩
  exact run_call_growBy_of_le isMember (by decide)
    (Nat.le_add_left addressLimit process.size)

end UserProcess

end DemandPaging
