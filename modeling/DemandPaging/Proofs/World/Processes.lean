import DemandPaging.Proofs.UserProcess.Forks
import DemandPaging.Proofs.World.Ownership

/-!
# Worlds of processes

A world of processes begins with pools that lend nothing.  Processes are made,
each calls for one thing after the other, forks, is copied into another and
ends, while frames run out and transfers fail.  In whichever order this happens
the processes are kept (`Reaches.isKept`): their spaces own the frames that are
lent, and the size of each is that of its memory.
-/

namespace DemandPaging

namespace UserProcess

open AddressSpace (IsOwned IsTidy IsTidied RunsLate pager)
open World (getElem?_replaced getElem?_replaced_of_ne)

variable {world after : World UserProcess} {process : UserProcess}
  {state : Hosted UserProcess} {host : Host} {number : Nat}

/-- The address spaces of the processes. -/
def spacesIn (world : World UserProcess) : World AddressSpace :=
  ⟨world.focus.map UserProcess.space, world.host⟩

/-- The bytes of user memory of the processes. -/
def sizesIn (world : World UserProcess) (number : Nat) : Nat :=
  (world.focus[number]?.map UserProcess.size).getD 0

theorem getElem?_spacesIn {space : AddressSpace} :
    (spacesIn world).focus[number]? = some space ↔
      ∃ process, world.focus[number]? = some process ∧
        process.space = space := by
  rw [spacesIn, Array.getElem?_map, Option.map_eq_some_iff]

theorem sizesIn_of_isMember (isMember : world.focus[number]? = some process) :
    sizesIn world number = process.size := by
  rw [sizesIn, isMember]
  rfl

theorem spacesIn_replaced (number : Nat) (state : Hosted UserProcess) :
    spacesIn (world.replaced number state) =
      (spacesIn world).replaced number (spaceOf state) := by
  rw [spacesIn, World.replaced, Array.map_setIfInBounds]
  rfl

theorem sizesIn_replaced (isMember : world.focus[number]? = some process)
    (state : Hosted UserProcess) :
    sizesIn (world.replaced number state) =
      Function.update (sizesIn world) number state.focus.size := by
  funext other
  by_cases same : other = number
  · subst same
    rw [Function.update_self]
    exact sizesIn_of_isMember (getElem?_replaced isMember)
  · rw [Function.update_of_ne same, sizesIn, sizesIn,
      getElem?_replaced_of_ne same]

theorem sizesIn_push (world : World UserProcess) (state : Hosted UserProcess) :
    sizesIn ⟨world.focus.push state.focus, state.host⟩ =
      Function.update (sizesIn world) world.focus.size state.focus.size := by
  funext other
  by_cases same : other = world.focus.size
  · subst same
    rw [Function.update_self, sizesIn, Array.getElem?_push_size]
    rfl
  · rw [Function.update_of_ne same, sizesIn, Array.getElem?_push, if_neg same,
      sizesIn]

/-- The spaces of the processes own the frames that are lent, each is tidy, and
the size of each process is that of its memory. -/
structure IsKept (world : World UserProcess) : Prop where
  owned : IsOwned (sizesIn world) (spacesIn world)
  strict : ∀ (number : Nat) (process : UserProcess),
    world.focus[number]? = some process →
      (pager ⟨process.space, world.host⟩).Strict

namespace IsKept

theorem tidy (kept : IsKept world)
    (isMember : world.focus[number]? = some process) :
    IsTidy process.size (spaceOf ⟨process, world.host⟩) := by
  have coherent := kept.owned.coherent number process.space
    (getElem?_spacesIn.mpr ⟨process, isMember, rfl⟩)
  rw [sizesIn_of_isMember isMember] at coherent
  exact ⟨coherent, kept.strict number process isMember⟩

theorem empty (unused : ∀ pool, pool ∈ host.pools →
      ∃ total, total ≤ FramePool.sizeLimit ∧ pool = FramePool.new total) :
    IsKept (World.empty host) where
  owned := by
    rw [spacesIn, World.empty, Array.map_empty]
    exact .empty unused
  strict := nofun

theorem rehost (kept : IsKept world) (same : host.pools = world.host.pools) :
    IsKept ⟨world.focus, host⟩ where
  owned := kept.owned.rehost same
  strict number process isMember :=
    (kept.strict number process isMember).withFrames

theorem replace (kept : IsKept world)
    (isMember : world.focus[number]? = some process)
    (managed : IsManaged ⟨process, world.host⟩ state) :
    IsKept (world.replaced number state) := by
  have isSpace : (spacesIn world).focus[number]? = some process.space :=
    getElem?_spacesIn.mpr ⟨process, isMember, rfl⟩
  refine ⟨?_, fun other member isOther => ?_⟩
  · rw [spacesIn_replaced, sizesIn_replaced isMember]
    exact kept.owned.replace isSpace managed.toIsOrderly
  · by_cases same : other = number
    · subst same
      obtain rfl : state.focus = member :=
        Option.some.inj ((getElem?_replaced isMember).symm.trans isOther)
      exact managed.strict
    · rw [getElem?_replaced_of_ne same] at isOther
      exact (kept.strict other member isOther).withFrames

theorem push (kept : IsKept world) (isEmpty : state.focus.size = 0)
    (tidy : IsTidy 0 (spaceOf state))
    (same : state.host.pools = world.host.pools) :
    IsKept ⟨world.focus.push state.focus, state.host⟩ := by
  refine ⟨?_, fun other member isOther => ?_⟩
  · have owned := (kept.owned.rehost same).push tidy.toIsCoherent
    have size : (spacesIn world).focus.size = world.focus.size :=
      Array.size_map
    rw [size, ← isEmpty] at owned
    rw [sizesIn_push, spacesIn, Array.map_push]
    exact owned
  · rw [Array.getElem?_push] at isOther
    split at isOther
    · cases isOther
      exact tidy.strict
    · exact (kept.strict other member isOther).withFrames

theorem of_push (kept : IsKept ⟨world.focus.push process, host⟩)
    (isEmpty : process.size = 0) : IsKept ⟨world.focus, host⟩ := by
  have stays : ∀ {other : Nat} {member : UserProcess},
      world.focus[other]? = some member →
        (world.focus.push process)[other]? = some member := by
    intro other member isOther
    obtain ⟨inside, _⟩ := Array.getElem?_eq_some_iff.mp isOther
    rw [Array.getElem?_push_lt inside, ← isOther,
      Array.getElem?_eq_getElem inside]
  have last : (world.focus.push process)[world.focus.size]? = some process :=
    Array.getElem?_push_size
  have tidy := kept.tidy last
  rw [isEmpty] at tidy
  refine ⟨?_, fun other member isOther =>
    kept.strict other member (stays isOther)⟩
  have owned := kept.owned
  have unchanged : Function.update (sizesIn world) world.focus.size 0 =
      sizesIn world := by
    refine Function.update_eq_self_iff.mpr ?_
    rw [sizesIn, Array.getElem?_size]
    rfl
  rw [sizesIn_push world ⟨process, host⟩, isEmpty, unchanged, spacesIn,
    Array.map_push] at owned
  exact owned.of_push tidy.isVacant.not_isValid

end IsKept

/-- What may be done in a world of processes. -/
inductive Command where
  /-- A process is made around a space that is made for it. -/
  | make (pid : Nat) (config : Config) (isEligible isMetered : Bool)
    (pool slots : Nat) (budget : Option Nat) (file : SwapFile)
  | new (pid : Nat) (config : Config) (pool : Nat)
  | call (number : Nat) (asked : Call)
  | fork (number pid : Nat)
  /-- The first `size` bytes of one process are copied into another. -/
  | forkCopy (parent child size : Nat)

namespace Command

/-- The operation on the world that is called for. -/
def action : Command → Action (World UserProcess) Unit
  | make pid config isEligible isMetered pool slots budget file =>
    (fun _ => ()) <$> World.add (do
      let space ← AddressSpace.make config isEligible pool
        (PageTable.new budget) { SwapSpace.over slots file with isMetered }
      ofSpace pid space)
  | new pid config pool =>
    (fun _ => ()) <$> World.add (UserProcess.new pid config pool)
  | call number asked => (fun _ => ()) <$> World.onMember number asked.action
  | fork number pid => do
    let child ← World.onMember number (UserProcess.fork pid)
    match child with
    | some child => (fun _ => ()) <$> World.add (return child)
    | none => return ()
  | forkCopy parent child size =>
    (fun _ => ()) <$> World.onFork parent child (UserProcess.forkCopy size)

/-- What a command is about is there, and a caller keeps to what a call asks
for. -/
def Admissible (world : World UserProcess) : Command → Prop
  | make _ _ _ _ pool _ _ _ | new _ _ pool => pool < world.host.pools.size
  | call number asked => ∃ process, world.focus[number]? = some process ∧
      asked.Admissible ⟨process, world.host⟩
  | fork number _ => number < world.focus.size
  | forkCopy parent child _ =>
    parent < world.focus.size ∧ child < world.focus.size

/-- What may end the run. -/
def MayEnd (world : World UserProcess) (cause : Fatal) : Command → Prop
  | make _ config _ _ _ _ _ _ | new _ config _ => IsTooLarge config cause
  | call number asked => ∃ process, world.focus[number]? = some process ∧
      asked.MayEnd ⟨process, world.host⟩ cause
  | fork number pid => ∃ process, world.focus[number]? = some process ∧
      ForkMayEnd ⟨process, world.host⟩ pid cause
  | forkCopy parent child size => ∃ first second,
      world.focus[parent]? = some first ∧ world.focus[child]? = some second ∧
        (cause = .forkIntoItself first.pid ∧ first.pid = second.pid ∨
          CopyEnds ⟨⟨first, second⟩, world.host⟩ size cause)

end Command

/-- The worlds that commands lead to. -/
inductive Reaches : World UserProcess → Prop where
  | start {host : Host}
      (unused : ∀ pool, pool ∈ host.pools →
        ∃ total, total ≤ FramePool.sizeLimit ∧ pool = FramePool.new total) :
      Reaches (World.empty host)
  /-- The devices come to fail, or to work again. -/
  | rewired {world : World UserProcess} (reaches : Reaches world)
      (transfers : Transfers) :
      Reaches ⟨world.focus, { world.host with transfers }⟩
  | done {world after : World UserProcess} {command : Command}
      (reaches : Reaches world) (admissible : command.Admissible world)
      (done : command.action.run world = .done () after) : Reaches after
  | failed {world after : World UserProcess} {command : Command}
      {error : PagingError} (reaches : Reaches world)
      (admissible : command.Admissible world)
      (failed : command.action.run world = .failed error after) : Reaches after

/-- A computed run shows what worlds there are. -/
theorem Reaches.exists_of_leadsTo (reaches : Reaches world) {command : Command}
    {passes : World UserProcess → Bool}
    (computed : command.action.leadsTo passes world = true)
    (admissible : command.Admissible world) :
    ∃ after, Reaches after ∧ passes after = true := by
  obtain ⟨_, after, done, passed⟩ := Action.exists_of_leadsTo computed
  exact ⟨after, reaches.done admissible done, passed⟩

/-- A host with one pool, of three frames. -/
def threeFrames : Host :=
  ⟨#[FramePool.new 3], {}, #[]⟩

theorem reaches_threeFrames : Reaches (World.empty threeFrames) :=
  .start fun _ isPool => ⟨3, by decide, Array.mem_singleton.mp isPool⟩

/-- A process that is made and grows is there, and passes a test that it is
computed to pass. -/
theorem exists_grown {passes : UserProcess → Bool}
    (computed : (Command.new 3 ⟨2, 1, .scfifo⟩ 0).action.leadsTo (fun made =>
      made.focus[0]?.isSome && (Command.call 0 (.growBy 5000)).action.leadsTo
        (fun grown => grown.focus[0]?.any passes) made)
      (World.empty threeFrames) = true) :
    ∃ (grown : World UserProcess) (process : UserProcess), Reaches grown ∧
      grown.focus[0]? = some process ∧ passes process = true := by
  obtain ⟨made, reachesMade, computed⟩ :=
    reaches_threeFrames.exists_of_leadsTo computed Nat.zero_lt_one
  rw [Bool.and_eq_true, Option.isSome_iff_exists] at computed
  obtain ⟨⟨fresh, isFresh⟩, computed⟩ := computed
  obtain ⟨grown, reaches, computed⟩ :=
    reachesMade.exists_of_leadsTo computed ⟨fresh, isFresh, trivial⟩
  rw [Option.any_eq_true] at computed
  obtain ⟨process, isMember, passed⟩ := computed
  exact ⟨grown, process, reaches, isMember, passed⟩

/-- Every process has the size that it had. -/
def SameSizes (before after : World UserProcess) : Prop :=
  after.focus.map UserProcess.size = before.focus.map UserProcess.size

theorem sameSizes_replaced (isMember : world.focus[number]? = some process)
    (same : state.focus.size = process.size) :
    SameSizes world (world.replaced number state) := by
  rw [SameSizes, World.replaced, Array.map_setIfInBounds, same]
  have sized : (world.focus.map UserProcess.size)[number]? =
      some process.size := by
    rw [Array.getElem?_map, isMember]
    rfl
  exact World.setIfInBounds_self (show (⟨world.focus.map _, world.host⟩ :
    World Nat).focus[number]? = _ from sized)

namespace IsKept

/-- A process is made, or nothing happened to the others. -/
theorem meets_add (kept : IsKept world) {making : Action Host UserProcess}
    {ends : Fatal → Prop}
    (makes : (making.run world.host).Meets ends
      (fun made host => made.size = 0 ∧ IsTidy 0 (spaceOf ⟨made, host⟩) ∧
        host.pools = world.host.pools)
      fun _ host => host = world.host) :
    (((fun _ => ()) <$> World.add making : Action _ Unit).run world).Meets ends
      (fun _ after => IsKept after)
      (fun _ after => IsKept after ∧ SameSizes world after) := by
  refine Action.meets_map (World.meets_add (makes.mono ?_ ?_))
  · rintro made host ⟨isEmpty, tidy, same⟩
    exact kept.push isEmpty tidy same
  · rintro _ _ rfl
    exact ⟨kept, rfl⟩

theorem push_filled (kept : IsKept world) {pid pool : Nat} {config : Config}
    {fresh : Hosted UserProcess} (isNew : IsNew pid config pool world.host fresh)
    (managed : IsManaged fresh state) :
    IsKept ⟨world.focus.push state.focus, state.host⟩ := by
  have pushed := kept.push isNew.size isNew.tidy isNew.pools
  have filled := pushed.replace (Array.getElem?_push_size) managed
  rw [World.replaced, World.setIfInBounds_push] at filled
  exact filled

/-- A fork leaves its parent as it was, and adds a process with a copy of its
memory, or none. -/
theorem meets_fork (kept : IsKept world)
    (isMember : world.focus[number]? = some process) (pid : Nat) :
    ((Command.fork number pid).action.run world).Meets
      (fun cause => ForkMayEnd ⟨process, world.host⟩ pid cause)
      (fun _ after => IsKept after)
      (fun _ after => IsKept after ∧ SameSizes world after) := by
  have whole : ∀ state : Hosted UserProcess, state.focus = process →
      world.replaced number state = ⟨world.focus, state.host⟩ := by
    rintro state rfl
    rw [World.replaced, World.setIfInBounds_self isMember]
  rw [Command.action]
  refine Action.meets_bind_of (fun child middle =>
    ∃ made fresh, child = some made ∧ middle.focus = world.focus ∧
      Forks ⟨process, world.host⟩ pid fresh ⟨made, middle.host⟩) ?_ ?_
  · refine World.meets_onMember isMember
      ((UserProcess.meets_fork (kept.tidy isMember) pid).mono ?_ ?_)
    · rintro child after ⟨same, fresh, forks⟩
      rw [whole after same]
      exact ⟨child, fresh, rfl, rfl, forks⟩
    · rintro _ after ⟨same, undone⟩
      rw [whole after same]
      refine ⟨?_, rfl⟩
      rcases undone with unchanged | ⟨fresh, child, isNew, spared⟩
      · rw [unchanged]
        exact kept
      · refine (kept.push_filled isNew spared.1).of_push ?_
        exact spared.2.trans isNew.size
  · rintro _ ⟨members, host⟩ ⟨made, fresh, rfl, rfl, forks⟩
    exact Action.meets_map (World.meets_add
      (kept.push_filled forks.isNew forks.managed))

/-- Whatever is done, the processes are kept. -/
theorem meets_command (kept : IsKept world) (command : Command)
    (admissible : command.Admissible world) :
    (command.action.run world).Meets (fun cause => command.MayEnd world cause)
      (fun _ after => IsKept after)
      (fun _ after => IsKept after ∧ SameSizes world after) := by
  cases command with
  | make pid config isEligible isMetered pool slots budget file =>
      refine kept.meets_add (Action.meets_bind
        ((AddressSpace.meets_make.mono_failed fun _ _ same =>
          same).mono_fatal fun _ ends => ⟨ends.1, .inr ends.2⟩)
          fun space host made => ?_)
      have tidy := (AddressSpace.isNew_of_run_make made
        (kept.owned.pools pool) admissible (kept.owned.total_le pool)).isTidy
      obtain ⟨_, _, _, _, _, rfl⟩ := AddressSpace.run_make_eq_done_iff.mp made
      exact ⟨rfl, tidy.rehost rfl, rfl⟩
  | new pid config pool =>
      refine kept.meets_add ((meets_new (kept.owned.pools pool) admissible
        (kept.owned.total_le pool)).mono_done ?_)
      intro made host isNew
      exact ⟨isNew.size, isNew.tidy, isNew.pools⟩
  | call number asked =>
      obtain ⟨process, isMember, admissible⟩ := admissible
      refine Action.meets_map (World.meets_onMember isMember
        (((meets_call (kept.tidy isMember) asked admissible).mono ?_ ?_)
          |>.mono_fatal fun _ ends => ⟨process, isMember, ends⟩))
      · intro _ after managed
        exact kept.replace isMember managed
      · intro _ after spared
        exact ⟨kept.replace isMember spared.1,
          sameSizes_replaced isMember spared.2⟩
  | fork number pid =>
      exact (kept.meets_fork (Array.getElem?_eq_getElem admissible)
        pid).mono_fatal fun _ ends =>
          ⟨_, Array.getElem?_eq_getElem admissible, ends⟩
  | forkCopy parent child size =>
      obtain ⟨parentInside, childInside⟩ := admissible
      have isParent : world.focus[parent]? = some world.focus[parent] :=
        Array.getElem?_eq_getElem parentInside
      have isChild : world.focus[child]? = some world.focus[child] :=
        Array.getElem?_eq_getElem childInside
      obtain ⟨fork, isFork⟩ : ∃ fork : Hosted (Fork UserProcess), fork =
          ⟨⟨world.focus[parent], world.focus[child]⟩, world.host⟩ := ⟨_, rfl⟩
      have copies : ((UserProcess.forkCopy size).run fork).Meets _ _ _ :=
        UserProcess.meets_forkCopy (isFork ▸ kept.tidy isParent)
          (isFork ▸ kept.tidy isChild) size
      rw [isFork] at copies
      refine Action.meets_map (World.meets_onFork isParent isChild
        ((copies.mono ?_ ?_).mono_fatal fun _ ends =>
          ⟨_, _, isParent, isChild, ends⟩))
      · rintro _ after ⟨sameParent, managed, _, _⟩
        exact ⟨sameParent, kept.replace isChild managed⟩
      · rintro _ after ⟨sameParent, spared⟩
        exact ⟨sameParent, kept.replace isChild spared.1,
          sameSizes_replaced isChild spared.2⟩

end IsKept

/-- In every world the processes are kept. -/
theorem Reaches.isKept (reaches : Reaches world) : IsKept world := by
  induction reaches with
  | start unused => exact .empty unused
  | rewired _ transfers kept => exact kept.rehost rfl
  | done _ admissible done kept =>
      have meets := kept.meets_command _ admissible
      rw [done] at meets
      exact meets
  | failed _ admissible failed kept =>
      have meets := kept.meets_command _ admissible
      rw [failed] at meets
      exact meets.1

/-- The size of a process and the addresses of its leaves. -/
def extent (process : UserProcess) : Nat × List Nat :=
  (process.size, process.space.table.leaves.map Prod.fst)

namespace IsKept

theorem extent_eq (kept : IsKept world)
    (isMember : world.focus[number]? = some process) :
    process.extent = (process.size, AddressSpace.pagesOf process.size) := by
  have leaves := (kept.tidy isMember).leaves_eq
  rw [extent]
  exact congrArg (Prod.mk process.size) leaves

theorem map_extent_eq (kept : IsKept world) :
    world.focus.map extent = (world.focus.map UserProcess.size).map
      fun size => (size, AddressSpace.pagesOf size) := by
  refine Array.ext_getElem? fun number => ?_
  rw [Array.getElem?_map, Array.getElem?_map, Array.getElem?_map]
  cases isMember : world.focus[number]? with
  | none => rfl
  | some process => exact congrArg some (kept.extent_eq isMember)

/-- A process that grows or shrinks ends the run only if the clock of the queue
cannot advance as often as it has to. -/
theorem meets_growBy (kept : IsKept world)
    (isMember : world.focus[number]? = some process) (change : Int) :
    ((Command.call number (.growBy change)).action.run world).Meets
      (RunsLate (spaceOf ⟨process, world.host⟩)
        ((Call.growBy change).ticks process.size
          (pager (spaceOf ⟨process, world.host⟩)).turns))
      (fun _ _ => True) fun _ _ => True := by
  have grows : ((UserProcess.growBy change).run
      ⟨process, world.host⟩).Meets _ _ _ :=
    UserProcess.meets_growBy (kept.tidy isMember) change
  exact Action.meets_map (World.meets_onMember isMember (Action.meets_map
    (grows.mono (fun _ _ _ => trivial) fun _ _ _ => trivial)))

/-- A process that ends has no memory, and the frames of its pages are free. -/
theorem meets_exit (kept : IsKept world)
    (isMember : world.focus[number]? = some process) :
    ((Command.call number .exit).action.run world).Meets (fun _ => False)
      (fun _ after => ∃ ended, after.focus[number]? = some ended ∧
        ended.size = 0 ∧ ended.space.IsEmpty ∧
        (after.host.pool process.space.pool).freeCount =
          (world.host.pool process.space.pool).freeCount +
            process.space.mappedCount)
      fun _ _ => False := by
  have tidy := kept.tidy isMember
  refine Action.meets_map (World.meets_onMember isMember
    ((UserProcess.meets_exit tidy).mono_done ?_))
  rintro _ after ⟨managed, isZero⟩
  rw [IsManaged, isZero] at managed
  have sound := managed.tidy.sound
  exact ⟨after.focus, getElem?_replaced isMember, isZero,
    (AddressSpace.isVacant_iff sound.ledger).mp managed.tidy.isVacant,
    AddressSpace.freeCount_of_isVacant tidy.toIsCoherent managed.toIsOrderly⟩

end IsKept

/-- The leaves of a process are the pages of its size, and under paging these
are the pages that it tracks.  What fails changes neither; growing and
shrinking end the run only if the clock of the queue cannot advance once for
each stamp that the pages need, and the end of a process always gives back
everything that it had. -/
theorem size_describes_memory_of_reached (reaches : Reaches world) :
    (∀ (number : Nat) (process : UserProcess),
      world.focus[number]? = some process →
        process.space.table.leaves.map Prod.fst =
          AddressSpace.pagesOf process.size ∧
        (process.space.isPaging = true → process.space.ledger.trackedCount =
          Address.pageCeil process.size / pageSize)) ∧
    (∀ command : Command, command.Admissible world →
      (command.action.run world).Meets (fun cause => command.MayEnd world cause)
        (fun _ after => Reaches after)
        fun _ after => after.focus.map extent = world.focus.map extent) ∧
    ∀ (number : Nat) (process : UserProcess),
      world.focus[number]? = some process →
        (∀ change, ((Command.call number (.growBy change)).action.run
          world).Meets (RunsLate (spaceOf ⟨process, world.host⟩)
            ((Call.growBy change).ticks process.size
              (pager (spaceOf ⟨process, world.host⟩)).turns))
            (fun _ _ => True) fun _ _ => True) ∧
        ((Command.call number .exit).action.run world).Meets (fun _ => False)
          (fun _ after => ∃ ended, after.focus[number]? = some ended ∧
            ended.size = 0 ∧ ended.space.IsEmpty ∧
            (after.host.pool process.space.pool).freeCount =
              (world.host.pool process.space.pool).freeCount +
                process.space.mappedCount)
          fun _ _ => False := by
  have kept := reaches.isKept
  refine ⟨fun number process isMember => ?_, fun command admissible => ?_,
    fun number process isMember =>
      ⟨kept.meets_growBy isMember, kept.meets_exit isMember⟩⟩
  · have tidy := kept.tidy isMember
    exact ⟨tidy.leaves_eq, tidy.trackedCount_eq⟩
  · refine ((kept.meets_command command admissible).mono
      (fun _ _ _ => trivial) ?_).itself.mono_done
        fun _ _ done => reaches.done admissible done
    rintro _ after ⟨keptAfter, same⟩
    rw [keptAfter.map_extent_eq, kept.map_extent_eq, same]

theorem size_describes_memory_of_reached_grown :
    ∃ (world : World UserProcess) (process : UserProcess), Reaches world ∧
      world.focus[0]? = some process ∧ process.size = 5000 ∧
        process.space.table.leaves.map Prod.fst = [0, pageSize] := by
  have computed : (Command.new 3 ⟨2, 1, .scfifo⟩ 0).action.leadsTo (fun made =>
      made.focus[0]?.isSome && (Command.call 0 (.growBy 5000)).action.leadsTo
        (fun grown => grown.focus[0]?.any fun process =>
          process.size == 5000) made)
      (World.empty threeFrames) = true := by
    decide +kernel
  obtain ⟨grown, process, reaches, isMember, passed⟩ := exists_grown computed
  have size : process.size = 5000 := beq_iff_eq.mp passed
  obtain ⟨members, _⟩ := size_describes_memory_of_reached reaches
  refine ⟨grown, process, reaches, isMember, size, ?_⟩
  rw [(members 0 process isMember).1, size]
  rfl

end UserProcess

end DemandPaging
