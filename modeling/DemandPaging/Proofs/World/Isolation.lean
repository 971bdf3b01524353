import DemandPaging.Proofs.World.Ownership

/-!
# Isolation

A world of address spaces begins with pools that lend nothing.  Spaces are
made, each is asked for one thing after the other, and what one has is copied
into another, while frames run out and transfers fail.  In whichever order this
happens, each lent frame is in one page of one space, and nothing that is done
to a space shows in another (`isolated_of_reached`).
-/

namespace DemandPaging

namespace AddressSpace

open Fork

/-- What may be done in a world of address spaces. -/
inductive Command where
  /-- An empty space is made. -/
  | make (config : Config) (isEligible isMetered : Bool) (pool slots : Nat)
    (budget : Option Nat) (file : SwapFile)
  | call (number : Nat) (asked : Call)
  /-- The first `size` bytes of one space are copied into another. -/
  | fork (parent child size : Nat)

namespace Command

/-- The operation on the world that is called for, where `sizes` says how many
bytes of user memory each space has. -/
def action (sizes : Nat → Nat) : Command → Action (World AddressSpace) Unit
  | make config isEligible isMetered pool slots budget file =>
    (fun _ => ()) <$> World.add
      (AddressSpace.make config isEligible pool (PageTable.new budget)
        { SwapSpace.over slots file with isMetered })
  | call number asked =>
    (fun _ => ()) <$> World.onMember number (asked.action (sizes number))
  | fork parent child size =>
    (fun _ => ()) <$> World.onFork parent child (forkCopy size)

/-- What a command is about is there, and a copy goes into another space, which
is empty. -/
def Admissible (sizes : Nat → Nat) (world : World AddressSpace) :
    Command → Prop
  | make _ _ _ pool _ _ _ => pool < world.host.pools.size
  | call number _ => number < world.focus.size
  | fork parent child _ =>
    parent < world.focus.size ∧ child < world.focus.size ∧
      parent ≠ child ∧ sizes child = 0

/-- The space that a command changes. -/
def subject (world : World AddressSpace) : Command → Nat
  | make .. => world.focus.size
  | call number _ => number
  | fork _ child _ => child

/-- The bytes of user memory of that space, once the command is done. -/
def sizeAfter (sizes : Nat → Nat) : Command → Nat
  | make .. => 0
  | call number asked => asked.sizeAfter (sizes number)
  | fork _ _ size => size

end Command

/-- The worlds that commands lead to, with the bytes of user memory that the
spaces have. -/
inductive Reaches : (Nat → Nat) → World AddressSpace → Prop where
  | start {host : Host}
      (unused : ∀ pool, pool ∈ host.pools →
        ∃ total, total ≤ FramePool.sizeLimit ∧ pool = FramePool.new total) :
      Reaches (fun _ => 0) (World.empty host)
  /-- The devices come to fail, or to work again. -/
  | rewired {sizes : Nat → Nat} {world : World AddressSpace}
      (reaches : Reaches sizes world) (transfers : Transfers) :
      Reaches sizes ⟨world.focus, { world.host with transfers }⟩
  | done {sizes : Nat → Nat} {world after : World AddressSpace}
      {command : Command} (reaches : Reaches sizes world)
      (admissible : command.Admissible sizes world)
      (done : (command.action sizes).run world = .done () after) :
      Reaches (Function.update sizes (command.subject world)
        (command.sizeAfter sizes)) after
  | failed {sizes : Nat → Nat} {world after : World AddressSpace}
      {command : Command} {error : PagingError}
      (reaches : Reaches sizes world)
      (admissible : command.Admissible sizes world)
      (failed : (command.action sizes).run world = .failed error after) :
      Reaches sizes after

variable {sizes : Nat → Nat} {world after : World AddressSpace}
  {space : AddressSpace} {host : Host}

namespace IsOwned

/-- What is done to a space is to be seen in that space alone. -/
theorem meets_command (owned : IsOwned sizes world) (command : Command)
    (admissible : command.Admissible sizes world) :
    ((command.action sizes).run world).Meets (fun _ => True)
      (fun _ after =>
        IsOwned (Function.update sizes (command.subject world)
          (command.sizeAfter sizes)) after ∧
        LeavesOthers (command.subject world) world after)
      (fun _ after => IsOwned sizes after ∧
        LeavesOthers (command.subject world) world after) := by
  cases command with
  | make config isEligible isMetered pool slots budget file =>
      refine Action.meets_map (World.meets_add
        ((meets_make.mono ?_ ?_).mono_fatal fun _ _ => trivial))
      · intro space host made
        have inside : pool < world.host.pools.size := admissible
        have coherent := (isNew_of_run_make made (owned.pools pool) inside
          (owned.total_le pool)).isCoherent
        obtain ⟨_, _, _, _, _, same⟩ := run_make_eq_done_iff.mp made
        have pools : host.pools = world.host.pools := by rw [same]; rfl
        refine ⟨(owned.rehost pools).push coherent,
          fun other member elsewhere isOther => ?_, fun _ _ _ _ => ?_⟩
        · exact (Array.getElem?_push ..).trans
            ((if_neg elsewhere).trans isOther)
        · rw [same]
          rfl
      · rintro _ _ rfl
        exact ⟨owned, .refl _ _⟩
  | call number asked =>
      have isMember : world.focus[number]? = some world.focus[number] :=
        Array.getElem?_eq_getElem admissible
      refine Action.meets_map (World.meets_onMember isMember
        (((owned.coherent number _ isMember).meets_call asked).mono ?_ ?_))
      · intro _ after orderly
        exact ⟨owned.replace isMember orderly,
          owned.leavesOthers isMember orderly⟩
      · intro _ after orderly
        have replaced := owned.replace isMember orderly
        rw [Function.update_eq_self] at replaced
        exact ⟨replaced, owned.leavesOthers isMember orderly⟩
  | fork parent child size =>
      obtain ⟨parentInside, childInside, different, isEmpty⟩ := admissible
      have isParent : world.focus[parent]? = some world.focus[parent] :=
        Array.getElem?_eq_getElem parentInside
      have isChild : world.focus[child]? = some world.focus[child] :=
        Array.getElem?_eq_getElem childInside
      obtain ⟨state, isState⟩ : ∃ state : Hosted (Fork AddressSpace), state =
          ⟨⟨world.focus[parent], world.focus[child]⟩, world.host⟩ := ⟨_, rfl⟩
      have coherent : IsCoherent (sizes parent) (parentOf state) := by
        rw [isState]
        exact owned.coherent parent _ isParent
      have empty : IsCoherent 0 (childOf state) := by
        rw [isState, ← isEmpty]
        exact owned.coherent child _ isChild
      have copies := meets_forkCopy_of_coherent coherent empty size
      rw [isState] at copies
      refine Action.meets_map (World.meets_onFork isParent isChild
        (copies.mono ?_ ?_))
      · rintro _ after ⟨sameParent, orderly⟩
        exact ⟨sameParent, owned.replace isChild orderly,
          owned.leavesOthers isChild orderly⟩
      · rintro _ after ⟨sameParent, orderly⟩
        have replaced := owned.replace isChild orderly
        rw [Command.subject, ← isEmpty, Function.update_eq_self] at *
        exact ⟨sameParent, replaced, owned.leavesOthers isChild orderly⟩

end IsOwned

theorem Reaches.isOwned (reaches : Reaches sizes world) :
    IsOwned sizes world := by
  induction reaches with
  | start unused => exact .empty unused
  | rewired _ transfers owned => exact owned.rehost rfl
  | done _ admissible done owned =>
      have meets := owned.meets_command _ admissible
      rw [done] at meets
      exact meets.1
  | failed _ admissible failed owned =>
      have meets := owned.meets_command _ admissible
      rw [failed] at meets
      exact meets.1

/-- Every page in memory is in a lent frame of its space's pool, no two pages
are in one frame, no pool lends a frame that is in no page, and what is done to
one space leaves all others and their pages as they were. -/
theorem isolated_of_reached (reaches : Reaches sizes world) :
    (∀ (number : Nat) (space : AddressSpace),
      world.focus[number]? = some space → ∀ page entry,
        (page, entry) ∈ space.table.leaves → entry.isValid = true →
          ∃ contents,
            (world.host.pool space.pool).read entry.address = .ok contents) ∧
    (∀ pool,
      ((world.focus.toList.filter fun space => space.pool == pool).flatMap
        framesOf).Nodup) ∧
    (∀ pool, (world.host.pool pool).lentCount =
      ((world.focus.toList.filter fun space => space.pool == pool).map
        mappedCount).sum) ∧
    ∀ command : Command, command.Admissible sizes world →
      ((command.action sizes).run world).Meets (fun _ => True)
        (fun _ => LeavesOthers (command.subject world) world)
        fun _ => LeavesOthers (command.subject world) world := by
  have owned := reaches.isOwned
  refine ⟨fun number space isMember page entry leaf isValid => ?_,
    owned.nodup_framesOf, owned.lentCount_eq, fun command admissible => ?_⟩
  · obtain ⟨_, rfl, _⟩ := PageTable.mem_leaves_iff_entryAt.mp leaf
    obtain ⟨contents, lent⟩ :=
      (owned.coherent number space isMember).sound.framed page isValid
    exact ⟨contents, FramePool.contents?_eq_some_iff.mp lent⟩
  · exact (owned.meets_command command admissible).mono
      (fun _ _ done => done.2) fun _ _ failed => failed.2

instance Command.decideAdmissible (command : Command) (sizes : Nat → Nat)
    (world : World AddressSpace) :
    Decidable (command.Admissible sizes world) := by
  cases command <;> unfold Command.Admissible <;> infer_instance

/-- Are the commands done one after the other, each of them admissible, and does
the world that they leave pass the test? -/
def Command.leadThrough
    (passes : (Nat → Nat) → World AddressSpace → Bool) :
    List Command → (Nat → Nat) → World AddressSpace → Bool
  | [], sizes, world => passes sizes world
  | command :: commands, sizes, world =>
    decide (command.Admissible sizes world) &&
      (command.action sizes).leadsTo
        (leadThrough passes commands (Function.update sizes
          (command.subject world) (command.sizeAfter sizes))) world

/-- Commands that are computed lead to a world that is reached. -/
theorem Reaches.exists_of_leadThrough
    {passes : (Nat → Nat) → World AddressSpace → Bool}
    {commands : List Command} (reaches : Reaches sizes world)
    (computed : Command.leadThrough passes commands sizes world = true) :
    ∃ sizes after, Reaches sizes after ∧ passes sizes after = true := by
  induction commands generalizing sizes world with
  | nil => exact ⟨sizes, world, reaches, computed⟩
  | cons command commands ih =>
      obtain ⟨admissible, leads⟩ := Bool.and_eq_true_iff.mp computed
      obtain ⟨_, middle, done, leads⟩ := Action.exists_of_leadsTo leads
      exact ih (reaches.done (of_decide_eq_true admissible) done) leads

/-- Three spaces of up to two pages in memory and one in swap over one pool.  The
first has three pages, the second has one, and the third is a copy of the
first. -/
def threeSpaces : List Command :=
  let making : Command := .make ⟨2, 1, .scfifo⟩ true false 0 1 none
    ⟨Array.replicate pageSize 0⟩
  [making, making, making,
    .call 0 (.request (.grow (3 * pageSize) { write := true })),
    .call 1 (.request (.grow pageSize {})),
    .fork 0 2 (3 * pageSize)]

/-- The pages of three spaces are in five frames, and what is written to the copy
does not show in the space that was copied. -/
theorem isolated_of_reached_three_spaces :
    ∃ (sizes : Nat → Nat) (world after : World AddressSpace)
      (parent child : AddressSpace), Reaches sizes world ∧
      (world.host.pool 0).lentCount = 5 ∧
      (world.focus.toList.map mappedCount) = [2, 1, 2] ∧
      (world.focus.toList.flatMap framesOf).Nodup ∧
      ((Command.call 2 (.request (.copyOut 0 [7]))).action sizes).run world =
        .done () after ∧
      LeavesOthers 2 world after ∧
      after.focus[0]? = some parent ∧ after.focus[2]? = some child ∧
      FlatMemory.byte? (logicalPage? ⟨parent, after.host⟩) 0 = some 0 ∧
      FlatMemory.byte? (logicalPage? ⟨child, after.host⟩) 0 = some 7 := by
  have computed : Command.leadThrough (fun sizes world =>
      decide ((world.focus.toList.map mappedCount) = [2, 1, 2] ∧
        world.focus.toList.map AddressSpace.pool = [0, 0, 0]) &&
      ((Command.call 2 (.request (.copyOut 0 [7]))).action sizes).leadsTo
        (fun after => decide (
          (after.focus[0]?).bind (fun parent => FlatMemory.byte?
            (logicalPage? ⟨parent, after.host⟩) 0) = some 0 ∧
          (after.focus[2]?).bind (fun child => FlatMemory.byte?
            (logicalPage? ⟨child, after.host⟩) 0) = some 7)) world)
      threeSpaces (fun _ => 0) (World.empty ⟨#[FramePool.new 8], {}, #[]⟩) =
        true := by
    decide +kernel
  have start : Reaches (fun _ => 0)
      (World.empty ⟨#[FramePool.new 8], {}, #[]⟩) :=
    .start fun pool isPool => ⟨8, by decide, Array.mem_singleton.mp isPool⟩
  obtain ⟨sizes, world, reaches, computed⟩ :=
    start.exists_of_leadThrough computed
  obtain ⟨counted, writes⟩ := Bool.and_eq_true_iff.mp computed
  obtain ⟨counts, pools⟩ := of_decide_eq_true counted
  obtain ⟨_, after, writes, shows⟩ := Action.exists_of_leadsTo writes
  obtain ⟨ofParent, ofChild⟩ := of_decide_eq_true shows
  obtain ⟨parent, isParent, ofParent⟩ := Option.bind_eq_some_iff.mp ofParent
  obtain ⟨child, isChild, ofChild⟩ := Option.bind_eq_some_iff.mp ofChild
  have size : 2 < world.focus.size := by
    have length := congrArg List.length pools
    rw [List.length_map, Array.length_toList] at length
    exact length ▸ Nat.lt_succ_self 2
  have samePool : (world.focus.toList.filter fun space => space.pool == 0) =
      world.focus.toList := by
    refine List.filter_eq_self.mpr fun space isMember => ?_
    have isPool := List.mem_map_of_mem (f := AddressSpace.pool) isMember
    rw [pools] at isPool
    simpa using isPool
  obtain ⟨_, nodup, lentCount, leaves⟩ := isolated_of_reached reaches
  have frames := nodup 0
  have lent := lentCount 0
  rw [samePool] at frames lent
  rw [counts] at lent
  have apart := leaves (.call 2 (.request (.copyOut 0 [7]))) size
  rw [writes] at apart
  exact ⟨sizes, world, after, parent, child, reaches, lent, counts, frames,
    writes, apart, isParent, isChild, ofParent, ofChild⟩

end AddressSpace

end DemandPaging
