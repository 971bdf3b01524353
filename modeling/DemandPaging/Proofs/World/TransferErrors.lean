import DemandPaging.Proofs.AddressSpace.TransferErrors
import DemandPaging.Proofs.World.Isolation

/-!
# How many transfers failed in a world

Whatever is asked of the spaces of a world, a command that ends with a failed
transfer has counted it once, and no other command counts any.  A fork is the
exception: the transfers that it tries itself, between the slots of parent and
child, are not counted, and a space under paging has no others in its forks.
-/

namespace DemandPaging

namespace AddressSpace

open Fork

variable {Result : Type} {isPaging : Bool} {size : Nat}

theorem counts_withBuffer {buffer : Array UInt8} {action : ReadAction Result}
    (counts : UserRead.CountsErrors isPaging action) :
    CountsErrors isPaging 1 (withBuffer buffer action) := by
  have both : UserRead.CountsErrors isPaging (do
      let result ← action
      let filled ← Action.read fun filled => filled.focus.buffer
      return (result, filled)) := by
    apply counts.bind
    intro result
    apply (Action.tallies_read _).bind
    exact fun _ => Action.tallies_pure _
  exact both.zoom (fun _ kept => kept) (fun _ _ _ kept => kept)
    fun _ _ _ => Nat.add_comm _ _

theorem counts_request (request : Request) :
    CountsErrors isPaging 1 (request.action size) := by
  cases request with
  | grow larger permissions => exact (counts_grow size larger permissions).map
  | shrink smaller => exact (counts_shrink size smaller).map
  | pageIn address => exact (counts_pageIn address).map
  | resolveFault address access =>
      exact (counts_resolveFault address access).map
  | evict => exact (counts_evictInto none).map
  | tick => exact counts_tick.map
  | touch address isWrite =>
      exact (counts_onTable (Action.isQuiet_change _)).map
  | clearUser address => exact (counts_clearUser address).map
  | copyOut address bytes => exact (counts_writeRuns _ bytes).map
  | copyIn address buffer =>
      exact (counts_withBuffer (UserRead.counts_copyIn address)).map
  | copyInString address buffer =>
      exact (counts_withBuffer (UserRead.counts_copyInString address)).map

theorem counts_call (call : Call) :
    CountsErrors isPaging 1 (call.action size) := by
  cases call with
  | request asked => exact (counts_request asked).map
  | tearDown => exact counts_tearDown size

variable {isParentPaging isChildPaging : Bool} {each : Nat}

/-- The operation on parent and child leaves it as it is whether they are under
paging, and counts failed transfers in either. -/
abbrev ForkCountsErrors (isParentPaging isChildPaging : Bool) (each : Nat)
    (action : SpaceFork Result) : Prop :=
  Action.Tallies
    (fun state => state.focus.parent.isPaging = isParentPaging ∧
      state.focus.child.isPaging = isChildPaging)
    (fun state => state.focus.parent.stats.swapErrors +
      state.focus.child.stats.swapErrors)
    each action

theorem counts_inParent {action : SpaceAction Result}
    (counts : CountsErrors isParentPaging each action) :
    ForkCountsErrors isParentPaging isChildPaging each (inParent action) :=
  counts.zoom (fun _ kept => kept.1) (fun _ _ kept same => ⟨same, kept.2⟩)
    fun _ _ _ => by dsimp only; omega

theorem counts_inChild {action : SpaceAction Result}
    (counts : CountsErrors isChildPaging each action) :
    ForkCountsErrors isParentPaging isChildPaging each (inChild action) :=
  counts.zoom (fun _ kept => kept.2) (fun _ _ kept same => ⟨kept.1, same⟩)
    fun _ _ _ => by dsimp only; omega

theorem counts_markPagedOut (page : Nat) (flags : Flags) :
    CountsErrors isPaging each (markPagedOut page flags) := by
  apply (counts_onTable (Action.isQuiet_step _)).bind
  intro entry
  apply (Action.tallies_orFail rfl entry).bind
  exact fun _ => counts_updateEntry _ _

theorem counts_receiveSlot (page slot : Nat) (contents : List UInt8)
    (flags : Flags) :
    CountsErrors isPaging 0 (receiveSlot page slot contents flags) := by
  apply (counts_onSlots (Action.isQuiet_change _)).bind
  intro _
  apply ((counts_onDevice _).onFailure fun _ => counts_releaseSlot slot).bind
  intro _
  exact (counts_markPagedOut page flags).onFailure fun _ =>
    counts_releaseSlot slot

theorem counts_copyFrame (page source : Nat) (flags : Flags) :
    ForkCountsErrors isParentPaging isChildPaging each
      (copyFrame page source flags) := by
  apply (counts_inChild counts_takeFrame).bind
  intro frame
  apply (counts_inParent (counts_readFrame source)).bind
  intro contents
  apply counts_inChild
  apply (counts_writeFrame frame _).bind
  exact fun _ => counts_place page frame flags

theorem counts_adoptPage (page : Nat) (entry : Entry) (handle : Nat)
    (tracked : Tracked) :
    ForkCountsErrors isParentPaging isChildPaging 0
      (adoptPage page entry handle tracked) := by
  have adopted : ForkCountsErrors isParentPaging isChildPaging 0
      (inChild (onLedger (Action.change fun ledger =>
        ledger.adopt handle tracked))) :=
    counts_inChild (counts_onLedger (Action.isQuiet_change _))
  unfold adoptPage
  dsimp only
  split
  · apply (Action.tallies_orCrash _ _).bind
    intro slot
    apply Action.Tallies.bind
    · apply (counts_inParent (counts_onDevice _)).bind
      exact fun contents => counts_inChild (counts_receiveSlot _ _ _ _)
    · exact fun _ => adopted
  · exact (counts_copyFrame _ _ _).bind fun _ => adopted

theorem counts_readParent (page : Nat) (entry : Entry)
    (tracked : Option Tracked) (uncounted : tracked = none ∨ each = 0) :
    ForkCountsErrors isParentPaging isChildPaging each
      (readParent page entry tracked) := by
  unfold readParent
  split
  · rcases uncounted with rfl | rfl
    · exact fun _ _ => trivial
    · apply (Action.tallies_orCrash _ _).bind
      exact fun slot => counts_inParent (counts_onDevice _)
  · apply (counts_inParent (counts_readFrame _)).bind
    exact fun contents => Action.tallies_pure _

theorem counts_enrollPage (page : Nat) (entry : Entry)
    (tracked : Option Tracked) (uncounted : tracked = none ∨ each = 0)
    (counted : isChildPaging = true → each = 1) :
    ForkCountsErrors isParentPaging isChildPaging each
      (enrollPage page entry tracked) := by
  apply (counts_inChild counts_takeFrame).bind
  intro frame
  apply Action.Tallies.bind
  · apply (counts_readParent page entry tracked uncounted).onFailure
    exact fun _ => counts_inChild (counts_releaseFrame frame)
  · intro contents
    apply counts_inChild
    apply (counts_writeFrame frame contents).bind
    exact fun _ => counts_install counted _ _ _

theorem counts_copyTracked (page : Nat) (entry : Entry) :
    ForkCountsErrors isParentPaging isChildPaging 0
      (copyTracked page entry) := by
  apply Action.tallies_read_bind
  intro state kept
  apply (Action.tallies_orCrash _ _).bind
  intro handle
  apply (Action.tallies_ofExcept _).bind
  intro tracked
  split
  · exact counts_adoptPage page entry handle tracked
  · rename_i notPaging
    apply counts_enrollPage page entry _ (.inr rfl)
    intro paged
    exact absurd (kept.2.trans paged) notPaging

theorem inParent_look (value : AddressSpace → Result) :
    inParent (look value) =
      Action.read fun state => value state.focus.parent :=
  rfl

theorem counts_copyPage (page : Nat) :
    ForkCountsErrors isParentPaging isChildPaging (!isParentPaging).toNat
      (copyPage page) := by
  apply (counts_inParent (counts_lookup page)).bind
  intro found
  apply (Action.tallies_orCrash _ found).bind
  intro entry
  apply (Action.tallies_crashUnless _ _).bind
  intro _
  apply (Action.tallies_crashUnless _ _).bind
  intro _
  rw [inParent_look]
  apply Action.tallies_read_bind
  rintro state ⟨parent, _⟩
  cases isParentPaging with
  | true =>
      rw [if_pos parent]
      exact counts_copyTracked page entry
  | false =>
      rw [if_neg (by rw [parent]; decide)]
      exact counts_enrollPage page entry none (.inl rfl) fun _ => rfl

theorem counts_copyRun (page count : Nat) :
    ForkCountsErrors isParentPaging isChildPaging (!isParentPaging).toNat
      (copyRun page count) := by
  induction count generalizing page with
  | zero => exact Action.tallies_pure ()
  | succ count ih =>
      apply Action.Tallies.bind
      · apply (counts_copyPage page).onFailure
        exact fun _ => counts_inChild (counts_unmap 0 _ true)
      · exact fun _ => ih _

theorem counts_forkCopy (size : Nat) :
    ForkCountsErrors isParentPaging isChildPaging (!isParentPaging).toNat
      (forkCopy size) := by
  apply (Action.tallies_read _).bind
  intro fork
  apply (Action.tallies_crashUnless _ _).bind
  intro _
  apply (counts_copyRun 0 _).bind
  intro _
  apply Action.tallies_runIf
  intro _
  apply (counts_inParent (counts_look _)).bind
  intro generation
  exact counts_inChild (counts_onLedger (Action.isQuiet_modify _))

/-- The transfers that the spaces of a world have counted as failed. -/
def transferErrors (world : World AddressSpace) : Nat :=
  (world.focus.toList.map fun space => space.stats.swapErrors).sum

variable {world : World AddressSpace} {sizes : Nat → Nat} {number : Nat}
  {space : AddressSpace}

/-- Is a failed transfer of the command counted?  That of a fork of a space
under paging is not. -/
def Command.isCounted (world : World AddressSpace) : Command → Bool
  | fork parent _ _ =>
    !(world.focus[parent]?.map AddressSpace.isPaging).getD false
  | make .. | call .. => true

/-- A copy goes into another space. -/
def Command.IsProper : Command → Prop
  | fork parent child _ => parent ≠ child
  | make .. | call .. => True

theorem sum_map_set {Item : Type} (weigh : Item → Nat) (items : List Item)
    {position : Nat} {old : Item} (new : Item)
    (isThere : items[position]? = some old) :
    ((items.set position new).map weigh).sum + weigh old =
      (items.map weigh).sum + weigh new := by
  induction items generalizing position with
  | nil => cases isThere
  | cons item items ih =>
      cases position with
      | zero =>
          cases isThere
          simp only [List.set_cons_zero, List.map_cons, List.sum_cons]
          omega
      | succ position =>
          have rest := ih isThere
          simp only [List.set_cons_succ, List.map_cons, List.sum_cons]
          omega

/-- What one space counts is a share in the whole. -/
theorem transferErrors_replaced
    (isMember : world.focus[number]? = some space)
    (after : Hosted AddressSpace) :
    transferErrors (world.replaced number after) + space.stats.swapErrors =
      transferErrors world + after.focus.stats.swapErrors := by
  rw [transferErrors, World.replaced, Array.toList_setIfInBounds]
  exact sum_map_set (fun space => space.stats.swapErrors) world.focus.toList
    after.focus (by rwa [Array.getElem?_toList])

/-- A new space has counted nothing, and why a space cannot be made has nothing
to do with transfers. -/
theorem meets_make_uncounted {config : Config} {isEligible : Bool} {pool : Nat}
    {table : PageTable} {swap : SwapSpace} {host : Host} :
    ((make config isEligible pool table swap).run host).Meets (fun _ => True)
      (fun space _ => space.stats.swapErrors = 0)
      fun error _ => error.tally each = 0 := by
  apply Action.meets_bind_of fun _ _ => True
  · unfold Config.validate
    split
    · exact rfl
    · trivial
  · intro _ host _
    apply Action.meets_failUnless_bind
    · exact fun _ => rfl
    intro _
    apply Action.meets_bind_of fun _ _ => True
    · trivial
    intro _ host _
    apply Action.meets_bind_of fun _ _ => True
    · cases Ledger.new config.maxResident config.maxSwap <;> trivial
    · exact fun ledger host _ => rfl

/-- What parent and child of a fork count are shares in the whole. -/
theorem meets_onFork_tally {parent child : Nat} (different : parent ≠ child) :
    ((World.onFork parent child (forkCopy size)).run world).Meets
      (fun _ => True)
      (fun _ after => transferErrors after = transferErrors world)
      fun error after => transferErrors after = transferErrors world +
        error.tally
          ((Command.fork parent child size).isCounted world).toNat := by
  rw [Action.run, World.onFork]
  split
  · rename_i first second isParent isChild
    apply Action.meets_zoom_iff.mpr
    apply Action.meets_map
    have shares : ∀ after : Hosted (Fork AddressSpace),
        transferErrors ((world.replaced parent
          ⟨after.focus.parent, after.host⟩).replaced child
            ⟨after.focus.child, after.host⟩) +
          (first.stats.swapErrors + second.stats.swapErrors) =
        transferErrors world + (after.focus.parent.stats.swapErrors +
          after.focus.child.stats.swapErrors) := by
      intro after
      have ofParent := transferErrors_replaced isParent
        ⟨after.focus.parent, after.host⟩
      have still : (world.replaced parent
          ⟨after.focus.parent, after.host⟩).focus[child]? = some second :=
        (World.getElem?_replaced_of_ne (Ne.symm different)).trans isChild
      have ofChild := transferErrors_replaced still
        ⟨after.focus.child, after.host⟩
      dsimp only at ofParent ofChild
      omega
    apply (counts_forkCopy size ⟨⟨first, second⟩, world.host⟩
      ⟨rfl, rfl⟩).mono
    · rintro _ after ⟨_, same⟩
      have whole := shares after
      dsimp only [World.replaced] at same whole ⊢
      omega
    · rintro error after ⟨_, counted⟩
      have whole := shares after
      dsimp only [World.replaced, Command.isCounted] at counted whole ⊢
      rw [isParent]
      simp only [Option.map_some, Option.getD_some]
      omega
  · exact rfl

/-- A command that ends with a failed transfer counts it, except in a fork of a
space under paging, and no other command counts any. -/
theorem meets_command_tally (world : World AddressSpace) (sizes : Nat → Nat)
    (command : Command) (proper : command.IsProper) :
    ((command.action sizes).run world).Meets (fun _ => True)
      (fun _ after => transferErrors after = transferErrors world)
      fun error after => transferErrors after =
        transferErrors world +
          error.tally (command.isCounted world).toNat := by
  cases command with
  | make config isEligible isMetered pool slots budget file =>
      apply Action.meets_map
      apply World.meets_add
      apply meets_make_uncounted.mono
      · intro space host uncounted
        simp [transferErrors, uncounted]
      · intro error host uncounted
        rw [Command.isCounted, uncounted]
        rfl
  | call number asked =>
      apply Action.meets_map
      cases isMember : world.focus[number]? with
      | none =>
          rw [Action.run, World.onMember, isMember]
          exact rfl
      | some space =>
          apply World.meets_onMember isMember
          apply (counts_call asked ⟨space, world.host⟩ rfl).mono
          · rintro _ after ⟨_, same⟩
            have whole := transferErrors_replaced isMember after
            dsimp only at same
            omega
          · rintro error after ⟨_, counted⟩
            have whole := transferErrors_replaced isMember after
            dsimp only [Command.isCounted, Bool.toNat_true] at counted ⊢
            omega
  | fork parent child size => exact Action.meets_map (meets_onFork_tally proper)

/-- What may happen next. -/
inductive Happening where
  /-- A command, where each space has so many bytes of user memory. -/
  | command (asked : Command) (sizes : Nat → Nat)
  /-- The devices come to fail, or to work again. -/
  | rewire (transfers : Transfers)

/-- How a command ended. -/
structure Ending where
  command : Command
  /-- Is a failed transfer of the command counted? -/
  isCounted : Bool
  error : Option PagingError

namespace Ending

/-- Did the command end with a failed transfer? -/
def isFailedTransfer (ending : Ending) : Bool :=
  match ending.error with
  | some (.swapTransfer _) => true
  | _ => false

/-- Did it, and was that counted? -/
def isCountedFailure (ending : Ending) : Bool :=
  ending.isFailedTransfer && ending.isCounted

end Ending

/-- How the commands ended and what they left, unless one of them was fatal. -/
def runAll (world : World AddressSpace) :
    List Happening → Except Fatal (List Ending × World AddressSpace)
  | [] => return ([], world)
  | .rewire transfers :: happenings =>
    runAll ⟨world.focus, { world.host with transfers }⟩ happenings
  | .command asked sizes :: happenings =>
    match (asked.action sizes).run world with
    | .done _ after => do
      let (endings, final) ← runAll after happenings
      return (⟨asked, asked.isCounted world, none⟩ :: endings, final)
    | .failed error after => do
      let (endings, final) ← runAll after happenings
      return (⟨asked, asked.isCounted world, some error⟩ :: endings, final)
    | .fatal cause => throw cause

/-- Each copy goes into another space. -/
def AreProper (happenings : List Happening) : Prop :=
  ∀ asked sizes, .command asked sizes ∈ happenings → asked.IsProper

theorem tally_eq_toNat (command : Command) (isCounted : Bool)
    (error : PagingError) :
    error.tally isCounted.toNat =
      (Ending.mk command isCounted (some error)).isCountedFailure.toNat := by
  cases error <;> cases isCounted <;> rfl

theorem countP_cons_toNat {Item : Type} (kind : Item → Bool) (item : Item)
    (items : List Item) :
    (item :: items).countP kind = items.countP kind + (kind item).toNat := by
  rw [List.countP_cons]
  cases kind item <;> rfl

theorem transferErrors_runAll {happenings : List Happening}
    {endings : List Ending} {start : World AddressSpace}
    (proper : AreProper happenings)
    (ran : runAll start happenings = .ok (endings, world)) :
    transferErrors world =
      transferErrors start + endings.countP Ending.isCountedFailure := by
  induction happenings generalizing start endings with
  | nil =>
      cases ran
      rfl
  | cons happening happenings ih =>
      have later : AreProper happenings := fun asked sizes member =>
        proper asked sizes (.tail _ member)
      cases happening with
      | rewire transfers =>
          rw [runAll] at ran
          have counted := ih later ran
          exact counted
      | command asked sizes =>
          have meets := meets_command_tally start sizes asked
            (proper asked sizes (.head _))
          rw [runAll] at ran
          split at ran
          · rename_i after ended
            simp only [bind_eq_ok_iff, Prod.exists] at ran
            obtain ⟨rest, final, ran, ⟨⟩⟩ := ran
            rw [ended] at meets
            rw [ih later ran, countP_cons_toNat,
              show transferErrors after = _ from meets]
            rfl
          · rename_i error after ended
            simp only [bind_eq_ok_iff, Prod.exists] at ran
            obtain ⟨rest, final, ran, ⟨⟩⟩ := ran
            rw [ended] at meets
            rw [ih later ran, countP_cons_toNat, ← tally_eq_toNat,
              show transferErrors after = _ from meets]
            omega
          · cases ran

/-- In any run the counts of all spaces together go up by the number of commands
that end with a failed transfer, forks of spaces under paging left out.  Such a
fork counts no failed transfer, every other command that ends with one counts it
once, and no other ending is counted. -/
theorem counts_failed_transfers {happenings : List Happening}
    {endings : List Ending} {start : World AddressSpace}
    (proper : AreProper happenings)
    (ran : runAll start happenings = .ok (endings, world)) :
    transferErrors world =
        transferErrors start + endings.countP Ending.isCountedFailure ∧
      ∀ (sizes : Nat → Nat) (command : Command), command.IsProper →
        ((command.action sizes).run world).Meets (fun _ => True)
          (fun _ after => transferErrors after = transferErrors world)
          fun error after => transferErrors after = transferErrors world +
            if command.isCounted world then error.tally 1 else 0 := by
  refine ⟨transferErrors_runAll proper ran, ?_⟩
  intro sizes command isProper
  apply (meets_command_tally world sizes command isProper).mono
  · exact fun _ _ same => same
  · intro error after counted
    rw [counted]
    cases command.isCounted world with
    | true => rfl
    | false =>
        rw [Bool.toNat_false, PagingError.tally_zero]
        rfl

/-- A space with its only page in swap. -/
def swappedSpace : AddressSpace where
  table := ((PageTable.new none).addTable 0).write 0
    (Entry.pagedOut { read := true, user := true })
  ledger :=
    { places := #[⟨.swapped 0 0, 1⟩, Tracked.unused]
      index := Std.TreeMap.empty.insert 0 0
      maxResident := 1
      residentCount := 0
      swappedCount := 1
      generation := 1 }
  swap :=
    { used := #[true]
      inUse := 1
      file := ⟨Array.replicate pageSize 0⟩
      isMetered := true }
  pool := 0
  config := ⟨1, 1, .scfifo⟩
  isPaging := true
  stats := { evictions := 1 }

/-- The page cannot be read while the space is copied into a new one. -/
def missedTransfer : List Happening :=
  [.command (.make ⟨1, 1, .scfifo⟩ true true 0 1 none
      ⟨Array.replicate pageSize 0⟩) fun _ => 0,
    .rewire { reads := some 0 },
    .command (.fork 0 1 pageSize) fun _ => 0]

/-- The fork ends with a failed transfer that neither space counts. -/
theorem counts_failed_transfers_but_of_fork : AreProper missedTransfer ∧
    ∃ endings world,
      runAll ⟨#[swappedSpace], ⟨#[FramePool.new 3], {}, #[]⟩⟩ missedTransfer =
        .ok (endings, world) ∧
      endings.countP Ending.isFailedTransfer = 1 ∧
        transferErrors world = 0 := by
  have proper : AreProper missedTransfer := by
    intro asked sizes member
    simp only [missedTransfer, List.mem_cons, Happening.command.injEq,
      reduceCtorEq, List.not_mem_nil, or_false, false_or] at member
    rcases member with ⟨rfl, _⟩ | ⟨rfl, _⟩
    · trivial
    · exact Nat.zero_ne_one
  have evaluated :
      (match runAll ⟨#[swappedSpace], ⟨#[FramePool.new 3], {}, #[]⟩⟩
          missedTransfer with
      | .ok (endings, _) =>
        endings.countP Ending.isFailedTransfer == 1 &&
          endings.countP Ending.isCountedFailure == 0
      | .error _ => false) = true := by
    decide +kernel
  cases ran : runAll ⟨#[swappedSpace], ⟨#[FramePool.new 3], {}, #[]⟩⟩
      missedTransfer with
  | error cause =>
      rw [ran] at evaluated
      cases evaluated
  | ok result =>
      obtain ⟨endings, world⟩ := result
      simp only [ran, Bool.and_eq_true, beq_iff_eq] at evaluated
      refine ⟨proper, endings, world, rfl, evaluated.1, ?_⟩
      rw [(counts_failed_transfers proper ran).1, evaluated.2]
      rfl

end AddressSpace

end DemandPaging
