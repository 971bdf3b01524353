import DemandPaging.Proofs.AddressSpace.Parts
import DemandPaging.Proofs.Replacement.Choice

/-!
# Operations and the moves they make

An operation on a space makes moves in the books of its policy.  Most of the
primitives make none.  Where an operation goes on after another, the moves of
both follow one another.
-/

namespace DemandPaging

namespace AddressSpace

open Books (Move Steps)

variable {First Second Result : Type} {state middle after : Hosted AddressSpace}
  {moves more : List Move}

/-- The books of the policy of a space. -/
def booksOf (state : Hosted AddressSpace) : Books :=
  .of state.focus.table state.focus.ledger

/-- The policy has the same books as before. -/
structure SameBooks (before after : Hosted AddressSpace) : Prop where
  config : after.focus.config = before.focus.config
  isPaging : after.focus.isPaging = before.focus.isPaging
  books : booksOf after = booksOf before

/-- These moves were made. -/
structure Follows (before : Hosted AddressSpace) (moves : List Move)
    (after : Hosted AddressSpace) : Prop where
  config : after.focus.config = before.focus.config
  isPaging : after.focus.isPaging = before.focus.isPaging
  steps : Steps before.focus.config.policy moves (booksOf before)
    (booksOf after)

theorem SameBooks.refl (state : Hosted AddressSpace) : SameBooks state state :=
  ⟨rfl, rfl, rfl⟩

theorem SameBooks.trans (first : SameBooks state middle)
    (second : SameBooks middle after) : SameBooks state after where
  config := second.config.trans first.config
  isPaging := second.isPaging.trans first.isPaging
  books := second.books.trans first.books

theorem SameBooks.ledger (same : SameBooks state after) :
    after.focus.ledger = state.focus.ledger :=
  congrArg Books.ledger same.books

theorem SameBooks.withLedger (same : SameBooks state after) (ledger : Ledger) :
    SameBooks { state with focus := { state.focus with ledger } }
      { after with focus := { after.focus with ledger } } where
  config := same.config
  isPaging := same.isPaging
  books := congrArg (fun books : Books => { books with ledger }) same.books

theorem SameBooks.follows (same : SameBooks state after) :
    Follows state [] after :=
  ⟨same.config, same.isPaging, same.books ▸ .nil⟩

theorem Follows.trans (first : Follows state moves middle)
    (second : Follows middle more after) :
    Follows state (moves ++ more) after where
  config := second.config.trans first.config
  isPaging := second.isPaging.trans first.isPaging
  steps := first.steps.append (first.config ▸ second.steps)

theorem SameBooks.follows_trans (same : SameBooks state middle)
    (follows : Follows middle moves after) : Follows state moves after :=
  same.follows.trans follows

theorem Follows.trans_same (follows : Follows state moves middle)
    (same : SameBooks middle after) : Follows state moves after :=
  List.append_nil moves ▸ follows.trans same.follows

/-- The operation makes no move and does not fail. -/
def IsQuiet (action : SpaceAction Result) : Prop :=
  ∀ state, (action.run state).Meets (fun _ => True)
    (fun _ => SameBooks state) fun _ _ => False

/-- The operation makes no move, but may fail. -/
def IsIdle (action : SpaceAction Result) : Prop :=
  ∀ state, (action.run state).Meets (fun _ => True)
    (fun _ => SameBooks state) fun _ => SameBooks state

theorem IsQuiet.isIdle {action : SpaceAction Result} (quiet : IsQuiet action) :
    IsIdle action :=
  fun state => (quiet state).of_sure

theorem isQuiet_pure (result : Result) :
    IsQuiet (pure result : SpaceAction Result) :=
  fun state => .refl state

theorem IsQuiet.bind {first : SpaceAction First}
    {next : First → SpaceAction Second} (quiet : IsQuiet first)
    (rest : ∀ result, IsQuiet (next result)) : IsQuiet (first >>= next) :=
  fun state => Action.meets_bind (quiet state) fun result middle same =>
    (rest result middle).mono_done fun _ _ still => same.trans still

theorem IsIdle.bind {first : SpaceAction First}
    {next : First → SpaceAction Second} (idle : IsIdle first)
    (rest : ∀ result, IsIdle (next result)) : IsIdle (first >>= next) :=
  fun state => Action.meets_bind (idle state) fun result middle same =>
    (rest result middle).mono (fun _ _ still => same.trans still)
      fun _ _ still => same.trans still

/-- What follows a quiet operation starts with the same books. -/
theorem IsQuiet.meets_bind {first : SpaceAction First}
    {next : First → SpaceAction Second}
    {done : Second → Hosted AddressSpace → Prop}
    {failed : PagingError → Hosted AddressSpace → Prop} (quiet : IsQuiet first)
    (rest : ∀ result middle, SameBooks state middle →
      ((next result).run middle).Meets (fun _ => True) done failed) :
    ((first >>= next).run state).Meets (fun _ => True) done failed :=
  Action.meets_bind (quiet state).of_sure rest

theorem IsIdle.meets_bind {first : SpaceAction First}
    {next : First → SpaceAction Second}
    {done : Second → Hosted AddressSpace → Prop}
    {failed : PagingError → Hosted AddressSpace → Prop} (idle : IsIdle first)
    (fails : ∀ error after, SameBooks state after → failed error after)
    (rest : ∀ result middle, SameBooks state middle →
      ((next result).run middle).Meets (fun _ => True) done failed) :
    ((first >>= next).run state).Meets (fun _ => True) done failed :=
  Action.meets_bind ((idle state).mono_failed fails) rest

theorem isQuiet_runIf (condition : Prop) [Decidable condition]
    {action : SpaceAction Unit} (quiet : IsQuiet action) :
    IsQuiet (Action.runIf condition action) :=
  fun state => Action.meets_runIf (fun _ => quiet state) fun _ => .refl state

theorem isQuiet_ofExcept (result : Except Fatal Result) :
    IsQuiet (Action.ofExcept result) := by
  intro state
  cases result with
  | ok result => exact .refl state
  | error cause => trivial

theorem isQuiet_orCrash (cause : Fatal) (found : Option Result) :
    IsQuiet (Action.orCrash cause found) := by
  intro state
  cases found with
  | none => trivial
  | some result => exact .refl state

theorem isQuiet_crashUnless (condition : Prop) [Decidable condition]
    (cause : Fatal) : IsQuiet (Action.crashUnless condition cause) := by
  intro state
  rw [Action.run_crashUnless]
  split
  · exact .refl state
  · trivial

theorem isIdle_orFail (error : PagingError) (found : Option Result) :
    IsIdle (Action.orFail error found) := by
  intro state
  cases found with
  | none => exact .refl state
  | some result => exact .refl state

theorem isIdle_failUnless (condition : Prop) [Decidable condition]
    (error : PagingError) : IsIdle (Action.failUnless condition error) := by
  intro state
  rw [Action.run_failUnless]
  split <;> exact .refl state

theorem isQuiet_look (value : AddressSpace → Result) : IsQuiet (look value) :=
  fun state => .refl state

theorem isQuiet_count (change : PagingStats → PagingStats) :
    IsQuiet (count change) :=
  fun _ => ⟨rfl, rfl, rfl⟩

theorem isQuiet_report (event : Event) :
    IsQuiet (Hosted.report event : SpaceAction Unit) :=
  fun _ => ⟨rfl, rfl, rfl⟩

theorem isQuiet_reportAll (events : List Event) :
    IsQuiet (Hosted.reportAll events : SpaceAction Unit) := by
  induction events with
  | nil => exact isQuiet_pure ()
  | cons event _ ih => exact (isQuiet_report event).bind fun _ => ih

theorem isQuiet_onFrames {action : Action FramePool Result}
    (sure : ∀ pool, (action.run pool).Meets (fun _ => True)
      (fun _ _ => True) fun _ _ => False) : IsQuiet (onFrames action) :=
  fun _ => Action.meets_zoom_iff.mpr ((sure _).mono_done
    fun _ _ _ => ⟨rfl, rfl, rfl⟩)

theorem isQuiet_onSlots {action : Action SwapSpace Result}
    (sure : ∀ swap, (action.run swap).Meets (fun _ => True)
      (fun _ _ => True) fun _ _ => False) : IsQuiet (onSlots action) :=
  fun _ => Action.meets_zoom_iff.mpr ((sure _).mono_done
    fun _ _ _ => ⟨rfl, rfl, rfl⟩)

theorem isIdle_onDevice (action : Action SwapDevice Result) :
    IsIdle (onDevice action) := by
  intro state
  refine Action.meets_zoom_iff.mpr ?_
  cases action.run ⟨state.focus.swap, state.host.transfers⟩ with
  | done result device => exact ⟨rfl, rfl, rfl⟩
  | failed error device => exact ⟨rfl, rfl, rfl⟩
  | fatal cause => trivial

end AddressSpace

namespace Action

variable {State First : Type}

theorem sure_change (update : State → Except Fatal State) (state : State) :
    ((change update).run state).Meets (fun _ => True) (fun _ _ => True)
      fun _ _ => False := by
  rw [Action.run, change]
  cases update state <;> trivial

theorem sure_inspect (look : State → Except Fatal First) (state : State) :
    ((inspect look).run state).Meets (fun _ => True) (fun _ _ => True)
      fun _ _ => False := by
  rw [Action.run, inspect]
  cases look state <;> trivial

theorem sure_step (transition : State → Except Fatal (First × State))
    (state : State) :
    ((step transition).run state).Meets (fun _ => True) (fun _ _ => True)
      fun _ _ => False := by
  rw [Action.run, step]
  cases transition state <;> trivial

end Action

namespace AddressSpace

open Books (Move)

variable {First Second Result : Type} {state middle after : Hosted AddressSpace}

theorem isQuiet_releaseFrame (frame : Nat) : IsQuiet (releaseFrame frame) :=
  isQuiet_onFrames (Action.sure_change _)

theorem isQuiet_readFrame (frame : Nat) : IsQuiet (readFrame frame) :=
  isQuiet_onFrames (Action.sure_inspect _)

theorem isQuiet_writeFrame (frame : Nat) (bytes : List UInt8) :
    IsQuiet (writeFrame frame bytes) :=
  isQuiet_onFrames (Action.sure_change _)

theorem isQuiet_releaseSlot (slot : Nat) : IsQuiet (releaseSlot slot) :=
  isQuiet_onSlots (Action.sure_change _)

theorem isIdle_takeFrame : IsIdle takeFrame :=
  (isQuiet_onFrames (Action.sure_step _)).isIdle.bind fun _ =>
    isIdle_orFail _ _

theorem isQuiet_claimSlot : IsQuiet claimSlot :=
  (isQuiet_onSlots (Action.sure_step _)).bind fun _ => isQuiet_orCrash _ _

theorem isQuiet_targetSlot (spare : Option Nat) : IsQuiet (targetSlot spare) := by
  cases spare with
  | none => exact isQuiet_claimSlot
  | some slot => exact isQuiet_pure slot

theorem isQuiet_lookup (address : Nat) : IsQuiet (lookup address) := by
  intro state
  refine Action.meets_zoom_iff.mpr ?_
  rw [Action.run, Action.inspect]
  cases state.focus.table.lookup address with
  | ok found => exact .refl state
  | error cause => trivial

theorem isQuiet_reserve : IsQuiet (onLedger (Action.read Ledger.reserve)) :=
  fun state => .refl state

theorem isQuiet_updateEntry (address : Nat) {change : Entry → Entry}
    (same : ∀ entry, (change entry).flags.accessed = entry.flags.accessed) :
    IsQuiet (updateEntry address change) :=
  fun _ => ⟨rfl, rfl, Books.of_update same⟩

/-- What was begun is undone and the failure counted and reported. -/
theorem isQuiet_backOut {undo : SpaceAction Unit} (quiet : IsQuiet undo)
    (failure : TransferError → Event) (error : PagingError) :
    IsQuiet (do
      undo
      count fun stats => { stats with swapErrors := stats.swapErrors + 1 }
      match error with
      | .swapTransfer error => Hosted.report (failure error)
      | _ => pure () : SpaceAction Unit) := by
  refine quiet.bind fun _ => (isQuiet_count _).bind fun _ => ?_
  split
  · exact isQuiet_report _
  · exact isQuiet_pure ()

theorem isIdle_transfer (action : Action SwapDevice Result)
    {undo : SpaceAction Unit} (quiet : IsQuiet undo)
    (failure : TransferError → Event) :
    IsIdle (transfer action undo failure) := by
  intro state
  refine Action.meets_onFailure (isIdle_onDevice action state)
    fun error middle same => ?_
  exact (isQuiet_backOut quiet failure error middle).mono
    (fun _ _ still => same.trans still) fun _ _ isFailed => isFailed.elim

/-- The operation makes moves as `done` says, or fails after moves as `failed`
says. -/
def Leads (state : Hosted AddressSpace) (action : SpaceAction Result)
    (done failed : List Move → Prop) : Prop :=
  (action.run state).Meets (fun _ => True)
    (fun _ after => ∃ moves, done moves ∧ Follows state moves after)
    fun _ after => ∃ moves, failed moves ∧ Follows state moves after

namespace Leads

variable {done failed finished unfinished : List Move → Prop}

theorem mono {action : SpaceAction Result}
    (leads : Leads state action done failed)
    (onDone : ∀ moves, done moves → finished moves)
    (onFailed : ∀ moves, failed moves → unfinished moves) :
    Leads state action finished unfinished :=
  Outcome.Meets.mono leads
    (fun _ _ ⟨moves, isDone, follows⟩ => ⟨moves, onDone moves isDone, follows⟩)
    fun _ _ ⟨moves, isFailed, follows⟩ =>
      ⟨moves, onFailed moves isFailed, follows⟩

/-- The moves of the first part come first. -/
theorem bind {first : SpaceAction First} {next : First → SpaceAction Second}
    (leads : Leads state first done failed)
    (rest : ∀ result moves middle, done moves → Follows state moves middle →
      Leads middle (next result) (fun more => finished (moves ++ more))
        fun more => unfinished (moves ++ more))
    (onFailed : ∀ moves, failed moves → unfinished moves) :
    Leads state (first >>= next) finished unfinished := by
  refine Action.meets_bind (leads.mono (fun _ isDone => isDone) onFailed)
    fun result middle followed => ?_
  obtain ⟨moves, isDone, follows⟩ := followed
  refine Outcome.Meets.mono (rest result moves middle isDone follows) ?_ ?_
  · rintro _ after ⟨more, isFinished, followsMore⟩
    exact ⟨moves ++ more, isFinished, follows.trans followsMore⟩
  · rintro _ after ⟨more, isUnfinished, followsMore⟩
    exact ⟨moves ++ more, isUnfinished, follows.trans followsMore⟩

/-- What has the same books goes on in the same way. -/
theorem of_same {action : SpaceAction Result} (same : SameBooks state middle)
    (leads : Leads middle action done failed) :
    (action.run middle).Meets (fun _ => True)
      (fun _ after => ∃ moves, done moves ∧ Follows state moves after)
      fun _ after => ∃ moves, failed moves ∧ Follows state moves after :=
  Outcome.Meets.mono leads
    (fun _ _ ⟨moves, isDone, follows⟩ =>
      ⟨moves, isDone, same.follows_trans follows⟩)
    fun _ _ ⟨moves, isFailed, follows⟩ =>
      ⟨moves, isFailed, same.follows_trans follows⟩

/-- A quiet first part does not matter. -/
theorem after_quiet {first : SpaceAction First}
    {next : First → SpaceAction Second} (quiet : IsQuiet first)
    (rest : ∀ result middle, SameBooks state middle →
      Leads middle (next result) done failed) :
    Leads state (first >>= next) done failed :=
  quiet.meets_bind fun result middle same =>
    of_same same (rest result middle same)

theorem after_idle {first : SpaceAction First}
    {next : First → SpaceAction Second} (idle : IsIdle first)
    (fails : failed [])
    (rest : ∀ result middle, SameBooks state middle →
      Leads middle (next result) done failed) :
    Leads state (first >>= next) done failed :=
  idle.meets_bind (fun _ _ same => ⟨[], fails, same.follows⟩)
    fun result middle same => of_same same (rest result middle same)

theorem of_quiet {action : SpaceAction Result} (quiet : IsQuiet action)
    (isDone : done []) : Leads state action done failed :=
  (quiet state).mono (fun _ _ same => ⟨[], isDone, same.follows⟩)
    fun _ _ isFailed => isFailed.elim

/-- What is known of the first part's result and end may be used. -/
theorem after_meets {first : SpaceAction First}
    {next : First → SpaceAction Second}
    {between : First → Hosted AddressSpace → Prop}
    (meets : (first.run state).Meets (fun _ => True) between fun _ _ => False)
    (same : ∀ result middle, between result middle → SameBooks state middle)
    (rest : ∀ result middle, between result middle →
      Leads middle (next result) done failed) :
    Leads state (first >>= next) done failed :=
  Action.meets_bind meets.of_sure fun result middle holds =>
      of_same (same result middle holds) (rest result middle holds)

theorem map {action : SpaceAction First} {change : First → Second}
    (leads : Leads state action done failed) :
    Leads state (change <$> action) done failed :=
  Action.meets_map leads

/-- What ends quietly made the moves that it made before. -/
theorem then_quiet {first : SpaceAction First}
    {next : First → SpaceAction Second}
    (leads : Leads state first done failed)
    (quiet : ∀ result, IsQuiet (next result)) :
    Leads state (first >>= next) done failed := by
  refine Action.meets_bind leads fun result middle followed => ?_
  obtain ⟨moves, isDone, follows⟩ := followed
  exact (quiet result middle).mono
    (fun _ _ same => ⟨moves, isDone, follows.trans_same same⟩)
    fun _ _ impossible => impossible.elim

end Leads

end AddressSpace

end DemandPaging
