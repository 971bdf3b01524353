import DemandPaging.AddressSpace.Growth
import DemandPaging.PageFault
import DemandPaging.Proofs.AddressSpace.Requests
import DemandPaging.Proofs.Withdrawal.Opening

/-!
# Operations that open no page

A page that leaves memory keeps the user bit as it is, and so does one that
comes back: no operation opens a page but those that map one.  Neither do others
make page tables.
-/

namespace DemandPaging

namespace AddressSpace

variable {Result : Type}

/-- No page was opened to user code, and no table was made. -/
def Guarded (before after : Hosted AddressSpace) : Prop :=
  before.focus.table.Opens ∅ after.focus.table

instance : Std.Refl Guarded :=
  ⟨fun state => .refl state.focus.table⟩

instance : IsTrans (Hosted AddressSpace) Guarded :=
  ⟨fun _ _ _ first second => first.trans_empty second⟩

/-- The operation opens no page, whether it is done or fails. -/
abbrev Guards (action : SpaceAction Result) : Prop :=
  action.Relates Guarded True

theorem guards_onTable {action : Action PageTable Result}
    (relates : action.Relates (fun table after => table.Opens ∅ after) True) :
    Guards (onTable action) :=
  relates.zoom fun _ _ opens => opens

theorem guards_onLedger (action : Action Ledger Result) :
    Guards (onLedger action) :=
  (Action.relates_any action).zoom fun state _ _ => .refl state.focus.table

theorem guards_onSlots (action : Action SwapSpace Result) :
    Guards (onSlots action) :=
  (Action.relates_any action).zoom fun state _ _ => .refl state.focus.table

theorem guards_onDevice (action : Action SwapDevice Result) :
    Guards (onDevice action) :=
  (Action.relates_any action).zoom fun state _ _ => .refl state.focus.table

theorem guards_onFrames (action : Action FramePool Result) :
    Guards (onFrames action) :=
  (Action.relates_any action).zoom fun state _ _ => .refl state.focus.table

theorem guards_onPolicy
    {step : Policy → Ledger → PageTable →
      Except Fatal (Result × Ledger × PageTable)}
    (opens : ∀ policy ledger table result changed marked,
      step policy ledger table = .ok (result, changed, marked) →
        table.Opens ∅ marked) : Guards (onPolicy step) := by
  apply Action.relates_step
  intro state result after stepped
  simp only [bind_eq_ok_iff, Prod.exists] at stepped
  obtain ⟨_, _, _, chosen, ⟨⟩⟩ := stepped
  exact opens _ _ _ _ _ _ chosen

theorem guards_count (change : PagingStats → PagingStats) :
    Guards (count change) :=
  Action.relates_modify fun state => .refl state.focus.table

theorem guards_look (value : AddressSpace → Result) : Guards (look value) :=
  Action.relates_read _

theorem guards_report (event : Event) :
    Guards (Hosted.report event : SpaceAction Unit) :=
  Action.relates_modify fun state => .refl state.focus.table

theorem guards_reportAll (events : List Event) :
    Guards (Hosted.reportAll events : SpaceAction Unit) := by
  induction events with
  | nil => exact Action.relates_pure ()
  | cons event events ih => exact (guards_report event).bind fun _ => ih

theorem guards_lookup (address : Nat) : Guards (lookup address) :=
  guards_onTable (Action.relates_inspect _)

theorem guards_updateEntry {change : Entry → Entry} (address : Nat)
    (closed : ∀ entry, (change entry).flags.user = true →
      entry.flags.user = true) : Guards (updateEntry address change) :=
  guards_onTable (Action.relates_modify fun _ =>
    PageTable.opens_update address closed)

theorem guards_touch (address : Nat) (isWrite : Bool) :
    Guards (onTable (Action.change fun table =>
      table.touch address isWrite)) :=
  guards_onTable (Action.relates_change fun _ _ touched =>
    PageTable.opens_touch touched)

theorem guards_takeFrame : Guards takeFrame := by
  apply (guards_onFrames _).bind
  exact Action.relates_orFail _

theorem guards_transfer {action : Action SwapDevice Result}
    {undo : SpaceAction Unit} {failure : TransferError → Event}
    (undoes : Guards undo) : Guards (transfer action undo failure) := by
  apply (guards_onDevice action).onFailure
  intro error
  apply undoes.bind
  intro _
  apply (guards_count _).bind
  intro _
  split
  · exact guards_report _
  · exact Action.relates_pure ()

theorem guards_targetSlot (spare : Option Nat) : Guards (targetSlot spare) := by
  cases spare with
  | some slot => exact Action.relates_pure slot
  | none =>
      apply (guards_onSlots _).bind
      exact Action.relates_orCrash _

theorem guards_selectVictim : Guards selectVictim := by
  apply (guards_onPolicy fun _ _ _ _ _ _ selected =>
    Policy.opens_select selected).bind
  intro victim
  apply (guards_reportAll _).bind
  intro _
  apply (guards_count _).bind
  exact fun _ => Action.relates_pure victim.handle

theorem guards_evictInto (spare : Option Nat) : Guards (evictInto spare) := by
  apply (guards_targetSlot spare).bind
  intro slot
  apply guards_selectVictim.bind
  intro handle
  apply (guards_onLedger _).bind
  intro victim
  apply (guards_lookup _).bind
  intro found
  apply Action.Relates.bind (Action.relates_orCrash _ found)
  intro entry
  apply Action.Relates.bind (Action.relates_crashUnless _ _)
  intro _
  apply (guards_onFrames _).bind
  intro contents
  apply (guards_transfer (Action.relates_runIf fun _ => guards_onSlots _)).bind
  intro _
  apply Action.Relates.bind
  · exact guards_updateEntry _ fun _ isOpen => isOpen
  intro _
  apply (guards_onFrames _).bind
  intro _
  apply (guards_onLedger _).bind
  intro _
  apply (guards_count _).bind
  intro _
  apply (guards_report _).bind
  exact fun _ => Action.relates_pure handle

theorem guards_settleResident (handle page : Nat) :
    Guards (settleResident handle page) := by
  apply (guards_onLedger _).bind
  intro _
  apply (guards_look _).bind
  exact fun policy => guards_onLedger _

theorem guards_track (address : Nat) : Guards (track address) := by
  apply (guards_lookup address).bind
  intro found
  apply Action.Relates.bind (Action.relates_orCrash _ found)
  intro entry
  apply Action.Relates.bind (Action.relates_crashUnless _ _)
  intro _
  apply (guards_look _).bind
  intro ledger
  apply Action.Relates.bind (Action.relates_failUnless _ _)
  intro _
  apply Action.Relates.bind
  · apply Action.relates_runIf
    intro _
    apply (guards_evictInto none).bind
    exact fun _ => Action.relates_pure ()
  intro _
  apply (guards_onLedger _).bind
  intro place
  apply Action.Relates.bind (Action.relates_orCrash _ place)
  intro handle
  apply (guards_settleResident handle address).bind
  intro _
  apply guards_updateEntry
  simp [Entry.remove, Entry.insert, Flags.difference, Flags.union]

theorem guards_enroll (address : Nat) : Guards (enroll address) := by
  apply (guards_look _).bind
  intro isPaging
  exact Action.relates_runIf fun _ => guards_track address

theorem guards_makeRoom (slot : Nat) : Guards (makeRoom slot) := by
  apply (guards_look _).bind
  intro isFull
  apply (guards_look _).bind
  intro isHandedOver
  apply Action.Relates.bind
  · apply Action.relates_runIf
    intro _
    apply (guards_evictInto _).bind
    exact fun _ => Action.relates_pure ()
  exact fun _ => Action.relates_runIf fun _ => guards_onSlots _

theorem guards_pageInFrom (handle slot page : Nat) :
    Guards (pageInFrom handle slot page) := by
  apply guards_takeFrame.bind
  intro frame
  apply (guards_transfer (guards_onFrames _)).bind
  intro contents
  apply (guards_onFrames _).bind
  intro _
  apply Action.Relates.bind ((guards_makeRoom slot).onFailure fun _ =>
    guards_onFrames _)
  intro _
  apply Action.Relates.bind
  · exact guards_updateEntry _ fun _ isOpen => isOpen
  intro _
  apply (guards_settleResident handle page).bind
  intro _
  apply (guards_count _).bind
  exact fun _ => guards_report _

theorem guards_pageIn (address : Nat) : Guards (pageIn address) := by
  apply Action.Relates.bind (Action.relates_failUnless _ _)
  intro _
  apply (guards_lookup _).bind
  intro found
  apply Action.Relates.bind (Action.relates_orFail _ found)
  intro entry
  split
  · exact Action.relates_crash _
  · exact Action.relates_pure ()
  · exact Action.relates_fail _
  · apply (guards_look _).bind
    intro ledger
    apply Action.Relates.bind (Action.relates_orCrash _ _)
    intro handle
    apply Action.Relates.bind (Action.relates_ofExcept _)
    intro tracked
    apply Action.Relates.bind (Action.relates_orCrash _ _)
    exact fun slot => guards_pageInFrom handle slot _

theorem guards_denyAccess (address : Nat) (access : Access) :
    Guards (denyAccess address access : SpaceAction Result) := by
  apply (guards_report _).bind
  exact fun _ => Action.relates_fail _

theorem guards_resolveFault (address : Nat) (access : Access) :
    Guards (resolveFault address access) := by
  apply (guards_count _).bind
  intro _
  apply Action.Relates.bind (Action.relates_failUnless _ _)
  intro _
  apply (guards_lookup _).bind
  intro found
  cases found with
  | none => exact guards_denyAccess address access
  | some entry =>
      dsimp only
      split
      · exact guards_denyAccess address access
      · split
        · apply (guards_pageIn _).bind
          exact fun _ => Action.relates_pure _
        · apply (guards_report _).bind
          exact fun _ => Action.relates_pure _

theorem guards_tick : Guards tick := by
  apply (guards_look _).bind
  intro isPaging
  split
  · apply (guards_count _).bind
    intro _
    apply (guards_onPolicy fun _ _ _ _ _ _ ticked =>
      Policy.opens_onTick ticked).bind
    intro aged
    cases aged with
    | none => exact Action.relates_pure 0
    | some aged =>
        apply (guards_report _).bind
        exact fun _ => Action.relates_pure aged
  · exact Action.relates_pure 0

theorem guards_untrack (page : Nat) (entry : Entry) :
    Guards (untrack page entry) := by
  apply (guards_look _).bind
  intro ledger
  apply Action.Relates.bind (Action.relates_orCrash _ _)
  intro handle
  apply Action.Relates.bind (Action.relates_ofExcept _)
  intro tracked
  apply Action.Relates.bind (Action.relates_crashUnless _ _)
  intro _
  apply (guards_onLedger _).bind
  intro released
  split
  · exact guards_onSlots _
  · exact Action.relates_pure ()

theorem guards_unmapPage (freeing : Bool) (page : Nat) :
    Guards (unmapPage freeing page) := by
  apply (guards_lookup page).bind
  intro found
  apply Action.Relates.bind (Action.relates_orCrash _ found)
  intro entry
  apply Action.Relates.bind (Action.relates_crashUnless _ _)
  intro _
  apply Action.Relates.bind (Action.relates_crashUnless _ _)
  intro _
  apply Action.Relates.bind (Action.relates_crashUnless _ _)
  intro _
  apply (guards_look _).bind
  intro isPaging
  apply Action.Relates.bind (Action.relates_crashUnless _ _)
  intro _
  apply Action.Relates.bind (Action.relates_runIf fun _ =>
    guards_untrack page entry)
  intro _
  apply Action.Relates.bind (Action.relates_runIf fun _ => guards_onFrames _)
  exact fun _ => guards_updateEntry page fun _ isOpen => nomatch isOpen

theorem guards_unmap (address count : Nat) (freeing : Bool) :
    Guards (unmap address count freeing) := by
  have guardsRun : Guards (unmapRun freeing address count) := by
    induction count generalizing address with
    | zero => exact Action.relates_pure ()
    | succ count ih =>
        exact (guards_unmapPage freeing address).bind fun _ => ih _
  apply Action.Relates.bind (Action.relates_crashUnless _ _)
  exact fun _ => guardsRun

theorem guards_shrink (old new : Nat) : Guards (shrink old new) := by
  rw [shrink]
  split
  · exact Action.relates_pure old
  · apply Action.Relates.bind (Action.relates_ofExcept _)
    intro stop
    apply Action.Relates.bind (Action.relates_ofExcept _)
    intro oldStop
    apply Action.Relates.bind (Action.relates_runIf fun _ =>
      guards_unmap _ _ _)
    exact fun _ => Action.relates_pure new

theorem guards_withdraw (page frame : Nat) : Guards (withdraw page frame) := by
  apply Action.Relates.bind
  · exact guards_updateEntry page fun _ isOpen => nomatch isOpen
  · exact fun _ => guards_onFrames _

theorem guards_clearUser (address : Nat) : Guards (clearUser address) := by
  apply (guards_lookup address).bind
  intro found
  apply Action.Relates.bind (Action.relates_orCrash _ found)
  intro _
  apply guards_updateEntry
  simp [Entry.remove, Flags.difference]

theorem guards_userPage (address : Nat) (isWrite : Bool) :
    Guards (userPage address isWrite) := by
  apply Action.Relates.bind (Action.relates_failUnless _ _)
  intro _
  apply (guards_lookup _).bind
  intro found
  apply Action.Relates.bind (Action.relates_orFail _ found)
  intro entry
  apply Action.Relates.bind (Action.relates_failUnless _ _)
  intro _
  apply Action.Relates.bind (Action.relates_runIf fun _ => guards_pageIn _)
  intro _
  apply (guards_look _).bind
  intro translated
  apply Action.Relates.bind (Action.relates_orFail _ translated)
  intro frame
  apply (guards_touch _ isWrite).bind
  exact fun _ => Action.relates_pure frame

theorem guards_readRun (run : Run) : Guards (readRun run) := by
  apply (guards_userPage _ _).bind
  intro frame
  apply (guards_onFrames _).bind
  exact fun _ => Action.relates_pure _

theorem guards_writeRun (run : Run) (bytes : List UInt8) :
    Guards (writeRun run bytes) := by
  apply (guards_userPage _ _).bind
  intro frame
  apply (guards_onFrames _).bind
  exact fun page => guards_onFrames _

theorem guards_writeRuns (runs : List Run) (bytes : List UInt8) :
    Guards (writeRuns runs bytes) := by
  induction runs generalizing bytes with
  | nil => exact Action.relates_pure ()
  | cons run runs ih => exact (guards_writeRun run _).bind fun _ => ih _

/-- No page of the space that a copy reads was opened, and no table made. -/
def ReadGuarded (before after : Hosted UserRead) : Prop :=
  before.focus.space.table.Opens ∅ after.focus.space.table

instance : Std.Refl ReadGuarded :=
  ⟨fun state => .refl state.focus.space.table⟩

instance : IsTrans (Hosted UserRead) ReadGuarded :=
  ⟨fun _ _ _ first second => first.trans_empty second⟩

theorem guards_inSpace {action : SpaceAction Result} (guards : Guards action) :
    (UserRead.inSpace action).Relates ReadGuarded True :=
  guards.zoom fun _ _ guarded => guarded

theorem guards_fill (offset : Nat) (bytes : List UInt8) :
    (UserRead.fill offset bytes).Relates ReadGuarded True :=
  fun state => PageTable.Opens.refl state.focus.space.table

theorem guards_fillRuns (offset : Nat) (runs : List Run) :
    (UserRead.fillRuns offset runs).Relates ReadGuarded True := by
  induction runs generalizing offset with
  | nil => exact Action.relates_pure ()
  | cons run runs ih =>
      apply (guards_inSpace (guards_readRun run)).bind
      intro bytes
      apply (guards_fill offset bytes).bind
      exact fun _ => ih _

theorem guards_fillString (offset : Nat) (runs : List Run) :
    (UserRead.fillString offset runs).Relates ReadGuarded True := by
  induction runs generalizing offset with
  | nil => exact Action.relates_pure none
  | cons run runs ih =>
      apply (guards_inSpace (guards_readRun run)).bind
      intro bytes
      split
      · apply (guards_fill offset _).bind
        exact fun _ => Action.relates_pure _
      · apply (guards_fill offset _).bind
        exact fun _ => ih _

theorem guards_withBuffer {buffer : Array UInt8} {action : ReadAction Result}
    (guards : action.Relates ReadGuarded True) :
    Guards (withBuffer buffer action) := by
  have both : Action.Relates ReadGuarded True (do
      let result ← action
      let filled ← Action.read fun filled => filled.focus.buffer
      return (result, filled)) := by
    apply guards.bind
    intro result
    apply Action.Relates.bind (Action.relates_read _)
    exact fun _ => Action.relates_pure _
  exact both.zoom fun _ _ guarded => guarded

theorem guards_copyIn (address : Nat) :
    (UserRead.copyIn address).Relates ReadGuarded True := by
  apply Action.Relates.bind (Action.relates_read _)
  exact fun _ => guards_fillRuns 0 _

theorem guards_copyInString (address : Nat) :
    (UserRead.copyInString address).Relates ReadGuarded True := by
  apply Action.Relates.bind (Action.relates_read _)
  intro room
  apply (guards_fillString 0 _).bind
  exact Action.relates_orFail _

end AddressSpace

end DemandPaging
