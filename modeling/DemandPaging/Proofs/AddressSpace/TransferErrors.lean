import DemandPaging.AddressSpace.Growth
import DemandPaging.PageFault
import DemandPaging.Proofs.Tallies
import DemandPaging.UserCopy

/-!
# Which operations count a failed transfer

A space counts the transfers that failed.  Its own operations count each of
them once, however deep it lies in them: a transfer is tried in one place for
each direction (`transfer`), what is undone after a failure tries none, and the
error is passed on from there.
-/

namespace DemandPaging

namespace AddressSpace

open DemandPaging.Action (Tallies)

variable {Result : Type} {isPaging : Bool} {each : Nat}

/-- The operation leaves it as it is whether the space is under paging, and
counts failed transfers. -/
abbrev CountsErrors (isPaging : Bool) (each : Nat)
    (action : SpaceAction Result) : Prop :=
  Tallies (fun state => state.focus.isPaging = isPaging)
    (fun state => state.focus.stats.swapErrors) each action

theorem counts_onTable {action : Action PageTable Result}
    (quiet : action.IsQuiet each) :
    CountsErrors isPaging each (onTable action) :=
  Action.tallies_zoom (fun _ _ kept => ⟨kept, rfl⟩) quiet

theorem counts_onLedger {action : Action Ledger Result}
    (quiet : action.IsQuiet each) :
    CountsErrors isPaging each (onLedger action) :=
  Action.tallies_zoom (fun _ _ kept => ⟨kept, rfl⟩) quiet

theorem counts_onSlots {action : Action SwapSpace Result}
    (quiet : action.IsQuiet each) :
    CountsErrors isPaging each (onSlots action) :=
  Action.tallies_zoom (fun _ _ kept => ⟨kept, rfl⟩) quiet

theorem counts_onFrames {action : Action FramePool Result}
    (quiet : action.IsQuiet each) :
    CountsErrors isPaging each (onFrames action) :=
  Action.tallies_zoom (fun _ _ kept => ⟨kept, rfl⟩) quiet

theorem counts_onDevice (action : Action SwapDevice Result) :
    CountsErrors isPaging 0 (onDevice action) :=
  Action.tallies_zoom (fun _ _ kept => ⟨kept, rfl⟩) (Action.isQuiet_zero action)

theorem counts_onPolicy
    (step : Policy → Ledger → PageTable →
      Except Fatal (Result × Ledger × PageTable)) :
    CountsErrors isPaging each (onPolicy step) := by
  intro state kept
  cases stepped : step state.focus.config.policy state.focus.ledger
      state.focus.table with
  | ok result =>
      obtain ⟨result, ledger, table⟩ := result
      rw [onPolicy, Action.run_step_of_ok (by rw [stepped]; rfl)]
      exact ⟨kept, rfl⟩
  | error cause =>
      rw [onPolicy, Action.run_step_of_error (by rw [stepped]; rfl)]
      trivial

theorem counts_count {change : PagingStats → PagingStats}
    (same : ∀ stats, (change stats).swapErrors = stats.swapErrors) :
    CountsErrors isPaging each (count change) :=
  Action.tallies_modify fun _ kept => ⟨kept, same _⟩

theorem counts_look (value : AddressSpace → Result) :
    CountsErrors isPaging each (look value) :=
  Action.tallies_read _

theorem counts_report (event : Event) :
    CountsErrors isPaging each (Hosted.report event) :=
  Action.tallies_modify fun _ kept => ⟨kept, rfl⟩

theorem counts_reportAll (events : List Event) :
    CountsErrors isPaging each (Hosted.reportAll events) := by
  induction events with
  | nil => exact Action.tallies_pure ()
  | cons event events ih => exact (counts_report event).bind fun _ => ih

theorem counts_lookup (address : Nat) :
    CountsErrors isPaging each (lookup address) :=
  counts_onTable (Action.isQuiet_inspect _)

theorem counts_updateEntry (address : Nat) (change : Entry → Entry) :
    CountsErrors isPaging each (updateEntry address change) :=
  counts_onTable (Action.isQuiet_modify _)

theorem counts_takeFrame : CountsErrors isPaging each takeFrame := by
  apply (counts_onFrames (Action.isQuiet_step _)).bind
  exact Action.tallies_orFail rfl

theorem counts_releaseFrame (frame : Nat) :
    CountsErrors isPaging each (releaseFrame frame) :=
  counts_onFrames (Action.isQuiet_change _)

theorem counts_readFrame (frame : Nat) :
    CountsErrors isPaging each (readFrame frame) :=
  counts_onFrames (Action.isQuiet_inspect _)

theorem counts_writeFrame (frame : Nat) (bytes : List UInt8) :
    CountsErrors isPaging each (writeFrame frame bytes) :=
  counts_onFrames (Action.isQuiet_change _)

theorem counts_releaseSlot (slot : Nat) :
    CountsErrors isPaging each (releaseSlot slot) :=
  counts_onSlots (Action.isQuiet_change _)

/-- What a device fails with is a failed transfer. -/
def FailsToTransfer (action : Action SwapDevice Result) : Prop :=
  ∀ device, (action.run device).Meets (fun _ => True) (fun _ _ => True)
    fun error _ => ∃ failure, error = .swapTransfer failure

theorem failsToTransfer_meter (offset : Nat)
    (spend : Transfers → Option Transfers) :
    FailsToTransfer (SwapDevice.meter offset spend) := by
  intro device
  rw [SwapDevice.meter, Action.run_bind, Action.run_get, Outcome.andThen_done]
  apply Action.meets_runIf
  · intro _
    cases spend device.transfers with
    | none => exact ⟨_, rfl⟩
    | some transfers => trivial
  · exact fun _ => trivial

theorem failsToTransfer_store (slot : Nat) (bytes : List UInt8) :
    FailsToTransfer (SwapDevice.store slot bytes) := by
  intro device
  apply Action.meets_crashUnless_bind (fun _ => trivial)
  intro _
  apply Action.meets_bind_of (fun _ _ => True)
  · cases SwapSpace.offset slot <;> trivial
  · intro offset device _
    apply Action.meets_bind (failsToTransfer_meter offset _ device)
    intro _ device _
    rw [Action.run_bind, Action.run_get, Outcome.andThen_done]
    cases device.space.file.write offset (bytes.take pageSize) with
    | ok file => trivial
    | error failure => exact ⟨_, rfl⟩

theorem failsToTransfer_load (slot : Nat) :
    FailsToTransfer (SwapDevice.load slot) := by
  intro device
  apply Action.meets_bind_of (fun _ _ => True)
  · cases SwapSpace.offset slot <;> trivial
  · intro offset device _
    apply Action.meets_bind (failsToTransfer_meter offset _ device)
    intro _ device _
    rw [Action.run_bind, Action.run_get, Outcome.andThen_done]
    cases device.space.file.read offset pageSize with
    | ok bytes => trivial
    | error failure => exact ⟨_, rfl⟩

/-- An operation that cannot fail and counts nothing. -/
def Restores (isPaging : Bool) (action : SpaceAction Unit) : Prop :=
  ∀ state, state.focus.isPaging = isPaging →
    (action.run state).Meets (fun _ => True)
      (fun _ after => after.focus.isPaging = isPaging ∧
        after.focus.stats.swapErrors = state.focus.stats.swapErrors)
      fun _ _ => False

theorem restores_releaseFrame (frame : Nat) :
    Restores isPaging (releaseFrame frame) := by
  intro state kept
  apply Action.meets_zoom_iff.mpr
  cases released : (state.host.pool state.focus.pool).release frame with
  | ok pool =>
      rw [Action.run_change_of_ok released]
      exact ⟨kept, rfl⟩
  | error cause =>
      rw [Action.run_change_of_error released]
      trivial

theorem restores_releaseSlot (slot : Nat) :
    Restores isPaging (releaseSlot slot) := by
  intro state kept
  apply Action.meets_zoom_iff.mpr
  cases released : state.focus.swap.release slot with
  | ok swap =>
      rw [Action.run_change_of_ok released]
      exact ⟨kept, rfl⟩
  | error cause =>
      rw [Action.run_change_of_error released]
      trivial

theorem counts_transfer {action : Action SwapDevice Result}
    {undo : SpaceAction Unit} {failure : TransferError → Event}
    (fails : FailsToTransfer action) (undone : Restores isPaging undo) :
    CountsErrors isPaging 1 (transfer action undo failure) := by
  intro state kept
  have tried : ((onDevice action).run state).Meets (fun _ => True)
      (fun _ after => after.focus.isPaging = isPaging ∧
        after.focus.stats.swapErrors = state.focus.stats.swapErrors)
      fun error after => (after.focus.isPaging = isPaging ∧
        after.focus.stats.swapErrors = state.focus.stats.swapErrors) ∧
          ∃ failure, error = .swapTransfer failure := by
    apply Action.meets_zoom_iff.mpr
    apply (fails _).mono
    · exact fun _ _ _ => ⟨kept, rfl⟩
    · exact fun _ _ isFailed => ⟨⟨kept, rfl⟩, isFailed⟩
  apply Action.meets_onFailure tried
  rintro _ middle ⟨⟨stillKept, same⟩, failure, rfl⟩
  apply Action.meets_bind (undone middle stillKept).of_sure
  rintro _ after ⟨restored, counted⟩
  exact ⟨restored, congrArg (· + 1) (counted.trans same)⟩

theorem counts_claimSlot : CountsErrors isPaging each claimSlot := by
  apply (counts_onSlots (Action.isQuiet_step _)).bind
  exact Action.tallies_orCrash _

theorem counts_targetSlot (spare : Option Nat) :
    CountsErrors isPaging each (targetSlot spare) := by
  cases spare with
  | none => exact counts_claimSlot
  | some slot => exact Action.tallies_pure slot

theorem counts_selectVictim : CountsErrors isPaging each selectVictim := by
  apply (counts_onPolicy _).bind
  intro victim
  apply (counts_reportAll _).bind
  intro _
  apply (counts_count fun _ => by rfl).bind
  exact fun _ => Action.tallies_pure _

theorem restores_runIf {condition : Prop} [Decidable condition]
    {action : SpaceAction Unit} (restores : Restores isPaging action) :
    Restores isPaging (Action.runIf condition action) := by
  intro state kept
  apply Action.meets_runIf
  · exact fun _ => restores state kept
  · exact fun _ => ⟨kept, rfl⟩

theorem counts_evictInto (spare : Option Nat) :
    CountsErrors isPaging 1 (evictInto spare) := by
  apply (counts_targetSlot spare).bind
  intro slot
  apply counts_selectVictim.bind
  intro handle
  apply (counts_onLedger (Action.isQuiet_inspect _)).bind
  intro victim
  apply (counts_lookup _).bind
  intro found
  apply (Action.tallies_orCrash _ found).bind
  intro entry
  apply (Action.tallies_crashUnless _ _).bind
  intro _
  apply (counts_readFrame _).bind
  intro contents
  apply (counts_transfer (failsToTransfer_store slot contents.toList)
    (restores_runIf (restores_releaseSlot slot))).bind
  intro _
  apply (counts_updateEntry _ _).bind
  intro _
  apply (counts_releaseFrame _).bind
  intro _
  apply (counts_onLedger (Action.isQuiet_change _)).bind
  intro _
  apply (counts_count fun _ => by rfl).bind
  intro _
  apply (counts_report _).bind
  exact fun _ => Action.tallies_pure _

theorem counts_settleResident (handle page : Nat) :
    CountsErrors isPaging each (settleResident handle page) := by
  apply (counts_onLedger (Action.isQuiet_change _)).bind
  intro _
  apply (counts_look _).bind
  intro policy
  exact counts_onLedger (Action.isQuiet_change _)

theorem counts_track (address : Nat) :
    CountsErrors isPaging 1 (track address) := by
  apply (counts_lookup address).bind
  intro found
  apply (Action.tallies_orCrash _ found).bind
  intro entry
  apply (Action.tallies_crashUnless _ _).bind
  intro _
  apply (counts_look _).bind
  intro ledger
  apply (Action.tallies_failUnless _ rfl).bind
  intro _
  apply Action.Tallies.bind
  · apply Action.tallies_runIf
    intro _
    apply (counts_evictInto none).bind
    exact fun _ => Action.tallies_pure ()
  · intro _
    apply (counts_onLedger (Action.isQuiet_read _)).bind
    intro handle
    apply (Action.tallies_orCrash _ handle).bind
    intro handle
    apply (counts_settleResident handle address).bind
    exact fun _ => counts_updateEntry _ _

theorem counts_enroll (counted : isPaging = true → each = 1) (address : Nat) :
    CountsErrors isPaging each (enroll address) := by
  apply Action.tallies_read_bind
  intro state kept
  apply Action.tallies_runIf
  intro paged
  rw [counted (kept.symm.trans paged)]
  exact counts_track address

theorem counts_makeRoom (slot : Nat) :
    CountsErrors isPaging 1 (makeRoom slot) := by
  apply (counts_look _).bind
  intro isFull
  apply (counts_look _).bind
  intro isHandedOver
  apply Action.Tallies.bind
  · apply Action.tallies_runIf
    intro _
    apply (counts_evictInto _).bind
    exact fun _ => Action.tallies_pure ()
  · intro _
    exact Action.tallies_runIf fun _ => counts_releaseSlot slot

theorem counts_pageInFrom (handle slot page : Nat) :
    CountsErrors isPaging 1 (pageInFrom handle slot page) := by
  apply counts_takeFrame.bind
  intro frame
  apply (counts_transfer (failsToTransfer_load slot)
    (restores_releaseFrame frame)).bind
  intro contents
  apply (counts_writeFrame frame contents).bind
  intro _
  apply ((counts_makeRoom slot).onFailure fun _ =>
    counts_releaseFrame frame).bind
  intro _
  apply (counts_updateEntry _ _).bind
  intro _
  apply (counts_settleResident handle page).bind
  intro _
  apply (counts_count fun _ => by rfl).bind
  exact fun _ => counts_report _

theorem counts_pageInSwapped (page : Nat) :
    CountsErrors isPaging 1 (pageInSwapped page) := by
  apply (counts_look _).bind
  intro ledger
  apply (Action.tallies_orCrash _ _).bind
  intro handle
  apply (Action.tallies_ofExcept _).bind
  intro tracked
  apply (Action.tallies_orCrash _ _).bind
  exact fun slot => counts_pageInFrom handle slot page

theorem counts_pageIn (address : Nat) :
    CountsErrors isPaging 1 (pageIn address) := by
  apply (Action.tallies_failUnless _ rfl).bind
  intro _
  apply (counts_lookup _).bind
  intro found
  apply (Action.tallies_orFail rfl found).bind
  intro entry
  split
  · exact Action.tallies_crash _
  · exact Action.tallies_pure ()
  · exact Action.tallies_fail rfl
  · exact counts_pageInSwapped _

theorem counts_resolveFault (address : Nat) (access : Access) :
    CountsErrors isPaging 1 (resolveFault address access) := by
  have denied : CountsErrors isPaging 1
      (denyAccess address access : SpaceAction Resolution) :=
    (counts_report _).bind fun _ => Action.tallies_fail rfl
  apply (counts_count fun _ => by rfl).bind
  intro _
  apply (Action.tallies_failUnless _ rfl).bind
  intro _
  apply (counts_lookup _).bind
  intro found
  cases found with
  | none => exact denied
  | some entry =>
      dsimp only
      split
      · exact denied
      · split
        · exact (counts_pageIn _).bind fun _ => Action.tallies_pure _
        · exact (counts_report _).bind fun _ => Action.tallies_pure _

theorem counts_tick : CountsErrors isPaging each tick := by
  apply (counts_look _).bind
  intro paged
  split
  · apply (counts_count fun _ => by rfl).bind
    intro _
    apply (counts_onPolicy _).bind
    intro aged
    cases aged with
    | none => exact Action.tallies_pure 0
    | some aged => exact (counts_report _).bind fun _ => Action.tallies_pure _
  · exact Action.tallies_pure 0

theorem counts_untrack (page : Nat) (entry : Entry) :
    CountsErrors isPaging each (untrack page entry) := by
  apply (counts_look _).bind
  intro ledger
  apply (Action.tallies_orCrash _ _).bind
  intro handle
  apply (Action.tallies_ofExcept _).bind
  intro tracked
  apply (Action.tallies_crashUnless _ _).bind
  intro _
  apply (counts_onLedger (Action.isQuiet_step _)).bind
  intro released
  split
  · exact counts_releaseSlot _
  · exact Action.tallies_pure ()

theorem counts_unmapPage (freeing : Bool) (page : Nat) :
    CountsErrors isPaging each (unmapPage freeing page) := by
  apply (counts_lookup page).bind
  intro found
  apply (Action.tallies_orCrash _ found).bind
  intro entry
  apply (Action.tallies_crashUnless _ _).bind
  intro _
  apply (Action.tallies_crashUnless _ _).bind
  intro _
  apply (Action.tallies_crashUnless _ _).bind
  intro _
  apply (counts_look _).bind
  intro paged
  apply (Action.tallies_crashUnless _ _).bind
  intro _
  apply (Action.tallies_runIf fun _ => counts_untrack page entry).bind
  intro _
  apply (Action.tallies_runIf fun _ => counts_releaseFrame _).bind
  exact fun _ => counts_updateEntry _ _

theorem counts_unmapRun (freeing : Bool) (page count : Nat) :
    CountsErrors isPaging each (unmapRun freeing page count) := by
  induction count generalizing page with
  | zero => exact Action.tallies_pure ()
  | succ count ih => exact (counts_unmapPage freeing page).bind fun _ => ih _

theorem counts_unmap (address count : Nat) (freeing : Bool) :
    CountsErrors isPaging each (unmap address count freeing) := by
  apply (Action.tallies_crashUnless _ _).bind
  exact fun _ => counts_unmapRun freeing address count

theorem counts_tearDown (size : Nat) :
    CountsErrors isPaging each (tearDown size) := by
  apply Action.Tallies.bind
  · apply Action.tallies_runIf
    intro _
    apply (Action.tallies_ofExcept _).bind
    exact fun stop => counts_unmap 0 _ true
  · intro _
    apply (counts_onTable (Action.isQuiet_change _)).bind
    intro _
    apply (counts_look _).bind
    exact fun tracked => Action.tallies_crashUnless _ _

theorem counts_shrink (old new : Nat) :
    CountsErrors isPaging each (shrink old new) := by
  unfold shrink
  split
  · exact Action.tallies_pure old
  · apply (Action.tallies_ofExcept _).bind
    intro stop
    apply (Action.tallies_ofExcept _).bind
    intro oldStop
    apply (Action.tallies_runIf fun _ => counts_unmap _ _ true).bind
    exact fun _ => Action.tallies_pure new

theorem isQuiet_mapPage (page frame : Nat) (flags : Flags) :
    (PageTable.mapPage page frame flags).IsQuiet each := by
  apply (Action.isQuiet_step _).bind
  intro found
  cases found with
  | none => exact Action.isQuiet_fail rfl
  | some entry =>
      dsimp only
      split
      · exact Action.isQuiet_crash _
      · exact Action.isQuiet_modify _

theorem isQuiet_mapRun (flags : Flags) (page frame further : Nat) :
    (PageTable.mapRun flags page frame further).IsQuiet each := by
  induction further generalizing page frame with
  | zero => exact isQuiet_mapPage page frame flags
  | succ further ih =>
      apply (isQuiet_mapPage page frame flags).bind
      intro _
      apply (Action.isQuiet_ofExcept _).bind
      intro nextPage
      apply (Action.isQuiet_ofExcept _).bind
      exact fun nextFrame => ih nextPage nextFrame

theorem isQuiet_map (address frame size : Nat) (flags : Flags) :
    (PageTable.map address frame size flags).IsQuiet each := by
  unfold PageTable.map
  split
  · exact Action.isQuiet_crash _
  · apply (Action.isQuiet_ofExcept _).bind
    exact fun stop => isQuiet_mapRun _ _ _ _

theorem counts_place (page frame : Nat) (flags : Flags) :
    CountsErrors isPaging each (place page frame flags) :=
  (counts_onTable (isQuiet_map _ _ _ _)).onFailure fun _ =>
    counts_releaseFrame frame

theorem counts_install (counted : isPaging = true → each = 1)
    (page frame : Nat) (flags : Flags) :
    CountsErrors isPaging each (install page frame flags) := by
  apply (counts_place page frame flags).bind
  intro _
  apply (counts_enroll counted page).onFailure
  intro _
  apply (counts_updateEntry _ _).bind
  exact fun _ => counts_releaseFrame frame

theorem counts_addPage (page : Nat) (contents : List UInt8) (flags : Flags) :
    CountsErrors isPaging 1 (addPage page contents flags) := by
  apply counts_takeFrame.bind
  intro frame
  apply (counts_onFrames (Action.isQuiet_change _)).bind
  intro _
  apply (counts_writeFrame frame contents).bind
  exact fun _ => counts_install (fun _ => rfl) page frame flags

theorem counts_addRun (flags : Flags) (old page count : Nat) :
    CountsErrors isPaging 1 (addRun flags old page count) := by
  induction count generalizing page with
  | zero => exact Action.tallies_pure ()
  | succ count ih =>
      apply Action.Tallies.bind
      · apply (counts_addPage page [] flags).onFailure
        intro _
        apply (counts_shrink page old).bind
        exact fun _ => Action.tallies_pure ()
      · exact fun _ => ih _

theorem counts_grow (old new : Nat) (permissions : Flags) :
    CountsErrors isPaging 1 (grow old new permissions) := by
  unfold grow
  split
  · exact Action.tallies_pure old
  · apply (Action.tallies_ofExcept _).bind
    intro start
    apply (counts_addRun _ _ _ _).bind
    exact fun _ => Action.tallies_pure new

theorem counts_clearUser (address : Nat) :
    CountsErrors isPaging each (clearUser address) := by
  apply (counts_lookup address).bind
  intro found
  apply (Action.tallies_orCrash _ found).bind
  exact fun _ => counts_updateEntry _ _

theorem counts_userPage (address : Nat) (isWrite : Bool) :
    CountsErrors isPaging 1 (userPage address isWrite) := by
  apply (Action.tallies_failUnless _ rfl).bind
  intro _
  apply (counts_lookup _).bind
  intro found
  apply (Action.tallies_orFail rfl found).bind
  intro entry
  apply (Action.tallies_failUnless _ rfl).bind
  intro _
  apply (Action.tallies_runIf fun _ => counts_pageIn _).bind
  intro _
  apply (counts_look _).bind
  intro frame
  apply (Action.tallies_orFail rfl frame).bind
  intro frame
  apply (counts_onTable (Action.isQuiet_change _)).bind
  exact fun _ => Action.tallies_pure frame

theorem counts_readRun (run : Run) : CountsErrors isPaging 1 (readRun run) := by
  apply (counts_userPage _ false).bind
  intro frame
  apply (counts_readFrame frame).bind
  exact fun _ => Action.tallies_pure _

theorem counts_writeRuns (runs : List Run) (bytes : List UInt8) :
    CountsErrors isPaging 1 (writeRuns runs bytes) := by
  induction runs generalizing bytes with
  | nil => exact Action.tallies_pure ()
  | cons run runs ih =>
      apply Action.Tallies.bind
      · apply (counts_userPage _ true).bind
        intro frame
        apply (counts_readFrame frame).bind
        exact fun _ => counts_writeFrame frame _
      · exact fun _ => ih _

end AddressSpace

namespace UserRead

variable {Result : Type} {isPaging : Bool}

/-- An operation that fills a buffer counts the failed transfers of the
space. -/
abbrev CountsErrors (isPaging : Bool) (action : ReadAction Result) : Prop :=
  Action.Tallies (fun state => state.focus.space.isPaging = isPaging)
    (fun state => state.focus.space.stats.swapErrors) 1 action

theorem counts_inSpace {action : SpaceAction Result}
    (counts : AddressSpace.CountsErrors isPaging 1 action) :
    CountsErrors isPaging (inSpace action) :=
  counts.zoom (fun _ kept => kept) (fun _ _ _ kept => kept)
    fun _ _ _ => Nat.add_comm _ _

theorem counts_fill (offset : Nat) (bytes : List UInt8) :
    CountsErrors isPaging (fill offset bytes) :=
  fun _ kept => ⟨kept, rfl⟩

theorem counts_fillRuns (offset : Nat) (runs : List Run) :
    CountsErrors isPaging (fillRuns offset runs) := by
  induction runs generalizing offset with
  | nil => exact Action.tallies_pure ()
  | cons run runs ih =>
      apply (counts_inSpace (AddressSpace.counts_readRun run)).bind
      intro bytes
      apply (counts_fill offset bytes).bind
      exact fun _ => ih _

theorem counts_copyIn (address : Nat) :
    CountsErrors isPaging (copyIn address) := by
  apply (Action.tallies_read _).bind
  exact fun state => counts_fillRuns 0 _

theorem counts_fillString (offset : Nat) (runs : List Run) :
    CountsErrors isPaging (fillString offset runs) := by
  induction runs generalizing offset with
  | nil => exact Action.tallies_pure none
  | cons run runs ih =>
      apply (counts_inSpace (AddressSpace.counts_readRun run)).bind
      intro bytes
      split
      · exact (counts_fill offset _).bind fun _ => Action.tallies_pure _
      · exact (counts_fill offset bytes).bind fun _ => ih _

theorem counts_copyInString (address : Nat) :
    CountsErrors isPaging (copyInString address) := by
  apply (Action.tallies_read _).bind
  intro state
  apply (counts_fillString 0 _).bind
  exact Action.tallies_orFail rfl

end UserRead

end DemandPaging
