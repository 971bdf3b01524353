import DemandPaging.Proofs.Effects.Eviction
import DemandPaging.Proofs.Relations

/-!
# Why no page comes in

A page that is in swap stays there only if something is wanting: there is no
frame for it, its slot cannot be read, or another page has to leave and cannot be
written.  A transfer fails where the failing devices complete no more of its
kind, or where the slot does not lie in the swap file.  What is undone then tries
no transfer, so the reason can still be told from the state that is left.
-/

namespace DemandPaging

namespace AddressSpace

variable {First Second Result : Type} {before middle after : Hosted AddressSpace}
  {slot slots : Nat} {error : PagingError} {mayFail : Prop}

/-- The space swaps to the same device: it has as many slots as before, in a file
as large as before. -/
structure SameDevice (before after : Hosted AddressSpace) : Prop where
  isMetered : after.focus.swap.isMetered = before.focus.swap.isMetered
  capacity : after.focus.swap.capacity = before.focus.swap.capacity
  size : after.focus.swap.file.size = before.focus.swap.file.size

theorem SameDevice.refl (state : Hosted AddressSpace) :
    SameDevice state state :=
  ⟨rfl, rfl, rfl⟩

theorem SameDevice.trans (first : SameDevice before middle)
    (second : SameDevice middle after) : SameDevice before after :=
  ⟨second.isMetered.trans first.isMetered,
    second.capacity.trans first.capacity, second.size.trans first.size⟩

theorem SameDevice.of_swap (same : after.focus.swap = before.focus.swap) :
    SameDevice before after := by
  refine ⟨?_, ?_, ?_⟩ <;> rw [same]

/-- One of the slots could not be read or could not be written. -/
def IsTransferFailure (before after : Hosted AddressSpace)
    (error : PagingError) : Prop :=
  ∃ slot < before.focus.swap.capacity,
    before.focus.swap.Refuses after.host.transfers.reads slot error ∨
      before.focus.swap.Refuses after.host.transfers.writes slot error

/-- No frame was left, or a transfer failed. -/
def IsShortfall (before after : Hosted AddressSpace) (error : PagingError) :
    Prop :=
  error = .outOfMemory ∧
      (after.host.pool after.focus.pool).freeCount = 0 ∨
    IsTransferFailure before after error

theorem IsTransferFailure.isTransfer
    (failure : IsTransferFailure before after error) :
    ∃ failure, error = .swapTransfer failure := by
  obtain ⟨_, _, refuses | refuses⟩ := failure
  · exact refuses.isTransfer
  · exact refuses.isTransfer

theorem not_isShortfall_badAddress {address : Nat} :
    ¬IsShortfall before after (.badAddress address) := by
  rintro (⟨impossible, _⟩ | failure)
  · cases impossible
  · obtain ⟨_, impossible⟩ := failure.isTransfer
    cases impossible

theorem SameDevice.refuses (same : SameDevice before after) {left : Option Nat}
    (refuses : after.focus.swap.Refuses left slot error) :
    before.focus.swap.Refuses left slot error := by
  rwa [SwapSpace.Refuses, same.isMetered, same.size] at refuses

theorem SameDevice.isTransferFailure (same : SameDevice before middle)
    (failure : IsTransferFailure middle after error) :
    IsTransferFailure before after error := by
  obtain ⟨slot, inside, refuses⟩ := failure
  exact ⟨slot, same.capacity ▸ inside, refuses.imp same.refuses same.refuses⟩

theorem SameDevice.isShortfall (same : SameDevice before middle)
    (shortfall : IsShortfall middle after error) :
    IsShortfall before after error :=
  shortfall.imp_right same.isTransferFailure

/-- The devices complete as many transfers as before. -/
structure Idles (before after : Hosted AddressSpace) : Prop
    extends SameDevice before after where
  transfers : after.host.transfers = before.host.transfers

instance : Std.Refl Idles :=
  ⟨fun state => ⟨.refl state, rfl⟩⟩

instance : IsTrans (Hosted AddressSpace) Idles :=
  ⟨fun _ _ _ first second => ⟨first.toSameDevice.trans second.toSameDevice,
    second.transfers.trans first.transfers⟩⟩

/-- The same slots lie in the same file. -/
def SameFile (before after : SwapSpace) : Prop :=
  after.isMetered = before.isMetered ∧ after.capacity = before.capacity ∧
    after.file = before.file

theorem idles_onTable {action : Action PageTable Result}
    (relates : action.Relates (fun _ _ => True) mayFail) :
    (onTable action).Relates Idles mayFail :=
  relates.zoom fun _ _ _ => ⟨⟨rfl, rfl, rfl⟩, rfl⟩

theorem idles_onLedger {action : Action Ledger Result}
    (relates : action.Relates (fun _ _ => True) mayFail) :
    (onLedger action).Relates Idles mayFail :=
  relates.zoom fun _ _ _ => ⟨⟨rfl, rfl, rfl⟩, rfl⟩

theorem idles_onFrames {action : Action FramePool Result}
    (relates : action.Relates (fun _ _ => True) mayFail) :
    (onFrames action).Relates Idles mayFail :=
  relates.zoom fun _ _ _ => ⟨⟨rfl, rfl, rfl⟩, rfl⟩

theorem idles_onSlots {action : Action SwapSpace Result}
    (relates : action.Relates SameFile mayFail) :
    (onSlots action).Relates Idles mayFail :=
  relates.zoom fun _ _ ⟨isMetered, capacity, file⟩ =>
    ⟨⟨isMetered, capacity, congrArg SwapFile.size file⟩, rfl⟩

theorem idles_onPolicy (step : Policy → Ledger → PageTable →
    Except Fatal (Result × Ledger × PageTable)) :
    (onPolicy step).Relates Idles mayFail := by
  apply Action.relates_step
  intro state result after stepped
  simp only [bind_eq_ok_iff, Prod.exists] at stepped
  obtain ⟨_, _, _, _, ⟨⟩⟩ := stepped
  exact ⟨⟨rfl, rfl, rfl⟩, rfl⟩

theorem idles_count (change : PagingStats → PagingStats) :
    (count change).Relates Idles mayFail :=
  Action.relates_modify fun _ => ⟨⟨rfl, rfl, rfl⟩, rfl⟩

theorem idles_report (event : Event) :
    (Hosted.report event : SpaceAction Unit).Relates Idles mayFail :=
  Action.relates_modify fun _ => ⟨⟨rfl, rfl, rfl⟩, rfl⟩

theorem idles_reportAll (events : List Event) :
    (Hosted.reportAll events : SpaceAction Unit).Relates Idles mayFail := by
  induction events with
  | nil => exact Action.relates_pure ()
  | cons event events ih => exact (idles_report event).bind fun _ => ih

theorem idles_changeFrames (update : FramePool → Except Fatal FramePool) :
    (onFrames (Action.change update)).Relates Idles mayFail :=
  idles_onFrames (Action.relates_change fun _ _ _ => trivial)

theorem idles_changeLedger (update : Ledger → Except Fatal Ledger) :
    (onLedger (Action.change update)).Relates Idles mayFail :=
  idles_onLedger (Action.relates_change fun _ _ _ => trivial)

theorem idles_updateEntry (address : Nat) (change : Entry → Entry) :
    (updateEntry address change).Relates Idles mayFail :=
  idles_onTable (Action.relates_modify fun _ => trivial)

theorem idles_releaseSlot (slot : Nat) :
    (releaseSlot slot).Relates Idles mayFail := by
  apply idles_onSlots
  apply Action.relates_change
  intro swap released releases
  obtain ⟨_, rfl⟩ := SwapSpace.release_eq_ok_iff.mp releases
  exact ⟨rfl, Array.size_setIfInBounds, rfl⟩

/-- A slot that is claimed for a page is one of the space. -/
theorem targetSlot_lt_capacity (state : Hosted AddressSpace) {spare : Option Nat}
    (given : ∀ slot, spare = some slot → slot < state.focus.swap.capacity) :
    ((targetSlot spare).run state).Meets (fun _ => True)
      (fun slot after => slot < state.focus.swap.capacity ∧
        SameDevice state after) fun _ _ => False := by
  refine ((resembles_targetSlot (.refl state) spare).mono ?_
    fun _ _ impossible => impossible).mono_fatal fun _ _ => trivial
  rintro slot after ⟨target, targets, same⟩
  have sameSwap : after.focus.swap = target :=
    congrArg AddressSpace.swap same.focus
  cases spare with
  | some spare =>
      obtain ⟨rfl, rfl⟩ := targets
      exact ⟨given slot rfl, .of_swap sameSwap⟩
  | none =>
      obtain ⟨isFree, _, rfl⟩ := SwapSpace.claim_eq_some_iff.mp targets
      refine ⟨(Array.getElem?_eq_some_iff.mp isFree).1, ?_, ?_, ?_⟩
      · rw [sameSwap]
        rfl
      · rw [sameSwap, SwapSpace.capacity_take]
      · rw [sameSwap]
        rfl

theorem idles_selectVictim : selectVictim.Relates Idles mayFail := by
  apply (idles_onPolicy _).bind
  intro victim
  apply (idles_reportAll _).bind
  intro _
  apply (idles_count _).bind
  exact fun _ => Action.relates_pure _

theorem idles_settleResident (handle page : Nat) :
    (settleResident handle page).Relates Idles mayFail := by
  apply (idles_changeLedger _).bind
  intro _
  apply Action.Relates.bind (Action.relates_read _)
  exact fun _ => idles_changeLedger _

/-- Why an operation fails: this is to be said of the state that it found, the
error and the state that it leaves. -/
abbrev Reason : Type :=
  Hosted AddressSpace → Hosted AddressSpace → PagingError → Prop

/-- In a space of so many slots the operation keeps to the device, and fails for
this reason only. -/
def FailsFor (slots : Nat) (reason : Reason) (action : SpaceAction Result) :
    Prop :=
  ∀ state : Hosted AddressSpace, state.focus.swap.capacity = slots →
    (action.run state).Meets (fun _ => True) (fun _ => SameDevice state)
      fun error after => reason state after error

namespace FailsFor

variable {reason other : Reason} {action : SpaceAction Result}

theorem mono (fails : FailsFor slots reason action)
    (weakens : ∀ before after error, reason before after error →
      other before after error) : FailsFor slots other action :=
  fun state capacity =>
    (fails state capacity).mono_failed fun _ _ => weakens _ _ _

theorem of_idles (idles : action.Relates Idles False) :
    FailsFor slots reason action :=
  fun state _ => (idles state).mono (fun _ _ idle => idle.toSameDevice)
    fun _ _ impossible => impossible.1.elim

/-- What fails for this reason later fails for it from the start, as the device
is the same. -/
theorem meets_later (fails : FailsFor slots reason action)
    (keeps : ∀ before middle after error, SameDevice before middle →
      reason middle after error → reason before after error)
    (capacity : before.focus.swap.capacity = slots)
    (same : SameDevice before middle) :
    (action.run middle).Meets (fun _ => True) (fun _ => SameDevice before)
      fun error after => reason before after error :=
  (fails middle (same.capacity.trans capacity)).mono
    (fun _ _ still => same.trans still)
    fun error after => keeps before middle after error same

theorem bind_isTransferFailure {first : SpaceAction First}
    {next : First → SpaceAction Second}
    (fails : FailsFor slots IsTransferFailure first)
    (rest : ∀ result, FailsFor slots IsTransferFailure (next result)) :
    FailsFor slots IsTransferFailure (first >>= next) :=
  fun state capacity => Action.meets_bind (fails state capacity)
    fun result _ => (rest result).meets_later
      (fun _ _ _ _ => SameDevice.isTransferFailure) capacity

theorem bind_isShortfall {first : SpaceAction First}
    {next : First → SpaceAction Second}
    (fails : FailsFor slots IsShortfall first)
    (rest : ∀ result, FailsFor slots IsShortfall (next result)) :
    FailsFor slots IsShortfall (first >>= next) :=
  fun state capacity => Action.meets_bind (fails state capacity)
    fun result _ => (rest result).meets_later
      (fun _ _ _ _ => SameDevice.isShortfall) capacity

theorem onFailure {undo : PagingError → SpaceAction Unit}
    (fails : FailsFor slots IsTransferFailure action)
    (undoes : ∀ error, (undo error).Relates Idles False) :
    FailsFor slots IsTransferFailure (Action.onFailure action undo) := by
  intro state capacity
  refine Action.meets_onFailure (fails state capacity)
    fun error middle failure => ?_
  refine (undoes error middle).mono (fun _ after idle => ?_)
    fun _ _ impossible => impossible.1.elim
  obtain ⟨slot, inside, refuses⟩ := failure
  rw [← idle.transfers] at refuses
  exact ⟨slot, inside, refuses⟩

end FailsFor

theorem failsFor_transfer {action : Action SwapDevice Result}
    {undo : SpaceAction Unit} {failure : TransferError → Event}
    (fails : FailsFor slots IsTransferFailure (onDevice action))
    (undoes : undo.Relates Idles False) :
    FailsFor slots IsTransferFailure (transfer action undo failure) := by
  apply fails.onFailure
  intro error
  apply undoes.bind
  intro _
  apply (idles_count _).bind
  intro _
  split
  · exact idles_report _
  · exact Action.relates_pure ()

theorem failsFor_store {bytes : List UInt8} (inside : slot < slots)
    (length : bytes.length = pageSize) :
    FailsFor slots IsTransferFailure
      (onDevice (SwapDevice.store slot bytes)) := by
  intro state capacity
  refine Action.meets_zoom_iff.mpr ((SwapDevice.meets_store length
    fun _ => trivial).mono ?_ ?_)
  · rintro _ device ⟨file, written, stored⟩
    have size := SwapFile.size_of_write written
    refine ⟨?_, ?_, ?_⟩
    · dsimp only
      rw [stored]
    · dsimp only
      rw [stored]
      rfl
    · dsimp only
      rw [stored, size]
  · exact fun error device refused =>
      ⟨slot, capacity ▸ inside, .inr refused.1⟩

theorem failsFor_load (inside : slot < slots) :
    FailsFor slots IsTransferFailure (onDevice (SwapDevice.load slot)) := by
  intro state capacity
  refine Action.meets_zoom_iff.mpr ((SwapDevice.meets_load
    fun _ => trivial).mono ?_ ?_)
  · rintro _ device ⟨_, same⟩
    exact .of_swap same
  · exact fun error device refused =>
      ⟨slot, capacity ▸ inside, .inl refused.1⟩

/-- An eviction fails only where the page that is to leave cannot be
written. -/
theorem failsFor_evictInto {spare : Option Nat}
    (given : ∀ slot, spare = some slot → slot < slots) :
    FailsFor slots IsTransferFailure (evictInto spare) := by
  intro state capacity
  rw [evictInto]
  refine Action.meets_bind ((targetSlot_lt_capacity state
    (capacity ▸ given)).mono_failed fun _ _ => False.elim) ?_
  rintro slot middle ⟨inside, same⟩
  refine FailsFor.meets_later ?_
    (fun _ _ _ _ => SameDevice.isTransferFailure) capacity same
  rw [capacity] at inside
  apply (FailsFor.of_idles idles_selectVictim).bind_isTransferFailure
  intro handle
  apply (FailsFor.of_idles (idles_onLedger
    (Action.relates_inspect _))).bind_isTransferFailure
  intro victim
  apply (FailsFor.of_idles (idles_onTable
    (Action.relates_inspect _))).bind_isTransferFailure
  intro found
  apply (FailsFor.of_idles (Action.relates_orCrash _ _)).bind_isTransferFailure
  intro entry
  apply (FailsFor.of_idles
    (Action.relates_crashUnless _ _)).bind_isTransferFailure
  intro _
  apply (FailsFor.of_idles (idles_onFrames
    (Action.relates_inspect _))).bind_isTransferFailure
  intro contents
  apply FailsFor.bind_isTransferFailure
  · apply failsFor_transfer (failsFor_store inside (Vector.length_toList ..))
    exact Action.relates_runIf fun _ => idles_releaseSlot slot
  intro _
  apply FailsFor.of_idles
  apply (idles_updateEntry _ _).bind
  intro _
  apply (idles_changeFrames _).bind
  intro _
  apply (idles_changeLedger _).bind
  intro _
  apply (idles_count _).bind
  intro _
  apply (idles_report _).bind
  exact fun _ => Action.relates_pure _

theorem failsFor_makeRoom (inside : slot < slots) :
    FailsFor slots IsTransferFailure (makeRoom slot) := by
  rw [makeRoom]
  apply (FailsFor.of_idles (Action.relates_read _)).bind_isTransferFailure
  intro isFull
  apply (FailsFor.of_idles (Action.relates_read _)).bind_isTransferFailure
  intro isHandedOver
  apply FailsFor.bind_isTransferFailure
  · intro state capacity
    refine Action.meets_runIf (fun _ => ?_) fun _ => .refl state
    refine FailsFor.bind_isTransferFailure (failsFor_evictInto ?_)
      (fun _ => .of_idles (Action.relates_pure ())) state capacity
    split
    · rintro _ ⟨⟩
      exact inside
    · exact nofun
  · intro _
    apply FailsFor.of_idles
    exact Action.relates_runIf fun _ => idles_releaseSlot slot

theorem failsFor_takeFrame : FailsFor slots IsShortfall takeFrame := by
  intro state _
  refine (resembles_takeFrame (.refl state)).mono ?_ ?_
  · rintro frame after ⟨_, _, taken⟩
    exact .of_swap (congrArg AddressSpace.swap taken.focus)
  · rintro error after ⟨isOutOfMemory, isEmpty, same⟩
    refine .inl ⟨isOutOfMemory, ?_⟩
    rwa [same.pool, same.focus]

/-- A page that is in swap does not come in only if there is no frame or a
transfer fails. -/
theorem failsFor_pageInFrom (handle page : Nat) (inside : slot < slots) :
    FailsFor slots IsShortfall (pageInFrom handle slot page) := by
  have isShortfall : ∀ before after error,
      IsTransferFailure before after error → IsShortfall before after error :=
    fun _ _ _ => .inr
  rw [pageInFrom]
  apply failsFor_takeFrame.bind_isShortfall
  intro frame
  apply FailsFor.bind_isShortfall
  · apply FailsFor.mono _ isShortfall
    exact failsFor_transfer (failsFor_load inside) (idles_changeFrames _)
  intro contents
  apply (FailsFor.of_idles (idles_changeFrames _)).bind_isShortfall
  intro _
  apply FailsFor.bind_isShortfall
  · apply FailsFor.mono _ isShortfall
    exact (failsFor_makeRoom inside).onFailure fun _ => idles_changeFrames _
  intro _
  apply FailsFor.of_idles
  apply (idles_updateEntry _ _).bind
  intro _
  apply (idles_settleResident _ _).bind
  intro _
  apply (idles_count _).bind
  exact fun _ => idles_report _

end AddressSpace

end DemandPaging
