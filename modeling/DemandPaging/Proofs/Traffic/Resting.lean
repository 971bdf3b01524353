import DemandPaging.AddressSpace.Basic
import DemandPaging.Proofs.Relations
import DemandPaging.Proofs.Traffic.Journal

/-!
# Operations that leave swap alone

Most of what an operation does to a space happens to pages in memory, to their
entries and frames.  The space then counts no eviction and no page that came
back, has the same pages in swap as before, and as many claimed slots.
-/

namespace DemandPaging

namespace AddressSpace

variable {First Second Result : Type} {before after : AddressSpace}
  {origin : AddressSpace} {journal : List Passage} {spare : Int}
  {mayFail : Prop}

/-- Where the ledger has the same pages in swap, and the slots and the counters
are as before, nothing happened to a page in swap. -/
theorem Passes.of_sameSwap (booked : IsBooked before)
    (isPaging : after.isPaging = before.isPaging)
    (same : before.ledger.SameSwap after.ledger)
    (used : after.swap.used = before.swap.used)
    (inUse : after.swap.inUse = before.swap.inUse)
    (evictions : after.stats.evictions = before.stats.evictions)
    (pageIns : after.stats.pageIns = before.stats.pageIns) :
    Passes before [] 0 after where
  isBooked := {
    isPaging := isPaging.trans booked.isPaging
    ledger := same.isConsistent
    swap := by
      rw [SwapSpace.IsConsistent, used, inUse]
      exact booked.swap }
  evictions := evictions
  pageIns := pageIns
  replays := by
    rw [swappedPages, swappedPages, same.swappedPages]
    exact .nil _
  slots := by
    rw [swappedPages, swappedPages, same.swappedPages, inUse, Int.add_zero]

/-- If the books were right, nothing happened to a page in swap. -/
def Rested (before after : Hosted AddressSpace) : Prop :=
  IsBooked before.focus → Passes before.focus [] 0 after.focus

instance : Std.Refl Rested :=
  ⟨fun _ => Passes.refl⟩

instance : IsTrans (Hosted AddressSpace) Rested :=
  ⟨fun _ _ _ first second booked =>
    (first booked).trans (second (first booked).isBooked)⟩

/-- The operation leaves the pages in swap alone. -/
abbrev Rests (mayFail : Prop) (action : SpaceAction Result) : Prop :=
  action.Relates Rested mayFail

/-- What happened up to there is all that happened, if the rest leaves swap
alone. -/
theorem Passes.rested {state middle : Hosted AddressSpace}
    (passes : Passes origin journal spare state.focus)
    (rested : Rested state middle) :
    Passes origin journal spare middle.focus :=
  (passes.trans_nil (rested passes.isBooked)).congr (Int.add_zero spare)

/-- What cannot fail and leaves swap alone ends as it began. -/
theorem Rests.meets {state : Hosted AddressSpace} {action : SpaceAction Result}
    (rests : Rests False action)
    (passes : Passes origin journal spare state.focus) :
    (action.run state).Meets (fun _ => True)
      (fun _ after => Passes origin journal spare after.focus)
      fun _ _ => False :=
  (rests state).mono (fun _ _ rested => passes.rested rested)
    fun _ _ impossible => impossible.1

/-- What leaves swap alone does not matter for what happened. -/
theorem Rests.meets_bind {state : Hosted AddressSpace}
    {first : SpaceAction First} {next : First → SpaceAction Second}
    {done : Second → Hosted AddressSpace → Prop}
    {failed : PagingError → Hosted AddressSpace → Prop}
    (rests : Rests mayFail first)
    (passes : Passes origin journal spare state.focus)
    (fails : mayFail → ∀ error after,
      Passes origin journal spare after.focus → failed error after)
    (rest : ∀ result middle, Passes origin journal spare middle.focus →
      ((next result).run middle).Meets (fun _ => True) done failed) :
    ((first >>= next).run state).Meets (fun _ => True) done failed :=
  Action.Relates.meets_bind rests
    (fun may error after rested => fails may error after (passes.rested rested))
    fun result middle rested => rest result middle (passes.rested rested)

/-- What cannot fail is followed by the rest. -/
theorem Rests.meets_then {state : Hosted AddressSpace}
    {first : SpaceAction First} {next : First → SpaceAction Second}
    {done : Second → Hosted AddressSpace → Prop}
    {failed : PagingError → Hosted AddressSpace → Prop}
    (rests : Rests False first)
    (passes : Passes origin journal spare state.focus)
    (rest : ∀ result middle, Passes origin journal spare middle.focus →
      ((next result).run middle).Meets (fun _ => True) done failed) :
    ((first >>= next).run state).Meets (fun _ => True) done failed :=
  rests.meets_bind passes (fun impossible => impossible.elim) rest

/-- The same slots are claimed. -/
structure SameSlots (before after : SwapDevice) : Prop where
  used : after.space.used = before.space.used
  inUse : after.space.inUse = before.space.inUse

instance : Std.Refl SameSlots :=
  ⟨fun _ => ⟨rfl, rfl⟩⟩

instance : IsTrans SwapDevice SameSlots :=
  ⟨fun _ _ _ first second =>
    ⟨second.used.trans first.used, second.inUse.trans first.inUse⟩⟩

theorem rests_onTable {action : Action PageTable Result}
    (relates : action.Relates (fun _ _ => True) mayFail) :
    Rests mayFail (onTable action) :=
  relates.zoom fun _ _ _ booked => .of_sameSwap booked rfl
    (.refl booked.ledger) rfl rfl rfl rfl

theorem rests_onFrames {action : Action FramePool Result}
    (relates : action.Relates (fun _ _ => True) mayFail) :
    Rests mayFail (onFrames action) :=
  relates.zoom fun _ _ _ booked => .refl booked

/-- A consistent ledger has the same pages in swap as before. -/
def KeepsSwap (ledger after : Ledger) : Prop :=
  ledger.IsConsistent → ledger.SameSwap after

instance : Std.Refl KeepsSwap :=
  ⟨fun _ => Ledger.SameSwap.refl⟩

theorem rests_onLedger {action : Action Ledger Result}
    (relates : action.Relates KeepsSwap mayFail) :
    Rests mayFail (onLedger action) :=
  relates.zoom fun _ _ same booked => .of_sameSwap booked rfl
    (same booked.ledger) rfl rfl rfl rfl

/-- A transfer leaves the slots as they are; what they contain does not
matter. -/
theorem rests_onDevice {action : Action SwapDevice Result}
    (relates : action.Relates SameSlots mayFail) :
    Rests mayFail (onDevice action) :=
  relates.zoom fun _ _ same booked => .of_sameSwap booked rfl
    (.refl booked.ledger) same.used same.inUse rfl rfl

theorem relates_meter (offset : Nat) (spend : Transfers → Option Transfers) :
    (SwapDevice.meter offset spend).Relates SameSlots True := by
  apply (Action.relates_read id).bind
  intro device
  apply Action.relates_runIf
  intro _
  apply (Action.relates_orFail _ _).bind
  exact fun transfers => Action.relates_modify fun _ => ⟨rfl, rfl⟩

theorem relates_store (slot : Nat) (bytes : List UInt8) :
    (SwapDevice.store slot bytes).Relates SameSlots True := by
  apply (Action.relates_crashUnless _ _).bind
  intro _
  apply (Action.relates_ofExcept _).bind
  intro offset
  apply (relates_meter offset _).bind
  intro _
  apply (Action.relates_read id).bind
  intro device
  split
  · exact Action.relates_modify fun _ => ⟨rfl, rfl⟩
  · exact Action.relates_fail _

theorem relates_load (slot : Nat) :
    (SwapDevice.load slot).Relates SameSlots True := by
  apply (Action.relates_ofExcept _).bind
  intro offset
  apply (relates_meter offset _).bind
  intro _
  apply (Action.relates_read id).bind
  intro device
  split
  · exact Action.relates_pure _
  · exact Action.relates_fail _

theorem rests_onPolicy
    {step : Policy → Ledger → PageTable →
      Except Fatal (Result × Ledger × PageTable)}
    (same : ∀ policy ledger table result after changed, ledger.IsConsistent →
      step policy ledger table = .ok (result, after, changed) →
        ledger.SameSwap after) :
    Rests mayFail (onPolicy step) := by
  apply Action.relates_step
  intro state result after stepped booked
  simp only [bind_eq_ok_iff, Prod.exists] at stepped
  obtain ⟨_, ledger, table, chosen, ⟨⟩⟩ := stepped
  exact .of_sameSwap booked rfl
    (same _ _ _ _ _ _ booked.ledger chosen) rfl rfl rfl rfl

theorem rests_count {change : PagingStats → PagingStats}
    (evictions : ∀ stats, (change stats).evictions = stats.evictions)
    (pageIns : ∀ stats, (change stats).pageIns = stats.pageIns) :
    Rests mayFail (count change) :=
  Action.relates_modify fun _ booked => .of_sameSwap booked rfl
    (.refl booked.ledger) rfl rfl (evictions _) (pageIns _)

theorem rests_look (value : AddressSpace → Result) :
    Rests mayFail (look value) :=
  Action.relates_read _

theorem rests_report (event : Event) :
    Rests mayFail (Hosted.report event) :=
  Action.relates_modify fun _ booked => .refl booked

theorem rests_reportAll (events : List Event) :
    Rests mayFail (Hosted.reportAll events) := by
  induction events with
  | nil => exact Action.relates_pure ()
  | cons event events ih => exact (rests_report event).bind fun _ => ih

theorem rests_lookup (address : Nat) : Rests mayFail (lookup address) :=
  rests_onTable (Action.relates_inspect _)

theorem rests_updateEntry (address : Nat) (change : Entry → Entry) :
    Rests mayFail (updateEntry address change) :=
  rests_onTable (Action.relates_modify fun _ => trivial)

theorem rests_changeTable (update : PageTable → Except Fatal PageTable) :
    Rests mayFail (onTable (Action.change update)) :=
  rests_onTable (Action.relates_change fun _ _ _ => trivial)

theorem rests_changeFrames (update : FramePool → Except Fatal FramePool) :
    Rests mayFail (onFrames (Action.change update)) :=
  rests_onFrames (Action.relates_change fun _ _ _ => trivial)

theorem rests_takeFrame : Rests True takeFrame := by
  apply (rests_onFrames (Action.relates_step fun _ _ _ _ => trivial)).bind
  exact Action.relates_orFail _

theorem rests_releaseFrame (frame : Nat) :
    Rests mayFail (releaseFrame frame) :=
  rests_changeFrames _

theorem rests_readFrame (frame : Nat) : Rests mayFail (readFrame frame) :=
  rests_onFrames (Action.relates_inspect _)

theorem rests_writeFrame (frame : Nat) (bytes : List UInt8) :
    Rests mayFail (writeFrame frame bytes) :=
  rests_changeFrames _

end AddressSpace

end DemandPaging
