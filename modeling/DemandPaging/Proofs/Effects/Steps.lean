import DemandPaging.Proofs.AddressSpace.Parts

/-!
# What the steps of operations leave, to the letter

Where an operation has to be described in full, with its statistics and down to
the bits of the page table, the state that it leaves is written out.  Only the
transfers that devices still complete and the events that were reported are
left open: `Resembles` is equality up to these.  Each primitive has its rule
here.
-/

namespace DemandPaging

theorem Host.setPool_pool (host : Host) (number : Nat) :
    host.setPool number (host.pool number) = host := by
  rw [Host.setPool, Array.setIfInBounds_def]
  split
  · rename_i inside
    have here : host.pool number = host.pools[number] := by
      rw [Host.pool, Array.getElem?_eq_getElem inside]
      rfl
    rw [here, Array.set_getElem_self]
  · rfl

namespace AddressSpace

variable {Result : Type} {expected state after : Hosted AddressSpace}
  {address slot frame : Nat} {fatal : Fatal → Prop}
  {done : Result → Hosted AddressSpace → Prop}
  {failed : PagingError → Hosted AddressSpace → Prop}

/-- The states differ in the transfers that are left and in what was reported
at most. -/
structure Resembles (expected state : Hosted AddressSpace) : Prop where
  focus : state.focus = expected.focus
  pools : state.host.pools = expected.host.pools

namespace Resembles

theorem refl (state : Hosted AddressSpace) : Resembles state state :=
  ⟨rfl, rfl⟩

theorem pool (same : Resembles expected state) (number : Nat) :
    state.host.pool number = expected.host.pool number := by
  rw [Host.pool, same.pools, Host.pool]

end Resembles

theorem frameBytes?_eq (state : Hosted AddressSpace) (frame : Nat) :
    frameBytes? state frame =
      ((state.host.pool state.focus.pool).contents? frame).map
        Vector.toList := by
  rw [frameBytes?, FramePool.contents?]
  cases (state.host.pool state.focus.pool).read frame <;> rfl

/-- The space with another space in its place, on the same host. -/
def withSpace (state : Hosted AddressSpace)
    (change : AddressSpace → AddressSpace) : Hosted AddressSpace :=
  ⟨change state.focus, state.host⟩

/-- The space on a host whose pool for it is `frames`. -/
def withFrames (state : Hosted AddressSpace) (frames : FramePool) :
    Hosted AddressSpace :=
  { state with host := state.host.setPool state.focus.pool frames }

theorem pool_withFrames (served : IsServed state) (frames : FramePool) :
    (withFrames state frames).host.pool state.focus.pool = frames := by
  rw [withFrames, Host.pool_setPool, if_pos ⟨rfl, served⟩]

theorem isServed_of_contents? {contents : Page}
    (lent : (state.host.pool state.focus.pool).contents? frame =
      some contents) : IsServed state := by
  rcases Nat.lt_or_ge state.focus.pool state.host.pools.size with
    inside | outside
  · exact inside
  · rw [Host.pool, Array.getElem?_eq_none outside] at lent
    cases (FramePool.contents?_new 0 frame).symm.trans lent

section Steps

variable (same : Resembles expected state)

include same

theorem resembles_withSpace (change : AddressSpace → AddressSpace) :
    Resembles (withSpace expected change) (withSpace state change) :=
  ⟨congrArg change same.focus, same.pools⟩

theorem resembles_withFrames (frames : FramePool) :
    Resembles (withFrames expected frames) (withFrames state frames) := by
  refine ⟨same.focus, ?_⟩
  simp only [withFrames, Host.setPool, same.pools, same.focus]

theorem resembles_count (change : PagingStats → PagingStats) :
    ((count change).run state).Meets fatal
      (fun _ => Resembles (withSpace expected fun space =>
        { space with stats := change space.stats })) failed :=
  resembles_withSpace same fun space =>
    { space with stats := change space.stats }

theorem resembles_report (event : Event) :
    ((Hosted.report event : SpaceAction Unit).run state).Meets fatal
      (fun _ => Resembles expected) failed :=
  ⟨same.focus, same.pools⟩

theorem resembles_reportAll (events : List Event) :
    ((Hosted.reportAll events : SpaceAction Unit).run state).Meets fatal
      (fun _ => Resembles expected) failed := by
  induction events generalizing state with
  | nil => exact same
  | cons event events ih =>
      exact Action.meets_bind (resembles_report same event)
        fun _ _ reports => ih reports

theorem resembles_updateEntry (change : Entry → Entry) :
    ((updateEntry address change).run state).Meets fatal
      (fun _ => Resembles (withSpace expected fun space =>
        { space with table := space.table.update address change })) failed :=
  resembles_withSpace same fun space =>
    { space with table := space.table.update address change }

theorem resembles_changeLedger {update : Ledger → Except Fatal Ledger}
    {ledger : Ledger} (success : update expected.focus.ledger = .ok ledger) :
    ((onLedger (Action.change update)).run state).Meets fatal
      (fun _ => Resembles (withSpace expected fun space =>
        { space with ledger })) failed := by
  rw [← same.focus] at success
  rw [onLedger, Action.run_zoom, Action.run_change_of_ok success]
  exact resembles_withSpace same fun space => { space with ledger }

theorem resembles_releaseSlot {swap : SwapSpace}
    (success : expected.focus.swap.release slot = .ok swap) :
    ((releaseSlot slot).run state).Meets fatal
      (fun _ => Resembles (withSpace expected fun space =>
        { space with swap })) failed := by
  rw [← same.focus] at success
  rw [releaseSlot, onSlots, Action.run_zoom, Action.run_change_of_ok success]
  exact resembles_withSpace same fun space => { space with swap }

theorem resembles_changeFrames {update : FramePool → Except Fatal FramePool}
    {frames : FramePool}
    (success : update (expected.host.pool expected.focus.pool) =
      .ok frames) :
    ((onFrames (Action.change update)).run state).Meets fatal
      (fun _ => Resembles (withFrames expected frames)) failed := by
  rw [← same.pool, ← same.focus] at success
  rw [onFrames, Action.run_zoom, Action.run_change_of_ok success]
  exact resembles_withFrames same frames

/-- A frame is taken, or there is none and nothing happens. -/
theorem resembles_takeFrame :
    (takeFrame.run state).Meets fatal
      (fun frame after => ∃ frames,
        (expected.host.pool expected.focus.pool).allocate =
          (some frame, frames) ∧
        Resembles (withFrames expected frames) after)
      (fun error after => error = .outOfMemory ∧
        (expected.host.pool expected.focus.pool).freeCount = 0 ∧
        Resembles expected after) := by
  cases lending : (expected.host.pool expected.focus.pool).allocate with
  | mk found frames =>
      have steps : (onFrames (Action.step fun pool =>
          .ok pool.allocate)).run state =
            .done found (withFrames state frames) := by
        rw [← same.pool, ← same.focus] at lending
        rw [onFrames, Action.run_zoom,
          Action.run_step_of_ok (congrArg Except.ok lending)]
        rfl
      rw [takeFrame, Action.run_bind_of_done steps]
      have resembles := resembles_withFrames same frames
      cases found with
      | some frame => exact ⟨frames, rfl, resembles⟩
      | none =>
          have isEmpty := FramePool.allocate_eq_none_iff.mp
            (congrArg Prod.fst lending)
          have unchanged : frames =
              expected.host.pool expected.focus.pool := by
            rw [FramePool.allocate] at lending
            split at lending
            · exact (congrArg Prod.snd lending).symm
            · cases lending
          refine ⟨rfl, isEmpty, resembles.focus, resembles.pools.trans ?_⟩
          rw [unchanged, withFrames, Host.setPool_pool]

theorem resembles_onPolicy {step : Policy → Ledger → PageTable →
      Except Fatal (Result × Ledger × PageTable)}
    {found : Result} {ledger : Ledger} {table : PageTable}
    (success : step expected.focus.config.policy expected.focus.ledger
      expected.focus.table = .ok (found, ledger, table)) :
    ((onPolicy step).run state).Meets fatal
      (fun result after => result = found ∧
        Resembles (withSpace expected fun space =>
          { space with ledger, table }) after) failed := by
  rw [← same.focus] at success
  have ran : (onPolicy step).run state = .done found
      (withSpace state fun space => { space with ledger, table }) := by
    refine Action.run_step_of_ok ?_
    rw [success]
    rfl
  rw [ran]
  exact ⟨rfl, resembles_withSpace same fun space =>
    { space with ledger, table }⟩

/-- A page is stored, or the store fails and moves nothing. -/
theorem resembles_store {bytes : List UInt8}
    (length : bytes.length = pageSize)
    (overflow : Word.limit ≤ slot * pageSize → fatal .overflow) :
    ((onDevice (SwapDevice.store slot bytes)).run state).Meets fatal
      (fun _ after => ∃ file,
        expected.focus.swap.file.write (slot * pageSize) bytes = .ok file ∧
        Resembles (withSpace expected fun space =>
          { space with swap := { space.swap with file } }) after)
      (fun error after => (∃ failure, error = .swapTransfer failure) ∧
        Resembles expected after) := by
  obtain ⟨focus, pools⟩ := same
  refine Action.meets_zoom_iff.mpr ((SwapDevice.meets_store length
    overflow).mono ?_ ?_)
  · rintro _ device ⟨file, written, stored⟩
    rw [focus] at written
    refine ⟨file, written, ?_, pools⟩
    dsimp only at stored ⊢
    rw [stored, focus]
    rfl
  · rintro error device ⟨refuses, unchanged⟩
    refine ⟨refuses.isTransfer, ?_, pools⟩
    dsimp only at unchanged ⊢
    rw [unchanged, focus]

/-- A page is loaded, or the load fails. -/
theorem resembles_load
    (overflow : Word.limit ≤ slot * pageSize → fatal .overflow) :
    ((onDevice (SwapDevice.load slot)).run state).Meets fatal
      (fun bytes after => expected.focus.swap.contents? slot = some bytes ∧
        Resembles expected after)
      (fun error after => (∃ failure, error = .swapTransfer failure) ∧
        Resembles expected after) := by
  obtain ⟨focus, pools⟩ := same
  refine Action.meets_zoom_iff.mpr ((SwapDevice.meets_load overflow).mono
    ?_ ?_)
  · rintro bytes device ⟨held, unchanged⟩
    rw [focus] at held
    refine ⟨held, ?_, pools⟩
    dsimp only at unchanged ⊢
    rw [unchanged, focus]
  · rintro error device ⟨refuses, unchanged⟩
    refine ⟨refuses.isTransfer, ?_, pools⟩
    dsimp only at unchanged ⊢
    rw [unchanged, focus]

end Steps

/-- A transfer that fails is undone, counted and reported. -/
theorem resembles_transfer {action : Action SwapDevice Result}
    {undo : SpaceAction Unit} {failure : TransferError → Event}
    (undone : Hosted AddressSpace)
    (meets : ((onDevice action).run state).Meets fatal done
      fun error after => (∃ failed, error = .swapTransfer failed) ∧
        Resembles expected after)
    (undoes : ∀ middle, Resembles expected middle →
      (undo.run middle).Meets fatal (fun _ => Resembles undone)
        fun _ _ => False) :
    ((transfer action undo failure).run state).Meets fatal done
      fun error after => (∃ failed, error = .swapTransfer failed) ∧
        Resembles (withSpace undone fun space =>
          { space with stats :=
            { space.stats with swapErrors := space.stats.swapErrors + 1 } })
          after := by
  refine Action.meets_onFailure meets fun error middle unfinished => ?_
  obtain ⟨⟨failed, rfl⟩, same⟩ := unfinished
  refine Action.meets_bind ((undoes middle same).mono (fun _ _ undone =>
    undone) fun _ _ impossible => impossible.elim) fun _ _ undid => ?_
  refine Action.meets_bind (resembles_count undid _) fun _ _ counted => ?_
  exact (resembles_report counted _).mono_done
    fun _ _ reported => ⟨⟨failed, rfl⟩, reported⟩

end AddressSpace

end DemandPaging
