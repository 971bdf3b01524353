import DemandPaging.AddressSpace.Residency
import DemandPaging.Proofs.Pager.Sound

/-!
# Operations on the parts of an address space

Operations reach the parts of an address space through a few primitives.  Each
has one statement here: what it leaves of the parts (`Becomes`), and that it
touches neither another pool of the host nor what an address space is made
with.  Every longer operation is reasoned about by these statements alone.
-/

namespace DemandPaging

variable {State First : Type} {fatal : Fatal → Prop}
  {failed : PagingError → State → Prop}

namespace Action

theorem meets_step_of_ok {transition : State → Except Fatal (First × State)}
    {state changed : State} {found : First}
    (success : transition state = .ok (found, changed)) :
    ((step transition).run state).Meets fatal
      (fun result after => result = found ∧ after = changed) failed := by
  rw [run_step_of_ok success]
  exact ⟨rfl, rfl⟩

end Action

namespace AddressSpace

variable {Result : Type} {state middle after : Hosted AddressSpace}
  {parts next : Pager} {address slot frame : Nat}
  {done : Result → Hosted AddressSpace → Prop}
  {failed : PagingError → Hosted AddressSpace → Prop}

/-- The parts of the space that have to agree, with the frames of its pool. -/
def pager (state : Hosted AddressSpace) : Pager where
  table := state.focus.table
  ledger := state.focus.ledger
  swap := state.focus.swap
  frames := state.host.pool state.focus.pool
  config := state.focus.config
  isPaging := state.focus.isPaging

theorem logicalPage?_eq (state : Hosted AddressSpace) (address : Nat) :
    logicalPage? state address = (pager state).logicalPage? address := by
  have inFrame : ∀ frame, frameBytes? state frame =
      ((pager state).frames.contents? frame).map Vector.toList := by
    intro frame
    simp only [frameBytes?, FramePool.contents?, pager]
    cases (state.host.pool state.focus.pool).read frame <;> rfl
  have inSlot : (state.focus.slotOf? (Address.pageBase address)).bind
      state.focus.slotBytes? =
        (((pager state).residenceOf? (Address.pageBase address)).bind
          Residence.slot?).bind (pager state).swap.contents? := by
    simp only [slotOf?, Pager.residenceOf?, Ledger.residenceOf?, pager,
      Option.bind_eq_bind, Option.bind_assoc]
    rfl
  rw [logicalPage?, Pager.logicalPage?, Pager.bytesAt?, Pager.entryAt_pageBase]
  cases found : state.focus.table.get? address with
  | none =>
      have isEmpty : (pager state).entryAt address = Entry.empty :=
        PageTable.entryAt_of_get?_none found
      rw [isEmpty]
      rfl
  | some entry =>
      have held : (pager state).entryAt address = entry :=
        PageTable.entryAt_of_get? found
      rw [held, Option.bind_eq_bind, Option.bind_some, bytesOf?, inFrame,
        inSlot]
      generalize (if entry.isValid = true then _ else _ :
        Option (List UInt8)) = bytes
      cases bytes <;> rfl

/-- Neither another pool nor what the space is made with changed. -/
structure Stays (before after : Hosted AddressSpace) : Prop where
  pool : after.focus.pool = before.focus.pool
  size : after.host.pools.size = before.host.pools.size
  elsewhere : ∀ number, number ≠ before.focus.pool →
    after.host.pool number = before.host.pool number

theorem Stays.refl (state : Hosted AddressSpace) : Stays state state :=
  ⟨rfl, rfl, fun _ _ => rfl⟩

theorem Stays.trans (first : Stays state middle)
    (second : Stays middle after) : Stays state after where
  pool := second.pool.trans first.pool
  size := second.size.trans first.size
  elsewhere number other := by
    rw [second.elsewhere number (by rw [first.pool]; exact other),
      first.elsewhere number other]

/-- The parts became `parts`, and nothing else changed that matters. -/
structure Becomes (before : Hosted AddressSpace) (parts : Pager)
    (after : Hosted AddressSpace) : Prop where
  stays : Stays before after
  parts : pager after = parts

theorem Becomes.trans (first : Becomes state parts middle)
    (second : Becomes middle next after) : Becomes state next after :=
  ⟨first.stays.trans second.stays, second.parts⟩

/-- The pool of the space is one of its host's. -/
def IsServed (state : Hosted AddressSpace) : Prop :=
  state.focus.pool < state.host.pools.size

theorem IsServed.of_stays (served : IsServed state)
    (stays : Stays state after) : IsServed after := by
  rw [IsServed, stays.pool, stays.size]
  exact served

theorem becomes_setPool (served : IsServed state) (frames : FramePool) :
    Becomes state { pager state with frames }
      { state with host := state.host.setPool state.focus.pool frames } where
  stays :=
    { pool := rfl
      size := Array.size_setIfInBounds
      elsewhere := fun number other => by
        rw [Host.pool_setPool, if_neg fun both => other both.1.symm] }
  parts := by
    have here : (state.host.setPool state.focus.pool frames).pool
        state.focus.pool = frames := by
      rw [Host.pool_setPool, if_pos ⟨rfl, served⟩]
    simp only [pager, here]

theorem meets_onDevice {action : Action SwapDevice Result}
    (ended : Result → SwapSpace → Prop)
    (broken : PagingError → SwapSpace → Prop)
    (meets : (action.run ⟨state.focus.swap, state.host.transfers⟩).Meets fatal
      (fun result device => ended result device.space)
      (fun error device => broken error device.space)) :
    ((onDevice action).run state).Meets fatal
      (fun result after => ∃ swap, ended result swap ∧
        Becomes state { pager state with swap } after)
      (fun error after => ∃ swap, broken error swap ∧
        Becomes state { pager state with swap } after) :=
  Action.meets_zoom_iff.mpr
    (meets.mono
      (fun _ device holds =>
        ⟨device.space, holds, ⟨rfl, rfl, fun _ _ => rfl⟩, rfl⟩)
      (fun _ device holds =>
        ⟨device.space, holds, ⟨rfl, rfl, fun _ _ => rfl⟩, rfl⟩))

/-- A page that is stored is in the file, and a store that fails moves
nothing. -/
theorem meets_storeSlot {bytes : List UInt8} (length : bytes.length = pageSize)
    (overflow : Word.limit ≤ slot * pageSize → fatal .overflow) :
    ((onDevice (SwapDevice.store slot bytes)).run state).Meets fatal
      (fun _ after => ∃ file,
        (pager state).swap.file.write (slot * pageSize) bytes = .ok file ∧
          Becomes state
            { pager state with swap := { (pager state).swap with file } }
            after)
      (fun _ => Becomes state (pager state)) := by
  refine (meets_onDevice
    (fun _ swap => ∃ file,
      (pager state).swap.file.write (slot * pageSize) bytes = .ok file ∧
        swap = { (pager state).swap with file })
    (fun _ swap => swap = (pager state).swap)
    ((SwapDevice.meets_store length overflow).mono_failed
      fun _ _ broken => broken.2)).mono ?_ ?_
  · rintro _ after ⟨_, ⟨file, written, rfl⟩, becomes⟩
    exact ⟨file, written, becomes⟩
  · rintro _ after ⟨_, rfl, becomes⟩
    exact becomes

/-- A page that is loaded is what its slot holds. -/
theorem meets_loadSlot
    (overflow : Word.limit ≤ slot * pageSize → fatal .overflow) :
    ((onDevice (SwapDevice.load slot)).run state).Meets fatal
      (fun bytes after => (pager state).swap.contents? slot = some bytes ∧
        Becomes state (pager state) after)
      (fun _ => Becomes state (pager state)) := by
  refine (meets_onDevice
    (fun bytes swap => (pager state).swap.contents? slot = some bytes ∧
      swap = (pager state).swap)
    (fun _ swap => swap = (pager state).swap)
    ((SwapDevice.meets_load overflow).mono_failed
      fun _ _ broken => broken.2)).mono ?_ ?_
  · rintro bytes after ⟨_, ⟨held, rfl⟩, becomes⟩
    exact ⟨held, becomes⟩
  · rintro _ after ⟨_, rfl, becomes⟩
    exact becomes

theorem run_look (value : AddressSpace → Result) :
    (look value).run state = .done (value state.focus) state :=
  rfl

theorem run_lookup_of_lt (inside : address < addressLimit) :
    (lookup address).run state =
      .done (state.focus.table.get? address) state := by
  have found : (Action.inspect fun table : PageTable =>
      table.lookup address).run state.focus.table =
        .done (state.focus.table.get? address) state.focus.table :=
    Action.run_inspect_of_ok (PageTable.lookup_of_lt inside)
  rw [lookup, onTable, Action.run_zoom, found]

theorem run_lookup_of_le (outside : addressLimit ≤ address) :
    (lookup address).run state = .fatal (.walkBeyondLimit address) := by
  have refused : (Action.inspect fun table : PageTable =>
      table.lookup address).run state.focus.table =
        .fatal (.walkBeyondLimit address) :=
    Action.run_inspect_of_error (PageTable.lookup_of_le outside)
  rw [lookup, onTable, Action.run_zoom, refused]

theorem meets_updateEntry (change : Entry → Entry) :
    ((updateEntry address change).run state).Meets fatal
      (fun _ => Becomes state { pager state with
        table := (pager state).table.update address change }) failed :=
  ⟨⟨rfl, rfl, fun _ _ => rfl⟩, rfl⟩

theorem meets_count (change : PagingStats → PagingStats) :
    ((count change).run state).Meets fatal
      (fun _ => Becomes state (pager state)) failed :=
  ⟨⟨rfl, rfl, fun _ _ => rfl⟩, rfl⟩

theorem meets_report (event : Event) :
    ((Hosted.report event : SpaceAction Unit).run state).Meets fatal
      (fun _ => Becomes state (pager state)) failed :=
  ⟨⟨rfl, rfl, fun _ _ => rfl⟩, rfl⟩

theorem meets_reportAll (events : List Event) :
    ((Hosted.reportAll events : SpaceAction Unit).run state).Meets fatal
      (fun _ => Becomes state (pager state)) failed := by
  induction events generalizing state with
  | nil => exact ⟨.refl state, rfl⟩
  | cons event events ih =>
      refine Action.meets_bind (meets_report event) fun _ middle first => ?_
      refine ih.mono_done fun _ _ second => ?_
      rw [first.parts] at second
      exact first.trans second

theorem meets_changeLedger {update : Ledger → Except Fatal Ledger}
    {ledger : Ledger} (success : update (pager state).ledger = .ok ledger) :
    ((onLedger (Action.change update)).run state).Meets fatal
      (fun _ => Becomes state { pager state with ledger }) failed := by
  have changed : (Action.change update).run state.focus.ledger =
      .done () ledger := Action.run_change_of_ok success
  rw [onLedger, Action.run_zoom, changed]
  exact ⟨⟨rfl, rfl, fun _ _ => rfl⟩, rfl⟩

theorem meets_stepLedger
    {transition : Ledger → Except Fatal (Result × Ledger)} {found : Result}
    {ledger : Ledger}
    (success : transition (pager state).ledger = .ok (found, ledger)) :
    ((onLedger (Action.step transition)).run state).Meets fatal
      (fun result after => result = found ∧
        Becomes state { pager state with ledger } after) failed := by
  have stepped : (Action.step transition).run state.focus.ledger =
      .done found ledger := Action.run_step_of_ok success
  rw [onLedger, Action.run_zoom, stepped]
  exact ⟨rfl, ⟨rfl, rfl, fun _ _ => rfl⟩, rfl⟩

theorem meets_stepSlots
    {transition : SwapSpace → Except Fatal (Result × SwapSpace)}
    {found : Result} {swap : SwapSpace}
    (success : transition (pager state).swap = .ok (found, swap)) :
    ((onSlots (Action.step transition)).run state).Meets fatal
      (fun result after => result = found ∧
        Becomes state { pager state with swap } after) failed := by
  have stepped : (Action.step transition).run state.focus.swap =
      .done found swap := Action.run_step_of_ok success
  rw [onSlots, Action.run_zoom, stepped]
  exact ⟨rfl, ⟨rfl, rfl, fun _ _ => rfl⟩, rfl⟩

theorem meets_changeTable {update : PageTable → Except Fatal PageTable}
    {table : PageTable} (success : update (pager state).table = .ok table) :
    ((onTable (Action.change update)).run state).Meets fatal
      (fun _ => Becomes state { pager state with table }) failed := by
  have changed : (Action.change update).run state.focus.table =
      .done () table := Action.run_change_of_ok success
  rw [onTable, Action.run_zoom, changed]
  exact ⟨⟨rfl, rfl, fun _ _ => rfl⟩, rfl⟩

theorem meets_releaseSlot {swap : SwapSpace}
    (success : (pager state).swap.release slot = .ok swap) :
    ((releaseSlot slot).run state).Meets fatal
      (fun _ => Becomes state { pager state with swap }) failed := by
  have changed : (Action.change fun swap : SwapSpace =>
      swap.release slot).run state.focus.swap = .done () swap :=
    Action.run_change_of_ok success
  rw [releaseSlot, onSlots, Action.run_zoom, changed]
  exact ⟨⟨rfl, rfl, fun _ _ => rfl⟩, rfl⟩

theorem meets_changeFrames (served : IsServed state)
    {update : FramePool → Except Fatal FramePool} {frames : FramePool}
    (success : update (pager state).frames = .ok frames) :
    ((onFrames (Action.change update)).run state).Meets fatal
      (fun _ => Becomes state { pager state with frames }) failed := by
  have changed : (Action.change update).run
      (state.host.pool state.focus.pool) = .done () frames :=
    Action.run_change_of_ok success
  rw [onFrames, Action.run_zoom, changed]
  exact becomes_setPool served frames

theorem meets_stepFrames (served : IsServed state)
    {transition : FramePool → Except Fatal (Result × FramePool)}
    {found : Result} {frames : FramePool}
    (success : transition (pager state).frames = .ok (found, frames)) :
    ((onFrames (Action.step transition)).run state).Meets fatal
      (fun result after => result = found ∧
        Becomes state { pager state with frames } after) failed := by
  have stepped : (Action.step transition).run
      (state.host.pool state.focus.pool) = .done found frames :=
    Action.run_step_of_ok success
  rw [onFrames, Action.run_zoom, stepped]
  exact ⟨rfl, becomes_setPool served frames⟩

theorem meets_onPolicy {step : Policy → Ledger → PageTable →
      Except Fatal (Result × Ledger × PageTable)}
    {found : Result} {ledger : Ledger} {table : PageTable}
    (success : step state.focus.config.policy (pager state).ledger
      (pager state).table = .ok (found, ledger, table)) :
    ((onPolicy step).run state).Meets fatal
      (fun result after => result = found ∧
        Becomes state { pager state with table, ledger } after) failed := by
  have ran : (onPolicy step).run state =
      .done found { state with focus := { state.focus with ledger, table } } := by
    refine Action.run_step_of_ok ?_
    change step state.focus.config.policy state.focus.ledger
      state.focus.table = _ at success
    rw [success]
    rfl
  rw [ran]
  exact ⟨rfl, ⟨rfl, rfl, fun _ _ => rfl⟩, rfl⟩

theorem run_onPolicy_of_error {step : Policy → Ledger → PageTable →
      Except Fatal (Result × Ledger × PageTable)} {cause : Fatal}
    (failure : step state.focus.config.policy (pager state).ledger
      (pager state).table = .error cause) :
    (onPolicy step).run state = .fatal cause := by
  refine Action.run_step_of_error ?_
  change step state.focus.config.policy state.focus.ledger
    state.focus.table = _ at failure
  rw [failure]
  rfl

theorem run_inspectLedger {inspected : Ledger → Except Fatal Result}
    {found : Result} (success : inspected state.focus.ledger = .ok found) :
    (onLedger (Action.inspect inspected)).run state = .done found state := by
  rw [onLedger, Action.run_zoom, Action.run_inspect_of_ok success]

theorem run_readFrame (served : IsServed state) {contents : Page}
    (lent : (pager state).frames.contents? frame = some contents) :
    (readFrame frame).run state = .done contents state := by
  have found : (Action.inspect fun pool : FramePool =>
      pool.read frame).run (state.host.pool state.focus.pool) =
        .done contents (state.host.pool state.focus.pool) :=
    Action.run_inspect_of_ok (FramePool.contents?_eq_some_iff.mp lent)
  have sameHost : state.host.setPool state.focus.pool
      (state.host.pool state.focus.pool) = state.host := by
    have inside : state.focus.pool < state.host.pools.size := served
    have same : state.host.pool state.focus.pool =
        state.host.pools[state.focus.pool] := by
      rw [Host.pool, Array.getElem?_eq_getElem inside]
      rfl
    rw [same, Host.setPool, Array.setIfInBounds_def, dif_pos inside,
      Array.set_getElem_self]
  rw [readFrame, onFrames, Action.run_zoom, found]
  dsimp only
  rw [sameHost]

end AddressSpace

end DemandPaging
