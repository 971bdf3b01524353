import DemandPaging.Proofs.AddressSpace.Tidy
import DemandPaging.Proofs.Replacement.Requests

/-!
# Pages that move over a device that works

An operation fails for want of a frame, of a place or of a device that completes
its transfers.  Where the device completes all of them, every eviction is done,
and a page in swap comes back once there is a frame for it and room in memory.
-/

namespace DemandPaging

/-- The device completes every transfer from and to the slots. -/
structure SwapSpace.IsReliable (swap : SwapSpace) : Prop where
  unmetered : swap.isMetered = false
  capacity_le : swap.capacity * pageSize ≤ swap.file.size

/-- The operation does not fail. -/
def Action.Completes {State Result : Type} (action : Action State Result)
    (state : State) : Prop :=
  (action.run state).Meets (fun _ => True) (fun _ _ => True) fun _ _ => False

namespace SwapDevice

variable {device : SwapDevice} {slot : Nat} {bytes : List UInt8}

theorem slot_fits (reliable : device.space.IsReliable)
    (inside : slot < device.space.capacity) :
    slot * pageSize + pageSize ≤ device.space.file.size := by
  calc slot * pageSize + pageSize = (slot + 1) * pageSize :=
        (Nat.succ_mul slot pageSize).symm
    _ ≤ device.space.capacity * pageSize := Nat.mul_le_mul_right _ inside
    _ ≤ device.space.file.size := reliable.capacity_le

theorem completes_store (reliable : device.space.IsReliable)
    (inside : slot < device.space.capacity) :
    (store slot bytes).Completes device := by
  have fits := slot_fits reliable inside
  rw [Action.Completes, store]
  refine Action.meets_crashUnless_bind (fun _ => trivial) fun _ => ?_
  rw [Action.liftM_eq_ofExcept, SwapSpace.offset, Word.mul, Word.fit]
  split
  · rw [Action.run_bind_of_done (Action.run_ofExcept_ok _ _),
      Action.run_bind_of_done (run_meter_of_unmetered reliable.unmetered _ _),
      Action.run_bind_of_done (Action.run_get device), SwapFile.write,
      if_pos (Nat.le_trans
        (Nat.add_le_add_left (List.length_take_le _ _) _) fits)]
    trivial
  · rw [Action.run_bind_of_fatal (Action.run_ofExcept_error _ _)]
    trivial

/-- The page in the slot can be read, and reading it leaves the slots as they
are. -/
def CanLoad (device : SwapDevice) (slot : Nat) : Prop :=
  ((load slot).run device).Meets (fun _ => True)
    (fun _ after => after.space = device.space) fun _ _ => False

/-- A slot within the file can be read if the device completes one more
read. -/
theorem canLoad_of_contents? (held : device.space.contents? slot = some bytes)
    (left : device.space.isMetered = true →
      device.transfers.reads ≠ some 0) : device.CanLoad slot := by
  have reads := SwapSpace.contents?_eq_some_iff.mp held
  have metered : ∀ offset, ((meter offset Transfers.spendRead).run device).Meets
      (fun _ => True) (fun _ after => after.space = device.space)
      fun _ _ => False := by
    intro offset
    rw [meter, Action.run_bind_of_done (Action.run_get device)]
    refine Action.meets_runIf (fun isMetered => ?_) fun _ => rfl
    have notSpent := left isMetered
    cases more : device.transfers.reads with
    | none =>
        rw [Transfers.spendRead, more]
        exact rfl
    | some number =>
        cases number with
        | zero => exact absurd more notSpent
        | succ number =>
            rw [Transfers.spendRead, more]
            exact rfl
  rw [CanLoad, load, Action.liftM_eq_ofExcept, SwapSpace.offset, Word.mul,
    Word.fit]
  split
  · rw [Action.run_bind_of_done (Action.run_ofExcept_ok _ _)]
    refine Action.meets_bind (metered _) fun _ after same => ?_
    rw [Action.run_bind_of_done (Action.run_get after), same, reads]
    exact same
  · rw [Action.run_bind_of_fatal (Action.run_ofExcept_error _ _)]
    trivial

theorem canLoad_of_isReliable (reliable : device.space.IsReliable)
    (inside : slot < device.space.capacity) : device.CanLoad slot := by
  have held : device.space.contents? slot = some (Bytes.slice
      device.space.file.bytes (slot * pageSize) pageSize) := by
    rw [SwapSpace.contents?_eq_some_iff, SwapFile.read,
      if_pos (slot_fits reliable inside)]
  refine canLoad_of_contents? held fun isMetered => ?_
  cases reliable.unmetered.symm.trans isMetered

end SwapDevice

namespace AddressSpace

open Books (isAging)

variable {First Second Result : Type} {state after : Hosted AddressSpace}
  {size address : Nat}

/-- The operation does not fail, and this much of the state is as before. -/
def Leaves {Part : Type} (part : Hosted AddressSpace → Part)
    (action : SpaceAction Result) : Prop :=
  ∀ state, (action.run state).Meets (fun _ => True)
    (fun _ after => part after = part state) fun _ _ => False

/-- What follows an operation starts with as much as before. -/
theorem Leaves.meets_bind {Part : Type} {part : Hosted AddressSpace → Part}
    {first : SpaceAction First} {next : First → SpaceAction Second}
    {done : Second → Hosted AddressSpace → Prop}
    {failed : PagingError → Hosted AddressSpace → Prop}
    (leaves : Leaves part first)
    (rest : ∀ result middle, part middle = part state →
      ((next result).run middle).Meets (fun _ => True) done failed) :
    ((first >>= next).run state).Meets (fun _ => True) done failed :=
  Action.meets_bind (leaves state).of_sure rest

theorem leaves_orCrash {Part : Type} (part : Hosted AddressSpace → Part)
    (cause : Fatal) (found : Option Result) :
    Leaves part (Action.orCrash cause found) := by
  intro state
  cases found with
  | none => trivial
  | some result => exact rfl

theorem leaves_crashUnless {Part : Type} (part : Hosted AddressSpace → Part)
    (condition : Prop) [Decidable condition] (cause : Fatal) :
    Leaves part (Action.crashUnless condition cause) := by
  intro state
  rw [Action.run_crashUnless]
  split
  · exact rfl
  · trivial

theorem leaves_onFrames {action : Action FramePool Result}
    (sure : ∀ pool, (action.run pool).Meets (fun _ => True)
      (fun _ _ => True) fun _ _ => False) :
    Leaves Hosted.focus (onFrames action) :=
  fun _ => Action.meets_zoom_iff.mpr ((sure _).mono_done fun _ _ _ => rfl)

/-- The slots of the space, and what they hold. -/
def swapOf (state : Hosted AddressSpace) : SwapSpace :=
  state.focus.swap

theorem leaves_onLedger {action : Action Ledger Result}
    (sure : ∀ ledger, (action.run ledger).Meets (fun _ => True)
      (fun _ _ => True) fun _ _ => False) : Leaves swapOf (onLedger action) :=
  fun _ => Action.meets_zoom_iff.mpr ((sure _).mono_done fun _ _ _ => rfl)

theorem leaves_lookup (address : Nat) : Leaves swapOf (lookup address) :=
  fun _ => Action.meets_zoom_iff.mpr ((Action.sure_inspect _ _).mono_done
    fun _ _ _ => rfl)

theorem leaves_readFrame (frame : Nat) : Leaves swapOf (readFrame frame) :=
  fun state => (leaves_onFrames (Action.sure_inspect _) state).mono_done
    fun _ _ same => congrArg AddressSpace.swap same

theorem leaves_selectVictim : Leaves swapOf selectVictim := by
  intro state
  rw [selectVictim]
  refine Action.meets_bind (computed_onPolicy _).of_sure ?_
  rintro victim _ ⟨ledger, table, _, rfl⟩
  refine Action.meets_bind (meets_reportAll _) fun _ reported reports => ?_
  exact congrArg Pager.swap reports.parts

theorem claims_claimSlot :
    (claimSlot.run state).Meets (fun _ => True)
      (fun slot after => slot < state.focus.swap.capacity ∧
        after.focus.swap = state.focus.swap.take slot) fun _ _ => False := by
  rw [claimSlot]
  cases claims : state.focus.swap.claim with
  | mk found target =>
      refine Action.meets_bind (meets_stepSlots
        (congrArg Except.ok claims)) ?_
      rintro given after ⟨rfl, becomes⟩
      cases given with
      | none => trivial
      | some slot =>
          obtain ⟨isFree, _, rfl⟩ := SwapSpace.claim_eq_some_iff.mp claims
          refine ⟨?_, congrArg Pager.swap becomes.parts⟩
          exact (Array.getElem?_eq_some_iff.mp isFree).1

theorem completes_evict (reliable : state.focus.swap.IsReliable) :
    evict.Completes state := by
  rw [Action.Completes, evict, evictInto]
  refine Action.meets_bind claims_claimSlot.of_sure ?_
  rintro slot claimed ⟨inside, taken⟩
  have stillReliable : (swapOf claimed).IsReliable := by
    rw [swapOf, taken]
    refine ⟨reliable.unmetered, ?_⟩
    rw [SwapSpace.capacity_take]
    exact reliable.capacity_le
  have within : slot < (swapOf claimed).capacity := by
    rw [swapOf, taken, SwapSpace.capacity_take]
    exact inside
  refine leaves_selectVictim.meets_bind fun handle chosen sameChosen => ?_
  refine (leaves_onLedger (Action.sure_inspect _)).meets_bind
    fun victim seen sameSeen => ?_
  refine (leaves_lookup _).meets_bind fun found looked sameLooked => ?_
  refine (leaves_orCrash swapOf _ _).meets_bind fun entry there sameThere => ?_
  refine (leaves_crashUnless swapOf _ _).meets_bind fun _ checked sameChecked => ?_
  refine (leaves_readFrame _).meets_bind fun contents read sameRead => ?_
  have same : swapOf read = swapOf claimed :=
    sameRead.trans (sameChecked.trans (sameThere.trans (sameLooked.trans
      (sameSeen.trans sameChosen))))
  have stores : (onDevice (SwapDevice.store slot contents.toList)).Completes
      read := by
    rw [← same] at stillReliable within
    exact Action.meets_zoom_iff.mpr
      (SwapDevice.completes_store stillReliable within)
  refine Action.meets_bind (Action.meets_onFailure stores
    fun _ _ isFailed => isFailed.elim) fun _ stored _ => ?_
  refine (isQuiet_updateEntry _ fun _ => by rfl).meets_bind
    fun _ updated _ => ?_
  refine (isQuiet_releaseFrame _).meets_bind fun _ released _ => ?_
  refine Action.meets_bind ((computed_changeLedger _).mono
    (fun _ _ _ => trivial) fun _ _ isFailed => isFailed.elim) fun _ _ _ => ?_
  exact trivial

/-- An eviction leaves a device as good as before, a frame more, and a page less
in memory. -/
structure Evicted (before after : Hosted AddressSpace) : Prop where
  isReliable : before.focus.swap.IsReliable → after.focus.swap.IsReliable
  frame : (pager after).frames.queue ≠ []
  residentCount : after.focus.ledger.residentCount + 1 =
    before.focus.ledger.residentCount

theorem evicted_evict (coherent : IsCoherent size state) :
    (evict.run state).Meets (fun _ => True) (fun _ => Evicted state)
      fun _ _ => True := by
  have ready := coherent.ready (Nat.le_refl
    ((pager state).ledger.generation + (0 + (pager state).turns)))
  refine (meets_evictInto ready none (fun _ => .inl fun _ => trivial) nofun
    (.inl fun _ => trivial)).mono ?_ fun _ _ _ => trivial
  rintro _ after ⟨slot, target, eviction, isTarget, _, becomes⟩
  obtain rfl : target = (pager state).swap.take slot :=
    isTarget.elim (fun claims => claims.2.2) fun hands => by cases hands.1
  refine ⟨fun reliable => ?_, ?_, ?_⟩
  · have sameSwap : after.focus.swap =
        { (pager state).swap.take slot with file := eviction.file } :=
      congrArg Pager.swap becomes.parts
    rw [sameSwap]
    refine ⟨reliable.unmetered, ?_⟩
    refine Nat.le_trans ?_ (Nat.le_of_eq
      (SwapFile.size_of_write eviction.written).symm)
    have sameCapacity : ((pager state).swap.take slot).capacity =
        (pager state).swap.capacity := SwapSpace.capacity_take
    exact Nat.mul_le_mul_right pageSize (Nat.le_of_eq sameCapacity)
      |>.trans reliable.capacity_le
  · rw [becomes.parts]
    obtain ⟨number, _, _, _, frames⟩ :=
      FramePool.release_eq_ok_iff.mp eviction.released
    change eviction.frames.queue ≠ []
    rw [frames]
    exact List.append_ne_nil_of_right_ne_nil _ (List.cons_ne_nil number [])
  · have counted := eviction.residentCount_after
    rw [← becomes.parts] at counted
    exact counted

theorem takes_takeFrame (free : (pager state).frames.queue ≠ []) :
    (takeFrame.run state).Meets (fun _ => True)
      (fun _ after => after.focus = state.focus ∧
        after.host.transfers = state.host.transfers) fun _ _ => False := by
  obtain ⟨number, queue, isFree⟩ := List.exists_cons_of_ne_nil free
  have lends : (Action.step fun pool : FramePool => .ok pool.allocate).run
      (state.host.pool state.focus.pool) = .done
        (some (FramePool.addressOf number)) _ :=
    Action.run_step_of_ok (congrArg Except.ok
      (FramePool.allocate_eq_some_iff.mpr ⟨number, queue, isFree, rfl, rfl⟩))
  rw [takeFrame, onFrames]
  refine Action.meets_bind_of (fun found after =>
    found = some (FramePool.addressOf number) ∧ after.focus = state.focus ∧
      after.host.transfers = state.host.transfers) ?_ ?_
  · rw [Action.meets_zoom_iff, lends]
    exact ⟨rfl, rfl, rfl⟩
  · rintro _ after ⟨rfl, same⟩
    exact same

/-- The swap of the space as a device. -/
def deviceOf (state : Hosted AddressSpace) : SwapDevice :=
  ⟨state.focus.swap, state.host.transfers⟩

theorem loads_transfer {slot : Nat} {undo : SpaceAction Unit}
    {failure : TransferError → Event}
    (canLoad : (deviceOf state).CanLoad slot) :
    ((transfer (SwapDevice.load slot) undo failure).run state).Meets
      (fun _ => True) (fun _ after => after.focus = state.focus)
      fun _ _ => False := by
  have loads : ((onDevice (SwapDevice.load slot)).run state).Meets
      (fun _ => True) (fun _ after => after.focus = state.focus)
      fun _ _ => False := by
    refine Action.meets_zoom_iff.mpr (canLoad.mono_done ?_)
    rintro _ ⟨_, _⟩ rfl
    rfl
  exact Action.meets_onFailure loads fun _ _ isFailed => isFailed.elim

theorem completes_makeRoom
    (notFull : state.focus.ledger.isResidentFull = false) (slot : Nat) :
    (makeRoom slot).Completes state := by
  rw [Action.Completes, makeRoom, Action.run_bind_of_done (run_look _),
    Action.run_bind_of_done (run_look _), notFull, Bool.false_and]
  have stays : (Action.runIf (false = true) do
      let _ ← evictInto (if false = true then some slot else none)).run state =
        .done () state := by
    rw [Action.run_runIf, if_neg Bool.false_ne_true]
  rw [Action.run_bind_of_done stays]
  exact (isQuiet_runIf _ (isQuiet_releaseSlot slot) state).mono_done
    fun _ _ _ => trivial

theorem completes_pageInFrom {handle slot page : Nat}
    (canLoad : (deviceOf state).CanLoad slot)
    (free : (pager state).frames.queue ≠ [])
    (notFull : state.focus.ledger.isResidentFull = false) :
    (pageInFrom handle slot page).Completes state := by
  rw [Action.Completes, pageInFrom]
  refine Action.meets_bind (takes_takeFrame free).of_sure
      fun frame taken sameTaken => ?_
  rw [deviceOf, ← sameTaken.1, ← sameTaken.2] at canLoad
  rw [← sameTaken.1] at notFull
  refine Action.meets_bind (loads_transfer canLoad).of_sure
      fun contents loaded sameLoaded => ?_
  rw [← sameLoaded] at notFull
  refine (leaves_onFrames (Action.sure_change _)).meets_bind
    fun _ written sameWritten => ?_
  rw [← sameWritten] at notFull
  refine Action.meets_bind (Action.meets_onFailure
    (completes_makeRoom notFull slot) fun _ _ isFailed => isFailed.elim)
      fun _ spared _ => ?_
  refine (isQuiet_updateEntry page fun _ => by rfl).meets_bind
    fun _ pointed _ => ?_
  refine Action.meets_bind (settles_settleResident.mono (fun _ _ _ => trivial)
    fun _ _ isFailed => isFailed.elim) fun _ settled _ => ?_
  exact trivial

/-- A page of the space comes back if there is a frame for it and room in
memory. -/
theorem completes_pageIn (coherent : IsCoherent size state)
    (reliable : state.focus.swap.IsReliable)
    (below : address < Address.pageCeil size)
    (free : (pager state).frames.queue ≠ [])
    (room : state.focus.ledger.residentCount <
      state.focus.ledger.maxResident) :
    (pageIn address).Completes state := by
  have sound := coherent.sound
  have isPresent : ((pager state).entryAt address).isPresent = true := by
    rw [← sound.isSome_logicalPage?, coherent.spans]
    exact below
  have notFull : state.focus.ledger.isResidentFull = false :=
    beq_eq_false_iff_ne.mpr (Nat.ne_of_lt room)
  rw [Action.Completes, pageIn]
  refine Action.meets_failUnless_bind (fun outside => ?_) fun inside => ?_
  · refine outside (sound.page_lt _ ?_)
    rw [Pager.entryAt_pageBase]
    exact isPresent
  have found : state.focus.table.get? address =
      some ((pager state).entryAt address) :=
    PageTable.get?_of_isPresent isPresent
  rw [Action.run_bind_of_done (run_lookup_of_lt inside),
    PageTable.get?_pageBase, found,
    Action.run_bind_of_done (Action.run_orFail_some _ _ _)]
  cases isValid : ((pager state).entryAt address).isValid with
  | true => cases ((pager state).entryAt address).isPagedOut <;> trivial
  | false =>
      rw [Entry.isPresent, isValid, Bool.false_or] at isPresent
      rw [isPresent]
      dsimp only
      rw [pageInSwapped, Action.run_bind_of_done (run_look _)]
      cases known : state.focus.ledger.find? (Address.pageBase address) with
      | none => trivial
      | some handle =>
          rw [Action.run_bind_of_done (Action.run_orCrash_some _ _ _),
            Action.liftM_eq_ofExcept]
          cases held : state.focus.ledger.get handle with
          | error cause => trivial
          | ok tracked =>
              rw [Action.run_bind_of_done (Action.run_ofExcept_ok _ _)]
              cases inSlot : tracked.residence.slot? with
              | none => trivial
              | some slot =>
                  rw [Action.run_bind_of_done
                    (Action.run_orCrash_some _ _ _)]
                  refine completes_pageInFrom (SwapDevice.canLoad_of_isReliable
                    reliable ?_) free notFull
                  have place := Ledger.get_eq_ok_iff.mp held
                  obtain ⟨residence, recency⟩ := tracked
                  cases residence with
                  | free | resident _ => cases inSlot
                  | swapped other _ =>
                      obtain rfl := Option.some.inj inSlot
                      refine SwapSpace.lt_capacity_of_isClaimed
                        ((sound.claimed _).mpr ⟨other, ?_⟩)
                      exact sound.ledger.residenceOf?_of_swapped place rfl

theorem exists_run_tick (coherent : IsCoherent size state) :
    ∃ pages after, tick.run state = .done pages after := by
  have ticks : (tick.run state).Meets (fun _ => False) (fun _ _ => True)
      fun _ _ => False := by
    rw [tick, Action.run_bind_of_done (run_look _)]
    split
    · rw [age]
      refine Action.meets_bind (meets_count _) fun _ counted counts => ?_
      have sound : (pager counted).Sound none :=
        counts.parts.symm ▸ coherent.sound
      obtain ⟨aged, ledger, table, success, _⟩ :=
        Pager.onTick_of_sound sound counted.focus.config.policy
      refine Action.meets_bind (meets_onPolicy success) ?_
      intro found ticked _
      cases found with
      | none => trivial
      | some pages => exact Action.meets_bind (meets_report _) fun _ _ _ => trivial
    · trivial
  obtain ⟨pages, after, ran, _⟩ := ticks.exists_done
  exact ⟨pages, after, ran⟩

/-- The request is done, and leaves this space. -/
def Request.Does (request : Request) (size : Nat)
    (before after : Hosted AddressSpace) : Prop :=
  ∃ reply, (request.action size).run before = .done reply after

/-- Under a policy that ages pages, what does not fail on a tidy space is
done. -/
theorem IsTidy.exists_does (tidy : IsTidy size state) {request : Request}
    (admissible : request.Admissible state)
    (aging : isAging state.focus.config.policy = true)
    (completes : (request.action size).Completes state) :
    ∃ after, request.Does size state after ∧
      IsTidied state (request.sizeAfter size) after := by
  have meets := tidy.meets_request request admissible
  cases ended : (request.action size).run state with
  | done reply after =>
      rw [ended] at meets
      exact ⟨after, ⟨reply, ended⟩, meets.1⟩
  | failed _ _ =>
      rw [Action.Completes, ended] at completes
      exact completes.elim
  | fatal cause =>
      rw [ended] at meets
      obtain ⟨_, isQueue, _⟩ := meets
      rw [isQueue] at aging
      cases aging

theorem IsCoherent.isThere_eq_false (coherent : IsCoherent size state)
    (isPaging : state.focus.isPaging = true)
    (nothing : state.focus.ledger.residentCount = 0) (address : Nat) :
    isThere state address = false := by
  refine Bool.eq_false_iff.mpr fun isThere => ?_
  have known := coherent.sound.resident isPaging address isThere nofun
  have consistent : state.focus.ledger.IsConsistent := coherent.sound.ledger
  obtain ⟨_, _, _, place, resident⟩ := consistent.find?_of_residenceOf? known
  have positive := consistent.residentCount_pos place resident
  rw [nothing] at positive
  exact Nat.lt_irrefl 0 positive

/-- The only page in memory leaves, and a page that is not there comes back. -/
theorem exists_reload {address : Nat} (tidy : IsTidy size state)
    (isPaging : state.focus.isPaging = true)
    (aging : isAging state.focus.config.policy = true)
    (count : state.focus.ledger.residentCount = 1)
    (slots : state.focus.swap.freeSlots ≠ 0)
    (reliable : state.focus.swap.IsReliable)
    (below : address < Address.pageCeil size) :
    ∃ evicted loaded, Request.evict.Does size state evicted ∧
      isThere evicted address = false ∧
      (Request.pageIn address).Does size evicted loaded := by
  have admissible : Request.evict.Admissible state :=
    ⟨count ▸ Nat.one_pos, slots⟩
  obtain ⟨evicted, ⟨reply, evicts⟩, tidied⟩ := tidy.exists_does admissible aging
    (Action.meets_map (completes_evict reliable))
  have left : Evicted state evicted := by
    have meets : ((Request.evict.action size).run state).Meets
        (fun _ => True) (fun _ => Evicted state) fun _ _ => True :=
      Action.meets_map (evicted_evict tidy.toIsCoherent)
    rw [evicts] at meets
    exact meets
  have shape := tidied.changes.parts.shape
  have stillPaging : evicted.focus.isPaging = true :=
    shape.isPaging.trans isPaging
  have stillAging : isAging evicted.focus.config.policy = true := by
    rw [show evicted.focus.config = state.focus.config from shape.config]
    exact aging
  have nothing : evicted.focus.ledger.residentCount = 0 :=
    Nat.succ.inj (left.residentCount.trans count)
  have coherent := tidied.coherent
  have room : evicted.focus.ledger.residentCount <
      evicted.focus.ledger.maxResident := by
    have fits := coherent.sound.fits
    rw [nothing, show evicted.focus.ledger.maxResident =
      evicted.focus.config.maxResident from fits.maxResident_eq]
    exact fits.maxResident_pos stillPaging
  have loads : ((Request.pageIn address).action size).Completes evicted :=
    Action.meets_map (completes_pageIn coherent (left.isReliable reliable) below
      left.frame room)
  have reloadable : (Request.pageIn address).Admissible evicted := trivial
  obtain ⟨loaded, loads, _⟩ :=
    tidied.tidy.exists_does reloadable stillAging loads
  exact ⟨evicted, loaded, ⟨reply, evicts⟩,
    coherent.isThere_eq_false stillPaging nothing address, loads⟩

end AddressSpace

end DemandPaging
