import DemandPaging.PageFault
import DemandPaging.Proofs.AddressSpace.Eviction
import DemandPaging.Proofs.Pager.Growth

/-!
# Bringing pages in

Whether a page comes back into a free place of memory, or another one leaves
first to a new slot or to the very slot that is given up, user code sees the
memory that it saw, and whether that ends well or not.
-/

namespace DemandPaging

namespace AddressSpace

open Pager (Terms Keeps Borrows Confined)

variable {Result : Type} {origin state middle after : Hosted AddressSpace}
  {terms : Terms} {time : Nat} {pending : Option Nat}
  {address handle page slot frame : Nat} {contents : Page}
  {failed : PagingError → Hosted AddressSpace → Prop}

/-- The page at `page` is in the slot `slot`, at the place `handle`. -/
structure InSlot (pager : Pager) (handle page slot : Nat) : Prop where
  find? : pager.ledger.find? page = some handle
  residenceOf? : pager.residenceOf? page = some (.swapped page slot)

theorem InSlot.place {pager : Pager} (inSlot : InSlot pager handle page slot)
    (sound : pager.Sound pending) :
    ∃ old, pager.ledger.places[handle]? = some old ∧
      old.residence = .swapped page slot := by
  obtain ⟨other, old, found, place, residence⟩ :=
    sound.ledger.find?_of_residenceOf? inSlot.residenceOf?
  cases inSlot.find?.symm.trans found
  exact ⟨old, place, residence⟩

theorem InSlot.spared {pager next : Pager}
    (inSlot : InSlot pager handle page slot) (spares : pager.Spares next) :
    InSlot next handle page slot where
  find? := (spares.find? page).trans inSlot.find?
  residenceOf? := by
    refine (spares.residenceOf? page ?_).trans inSlot.residenceOf?
    rw [inSlot.residenceOf?]
    exact fun impossible => nomatch impossible

theorem InSlot.bytesAt? {pager : Pager}
    (inSlot : InSlot pager handle page slot) (sound : pager.Sound pending) :
    pager.bytesAt? page = pager.swap.contents? slot := by
  obtain ⟨_, _, _, notValid, isPagedOut⟩ :=
    sound.tracked page _ inSlot.residenceOf?
  have notValidPage : ¬(pager.entryAt page).isValid = true := by
    rw [notValid]
    exact Bool.false_ne_true
  have inSwap : (pager.entryAt page).isPagedOut = true := isPagedOut
  rw [Pager.bytesAt?, if_neg notValidPage, if_pos inSwap, inSlot.residenceOf?]
  rfl

theorem bytesAt?_eq (pager : Pager) (address : Nat) :
    pager.bytesAt? (Address.pageBase address) =
      (pager.logicalPage? address).map LogicalPage.bytes := by
  rw [Pager.logicalPage?, Option.map_map]
  exact (Option.map_id' ..).symm

/-- The page at `page` can come back to its place. -/
def Awaited (origin : Hosted AddressSpace) (terms : Terms) (time : Nat)
    (pending : Option Nat) (handle page slot frame : Nat)
    (after : Hosted AddressSpace) : Prop :=
  ∃ old, (pager after).Awaits (pager origin) terms time pending handle page
    slot frame old ∧ Stays origin after

/-- Where there is room, the slot of the page that comes back is given up. -/
theorem meets_giveUp {fatal : Fatal → Prop}
    (lent : Lent origin terms time pending frame contents state)
    (inSlot : InSlot (pager state) handle page slot)
    (held : (pager state).bytesAt? page = some contents.toList)
    (room : (pager state).ledger.residentCount <
      (pager state).ledger.maxResident) :
    ((releaseSlot slot).run state).Meets fatal
      (fun _ => Awaited origin terms time pending handle page slot frame)
      failed := by
  obtain ⟨old, place, swapped⟩ := inSlot.place lent.ready.sound
  obtain ⟨released, success, awaits⟩ := lent.ready.parts.awaits_of_room
    lent.changes.parts place swapped held room
  refine (meets_releaseSlot success).mono_done fun _ after becomes => ?_
  refine ⟨old, ?_, lent.changes.stays.trans becomes.stays⟩
  rw [becomes.parts]
  exact awaits

/-- Where no slot is free, the slot of the page that comes back is handed over
to the page that leaves. -/
theorem meets_handOver
    (lent : Lent origin terms (time + (pager state).turns) pending frame
      contents state)
    (inSlot : InSlot (pager state) handle page slot)
    (held : (pager state).bytesAt? page = some contents.toList)
    (occupied : 0 < (pager state).ledger.residentCount) :
    ((evictInto (some slot)).run state).Meets terms.fatal
      (fun _ => Awaited origin terms time pending handle page slot frame)
      (fun _ => Lent origin terms time pending frame contents) := by
  have ready := lent.ready
  have claimed : (pager state).swap.isClaimed slot = true :=
    (ready.sound.claimed slot).mpr ⟨page, inSlot.residenceOf?⟩
  obtain ⟨old, place, swapped⟩ := inSlot.place ready.sound
  refine (meets_evictInto ready (some slot)
    (fun impossible => nomatch impossible) (fun _ same => ?_)
    (.inr occupied)).mono ?_ fun _ _ unmoved =>
      (lent.weaken (Nat.le_add_right _ _)).of_kept unmoved.toKept
  · cases same
    exact claimed
  · rintro _ after ⟨target, swap, eviction, isTarget, _, becomes⟩
    rcases isTarget with ⟨impossible, _⟩ | ⟨same, rfl⟩
    · cases impossible
    · cases same
      obtain ⟨returning, awaits⟩ := ready.parts.awaits_of_handedOver
        lent.changes.parts place swapped held eviction
      refine ⟨returning, ?_, lent.changes.stays.trans becomes.stays⟩
      rw [becomes.parts]
      exact awaits

/-- Where a slot is free, another page leaves to it, and the slot of the page
that comes back is given up. -/
theorem meets_exchange
    (lent : Lent origin terms (time + (pager state).turns) pending frame
      contents state)
    (inSlot : InSlot (pager state) handle page slot)
    (aligned : Address.pageBase page = page)
    (held : (pager state).bytesAt? page = some contents.toList)
    (full : (pager state).ledger.residentCount =
      (pager state).ledger.maxResident)
    (occupied : 0 < (pager state).ledger.residentCount)
    (hasSlot : (pager state).swap.freeSlots ≠ 0) :
    ((evict >>= fun _ => releaseSlot slot).run state).Meets terms.fatal
      (fun _ => Awaited origin terms time pending handle page slot frame)
      (fun _ => Lent origin terms time pending frame contents) := by
  have sooner : Lent origin terms time pending frame contents state :=
    lent.weaken (Nat.le_add_right _ _)
  refine Action.meets_bind ((meets_evict lent.ready (.inr hasSlot)
    (.inr occupied)).mono_failed fun _ _ unmoved =>
      sooner.of_kept unmoved.toKept) ?_
  rintro _ after ⟨kept, spares⟩
  refine meets_giveUp (sooner.of_kept kept) (inSlot.spared spares) ?_ ?_
  · rw [← aligned, bytesAt?_eq, kept.changes.parts.logicalPage?,
      ← bytesAt?_eq, aligned]
    exact held
  · have room := spares.room
    rw [kept.changes.parts.shape.maxResident]
    omega

/-- Room is made for a page that comes back, and its slot is given up or handed
over. -/
theorem meets_makeRoom
    (lent : Lent origin terms (time + (pager state).turns) pending frame
      contents state)
    (inSlot : InSlot (pager state) handle page slot)
    (held : (pager state).bytesAt? page = some contents.toList) :
    ((makeRoom slot).run state).Meets terms.fatal
      (fun _ => Awaited origin terms time pending handle page slot frame)
      (fun _ => Lent origin terms time pending frame contents) := by
  have sound := lent.ready.sound
  obtain ⟨isPaging, aligned, _⟩ := sound.tracked page _ inSlot.residenceOf?
  have positive : 0 < (pager state).ledger.maxResident := by
    rw [sound.fits.maxResident_eq]
    exact sound.fits.maxResident_pos isPaging
  have ceiling := lent.ready.parts.ceiling
  rw [makeRoom, Action.run_bind_of_done (run_look _),
    Action.run_bind_of_done (run_look _)]
  change (Action.run (do
    Action.runIf (pager state).ledger.isResidentFull do
      let _ ← evictInto (if ((pager state).ledger.isResidentFull &&
        (pager state).swap.freeSlots == 0) then some slot else none)
    Action.runIf (!((pager state).ledger.isResidentFull &&
      (pager state).swap.freeSlots == 0)) (releaseSlot slot)) state).Meets
    _ _ _
  by_cases full : (pager state).ledger.isResidentFull = true
  · have residentFull : (pager state).ledger.residentCount =
        (pager state).ledger.maxResident := by
      simpa [Ledger.isResidentFull] using full
    have occupied : 0 < (pager state).ledger.residentCount := by omega
    rw [Action.runIf_of_pos full, bind_assoc]
    by_cases noSlot : (pager state).swap.freeSlots = 0
    · have handed : ((pager state).ledger.isResidentFull &&
          (pager state).swap.freeSlots == 0) = true := by simp [full, noSlot]
      rw [if_pos handed, Action.runIf_of_neg (by simp [handed])]
      exact Action.meets_bind (meets_handOver lent inSlot held occupied)
        fun _ _ awaited => awaited
    · have notHanded : ¬((pager state).ledger.isResidentFull &&
          (pager state).swap.freeSlots == 0) = true := by simp [noSlot]
      rw [if_neg notHanded, Action.runIf_of_pos (by simp [notHanded])]
      exact meets_exchange lent inSlot aligned held residentFull occupied
        noSlot
  · -- There is room already.
    have room : (pager state).ledger.residentCount <
        (pager state).ledger.maxResident := by
      have different : (pager state).ledger.residentCount ≠
          (pager state).ledger.maxResident := by
        simpa [Ledger.isResidentFull] using full
      omega
    rw [Action.runIf_of_neg full, pure_bind,
      Action.runIf_of_pos (by simp [full])]
    exact meets_giveUp (lent.weaken (Nat.le_add_right _ _)) inSlot held room

/-- A page becomes resident and gets its first recency, unless the clock runs
out. -/
theorem meets_settleResident {fatal : Fatal → Prop} {marked : Ledger}
    {tracked : Tracked}
    (marks : (pager state).ledger.markResident handle page = .ok marked)
    (consistent : marked.IsConsistent)
    (place : marked.places[handle]? = some tracked)
    (overflow : (pager state).config.policy = .scfifo →
      Word.limit ≤ marked.generation + 1 → fatal .overflow) :
    ((settleResident handle page).run state).Meets fatal
      (fun _ after => ∃ ledger, marked.Reranks ledger 1 ∧
        Becomes state { pager state with ledger } after) failed := by
  rw [settleResident]
  refine Action.meets_bind (meets_changeLedger marks)
    fun _ middle becomes => ?_
  have sameConfig : middle.focus.config = (pager state).config :=
    congrArg Pager.config becomes.parts
  have sameLedger : (pager middle).ledger = marked := by rw [becomes.parts]
  rw [Action.run_bind_of_done (run_look _), sameConfig]
  obtain ⟨policy, late, refused⟩ | ⟨ledger, loaded, ranks⟩ :=
    (pager state).config.policy.onLoad_cases consistent place
  · have ended : (Action.change fun ledger : Ledger =>
        (pager state).config.policy.onLoad ledger handle).run
          middle.focus.ledger = .fatal .overflow := by
      rw [← sameLedger] at refused
      exact Action.run_change_of_error refused
    rw [onLedger, Action.run_zoom, ended]
    exact overflow policy late
  · rw [← sameLedger] at loaded
    refine (meets_changeLedger loaded).mono_done fun _ after loads => ?_
    have whole := becomes.trans loads
    rw [becomes.parts] at whole
    exact ⟨ledger, ranks, whole⟩

/-- A page for which all is prepared comes back to its place. -/
theorem meets_comeBack
    (awaited : Awaited origin terms (time + 1) pending handle page slot frame
      state)
    (served : IsServed origin) :
    (Action.run (do
      updateEntry page fun entry => Entry.resident frame entry.flags
      settleResident handle page
      count fun stats => { stats with pageIns := stats.pageIns + 1 }
      Hosted.report (.pagedIn page slot)) state).Meets terms.fatal
      (fun _ after => Kept origin terms time pending after ∧
        (pager after).residenceOf? page = some (.resident page)) failed := by
  obtain ⟨old, awaits, stays⟩ := awaited
  have returned := awaits.ready
  have place : ((pager state).returned handle page frame
      old).ledger.places[handle]? =
        some { old with residence := .resident page } := by
    obtain ⟨inside, _⟩ := Array.getElem?_eq_some_iff.mp awaits.place
    exact (Ledger.getElem?_places_put _).trans (if_pos ⟨rfl, inside⟩)
  refine Action.meets_bind (meets_updateEntry _) fun _ updated updates => ?_
  have toUpdated := stays.trans updates.stays
  have marks : (pager updated).ledger.markResident handle page =
      .ok ((pager state).returned handle page frame old).ledger := by
    rw [updates.parts]
    exact Ledger.markResident_of_swapped awaits.room awaits.place
      awaits.swapped
  refine Action.meets_bind (meets_settleResident marks returned.sound.ledger
    place fun policy late => ?_) ?_
  · rw [updates.parts] at policy
    exact returned.overflow_of_le policy (by omega) (by omega)
  rintro _ settled ⟨ledger, ranks, settles⟩
  rw [updates.parts] at settles
  have refreshes : ((pager state).returned handle page frame old).Refreshes
      ((pager state).returned handle page frame old).table ledger 1 :=
    .of_ranks ranks
  refine Action.meets_bind (meets_count _) fun _ counted counts => ?_
  refine (meets_report _).mono_done fun _ reported reports => ?_
  have toReported := (settles.trans counts).trans reports
  rw [counts.parts, settles.parts] at toReported
  have whole := toUpdated.trans toReported.stays
  have parts := toReported.parts
  refine ⟨⟨⟨served.of_stays whole, ?_⟩, whole, ?_⟩, ?_⟩
  · rw [parts]
    exact returned.refresh refreshes
  · rw [parts]
    exact awaits.keeps.trans refreshes.keeps
  · rw [parts]
    exact (ranks.residenceOf? page).trans
      (returned.sound.ledger.residenceOf?_of_resident place rfl)

/-- A page comes back to its place, or everything stays as it is. -/
theorem meets_pageInFrom
    (ready : Ready terms (time + ((pager state).turns + 1))
      pending state)
    (inSlot : InSlot (pager state) handle page slot) :
    ((pageInFrom handle slot page).run state).Meets terms.fatal
      (fun _ after => Kept state terms time pending after ∧
        (pager after).residenceOf? page = some (.resident page))
      (fun _ => Kept state terms time pending) := by
  have enough : time ≤ time + ((pager state).turns + 1) :=
    Nat.le_add_right _ _
  rw [pageInFrom]
  refine Action.meets_bind ((meets_takeFrame ready).mono_failed
    fun _ _ kept => kept.weaken enough) ?_
  rintro frame taken ⟨lent, frames, takes⟩
  have slot_le : terms.IsLax ∨ slot * pageSize < Word.limit :=
    ready.parts.strict.imp_right fun strict => Pager.offset_lt
      (strict.slot_le slot ((ready.sound.claimed slot).mpr ⟨page,
        inSlot.residenceOf?⟩))
  refine Action.meets_bind (meets_transfer (Kept state terms time pending)
    (meets_loadSlot fun late => ?_) (fun _ _ becomes => ?_)
    fun _ _ kept becomes => kept.unchanged becomes) ?_
  · rcases slot_le with lax | fits
    · exact lax .overflow
    · exact absurd fits (Nat.not_lt.mpr late)
  · exact (meets_releaseFrame (lent.unchanged becomes)).mono_done
      fun _ _ done => done.1.weaken enough
  rintro bytes loaded ⟨inSwap, loads⟩
  have length : bytes.length = pageSize :=
    SwapSpace.length_of_contents? inSwap
  refine Action.meets_bind (meets_fillFrame (lent.unchanged loads) length) ?_
  rintro _ written ⟨contents, rfl, filled, moreFrames, writes⟩
  -- Taking and filling the frame has left the page where it was.
  have toWritten := (takes.trans loads).trans writes
  rw [loads.parts, takes.parts] at toWritten
  have parts := toWritten.parts
  have stillInSlot : InSlot (pager written) handle page slot := by
    rw [parts]
    exact ⟨inSlot.find?, inSlot.residenceOf?⟩
  have held : (pager written).bytesAt? page = some contents.toList := by
    rw [stillInSlot.bytesAt? filled.ready.sound, parts]
    rw [takes.parts] at inSwap
    exact inSwap
  have prepared : Lent state terms
      (time + 1 + (pager written).turns) pending frame contents written := by
    have sameCeiling : (pager written).turns = (pager state).turns := by
      rw [parts]
      rfl
    refine filled.weaken ?_
    rw [sameCeiling]
    omega
  refine Action.meets_bind (Action.meets_onFailure
    (meets_makeRoom prepared stillInSlot held) fun _ middle lent => ?_)
    fun _ roomy awaited => meets_comeBack awaited ready.served
  exact (meets_releaseFrame lent).mono_done fun _ _ done =>
    done.1.weaken (Nat.le_add_right _ _)

/-- A page in swap comes back, or everything stays as it is. -/
theorem meets_pageInSwapped
    (ready : Ready terms (time + ((pager state).turns + 1))
      pending state)
    (known : (pager state).residenceOf? page = some (.swapped page slot)) :
    ((pageInSwapped page).run state).Meets terms.fatal
      (fun _ after => Kept state terms time pending after ∧
        (pager after).residenceOf? page = some (.resident page))
      (fun _ => Kept state terms time pending) := by
  obtain ⟨handle, old, found, place, swapped⟩ :=
    ready.sound.ledger.find?_of_residenceOf? known
  have isThere : state.focus.ledger.find? page = some handle := found
  have held : state.focus.ledger.get handle = .ok old :=
    Ledger.get_eq_ok_iff.mpr place
  rw [pageInSwapped, Action.run_bind_of_done (run_look _), isThere,
    Action.run_bind_of_done (Action.run_orCrash_some _ _ _),
    Action.liftM_eq_ofExcept, held,
    Action.run_bind_of_done (Action.run_ofExcept_ok _ _), swapped,
    Residence.slot?, Action.run_bind_of_done (Action.run_orCrash_some _ _ _)]
  exact meets_pageInFrom ready ⟨found, known⟩

/-- Bringing a page in is not noticed, whether it succeeds or not, and a page
that was brought in is in memory. -/
theorem meets_pageIn
    (ready : Ready terms (time + ((pager state).turns + 1)) none
      state) :
    ((pageIn address).run state).Meets terms.fatal
      (fun _ after => Kept state terms time none after ∧
        ((pager after).entryAt address).isValid = true)
      (fun _ => Kept state terms time none) := by
  have kept : Kept state terms time none state :=
    (Kept.refl ready).weaken (Nat.le_add_right _ _)
  have sound := ready.sound
  rw [pageIn]
  refine Action.meets_failUnless_bind (fun _ => kept) fun inside => ?_
  rw [Action.run_bind_of_done (run_lookup_of_lt inside),
    PageTable.get?_pageBase]
  cases found : state.focus.table.get? address with
  | none => exact kept
  | some entry =>
      have held : (pager state).entryAt address = entry :=
        PageTable.entryAt_of_get? found
      rw [Action.run_bind_of_done (Action.run_orFail_some _ _ _)]
      cases isValid : entry.isValid with
      | true =>
          cases isPagedOut : entry.isPagedOut with
          | true =>
              refine ready.parts.excuse fun strict => ?_
              have exclusive := (strict.entries address).exclusive
              rw [held, isPagedOut] at exclusive
              cases exclusive isValid
          | false =>
              refine ⟨kept, ?_⟩
              rw [held]
              exact isValid
      | false =>
          cases isPagedOut : entry.isPagedOut with
          | false => exact kept
          | true =>
              rw [← held] at isValid isPagedOut
              obtain ⟨slot, known⟩ := sound.swapped address isPagedOut isValid
              refine (meets_pageInSwapped ready known).mono_done ?_
              rintro _ after ⟨kept, resident⟩
              have back := (kept.ready.sound.tracked _ _ resident).2.2.2.1
              rw [Pager.entryAt_pageBase] at back
              exact ⟨kept, back⟩

/-- There is a place in memory for the page at `page`, which is mapped and
waits to be tracked. -/
structure Welcomes (origin : Hosted AddressSpace) (terms : Terms)
    (time page : Nat) (state : Hosted AddressSpace) : Prop where
  kept : Kept origin terms time (some page) state
  marks : ((pager origin).entryAt page).SameButMarks
    ((pager state).entryAt page)
  room : (pager state).ledger.residentCount <
    (pager state).ledger.maxResident
  notFull : (pager state).ledger.isFull = false

/-- If memory is full another page leaves, and the one that waits is not
affected. -/
theorem meets_makePlace
    (ready : Ready terms (time + (pager state).turns) (some page) state)
    (isPaging : (pager state).isPaging = true)
    (aligned : Address.pageBase page = page)
    (notFull : (pager state).ledger.isFull = false) :
    ((Action.runIf (pager state).ledger.isResidentFull do
      let _ ← evict).run state).Meets terms.fatal
      (fun _ => Welcomes state terms time page)
      (fun _ after => Kept state terms time (some page) after ∧
        ((pager state).entryAt page).SameButMarks
          ((pager after).entryAt page)) := by
  have sound := ready.sound
  have ceiling := ready.parts.ceiling
  have positive : 0 < (pager state).ledger.maxResident := by
    rw [sound.fits.maxResident_eq]
    exact sound.fits.maxResident_pos isPaging
  refine Action.meets_runIf (fun full => ?_) fun roomy => ?_
  · have residentFull : (pager state).ledger.residentCount =
        (pager state).ledger.maxResident := beq_iff_eq.mp full
    refine Action.meets_bind ((meets_evict ready
      (.inr (sound.freeSlots_ne_zero residentFull notFull))
      (.inr (residentFull ▸ positive))).mono_failed
        fun _ _ unmoved => ⟨unmoved.toKept, unmoved.marks page⟩) ?_
    rintro _ after ⟨kept, spares⟩
    have sameShape := kept.changes.parts.shape
    have room := spares.room
    have notResident : (pager state).residenceOf? (Address.pageBase page) ≠
        some (.resident (Address.pageBase page)) := by
      rw [aligned, Pager.not_tracked_of_pending sound]
      exact fun impossible => nomatch impossible
    refine ⟨kept, spares.marks page notResident, ?_, ?_⟩
    · rw [sameShape.maxResident]
      omega
    · rw [Ledger.isFull, spares.trackedCount, sameShape.ledgerCapacity]
      exact notFull
  · have different : (pager state).ledger.residentCount ≠
        (pager state).ledger.maxResident := fun same =>
      roomy (beq_iff_eq.mpr same)
    exact ⟨(Kept.refl ready).weaken (Nat.le_add_right _ _), .refl _, by omega,
      notFull⟩

/-- The page that waits is tracked at a place that is not in use. -/
theorem meets_settlePending {old : Tracked}
    (welcomes : Welcomes origin terms (time + 1) page state)
    (isPaging : (pager origin).isPaging = true)
    (isValid : ((pager origin).entryAt page).isValid = true)
    (aligned : Address.pageBase page = page)
    (place : (pager state).ledger.places[handle]? = some old)
    (unused : old.residence = .free) :
    (Action.run (do
      settleResident handle page
      updateEntry page fun entry =>
        (entry.remove { pagedOut := true }).insert { valid := true })
      state).Meets terms.fatal
      (fun _ => Kept origin terms time none) failed := by
  obtain ⟨kept, marks, room, _⟩ := welcomes
  have sound := kept.ready.sound
  have missing := sound.ledger.residenceOf?_eq_none_iff.mp
    (Pager.not_tracked_of_pending sound)
  have moves := Pager.settles_settled sound
    (kept.changes.parts.shape.isPaging.trans isPaging)
    (marks.isValid.trans isValid) aligned place unused
  have settledReady := kept.ready.parts.settles moves
    (Nat.succ_le_of_lt room) rfl
  have settledPlace : ((pager state).settled handle page
      old).ledger.places[handle]? =
        some { old with residence := .resident page } := by
    obtain ⟨within, _⟩ := Array.getElem?_eq_some_iff.mp place
    exact (Ledger.getElem?_places_put _).trans (if_pos ⟨rfl, within⟩)
  refine Action.meets_bind (meets_settleResident
    (Ledger.markResident_of_free room place unused missing) moves.ledger
    settledPlace fun policy late => ?_) ?_
  · exact settledReady.overflow_of_le policy (by omega) (by
      change _ ≤ (pager state).ledger.generation + (time + 1)
      change _ ≤ (pager state).ledger.generation + 1 at late
      omega)
  rintro _ settled ⟨ledger, ranks, settles⟩
  refine (meets_updateEntry _).mono_done fun _ updated updates => ?_
  rw [settles.parts] at updates
  have whole := settles.trans updates
  have refreshes : ((pager state).settled handle page old).Refreshes
      ((pager state).settled handle page old).table ledger 1 :=
    .of_ranks ranks
  refine ⟨kept.ready.becomes whole (settledReady.refresh refreshes), ?_⟩
  exact kept.changes.becomes whole fun keeps =>
    keeps.trans ((moves.keeps sound).trans refreshes.keeps)

/-- A page that was mapped and is not tracked comes to be tracked, with another
one evicted if memory is full.  If that fails the page is still there and not
tracked. -/
theorem meets_track
    (ready : Ready terms (time + ((pager state).turns + 1))
      (some page) state)
    (isPaging : (pager state).isPaging = true)
    (isValid : ((pager state).entryAt page).isValid = true)
    (aligned : Address.pageBase page = page) :
    ((track page).run state).Meets terms.fatal
      (fun _ => Kept state terms time none)
      (fun _ after => Kept state terms time (some page) after ∧
        ((pager state).entryAt page).SameButMarks
          ((pager after).entryAt page)) := by
  have isPresent := Pager.isPresent_of_isValid isValid
  have found : state.focus.table.get? page =
      some ((pager state).entryAt page) :=
    PageTable.get?_of_isPresent isPresent
  have looked : (look AddressSpace.ledger).run state =
      .done (pager state).ledger state := rfl
  rw [track,
    Action.run_bind_of_done
      (run_lookup_of_lt (ready.sound.page_lt page isPresent)),
    found, Action.run_bind_of_done (Action.run_orCrash_some _ _ _),
    Action.run_bind_of_done
      (by rw [Action.run_crashUnless, if_pos isValid]),
    Action.run_bind_of_done looked]
  refine Action.meets_failUnless_bind
    (fun _ => ⟨(Kept.refl ready).weaken (by omega), .refl _⟩)
    fun isNotFull => ?_
  have notFull : (pager state).ledger.isFull = false :=
    (Bool.not_eq_true' _).mp isNotFull
  have prepared : Ready terms (time + 1 + (pager state).turns) (some page)
      state := ready.weaken (by omega)
  refine Action.meets_bind ((meets_makePlace prepared isPaging aligned
    notFull).mono_failed fun _ _ ⟨kept, marks⟩ =>
      ⟨kept.weaken (Nat.le_succ _), marks⟩) fun _ middle welcomes => ?_
  obtain ⟨handle, old, reserved, place, unused⟩ :=
    welcomes.kept.ready.sound.ledger.reserve_of_not_isFull welcomes.notFull
  have reserves : (onLedger (Action.read Ledger.reserve)).run middle =
      .done (some handle) middle := by
    rw [← reserved]
    rfl
  rw [Action.run_bind_of_done reserves,
    Action.run_bind_of_done (Action.run_orCrash_some _ _ _)]
  exact meets_settlePending welcomes isPaging isValid aligned place unused

/-- A page that was just mapped is tracked if the space is under paging. -/
theorem meets_enroll
    (ready : Ready terms (time + ((pager state).turns + 1))
      (some page) state)
    (isValid : ((pager state).entryAt page).isValid = true)
    (aligned : Address.pageBase page = page) :
    ((enroll page).run state).Meets terms.fatal
      (fun _ after => Kept state terms time none after ∧
        ((pager state).isPaging = false → after = state))
      (fun _ after => Kept state terms time (some page) after ∧
        ((pager state).entryAt page).SameButMarks
          ((pager after).entryAt page)) := by
  have looked : (look isPaging).run state =
      .done (pager state).isPaging state := rfl
  rw [enroll, Action.run_bind_of_done looked]
  refine Action.meets_runIf (fun isPaging =>
    (meets_track ready isPaging isValid aligned).mono_done
      fun _ _ kept => ⟨kept, fun notPaging => ?_⟩)
    fun notPaging => ?_
  · cases isPaging.symm.trans notPaging
  have settled := ready.parts.sound.unpend (Bool.eq_false_iff.mpr notPaging)
  refine ⟨⟨⟨ready.served, ?_⟩, .refl state⟩, fun _ => rfl⟩
  exact { ready.parts.weaken (Nat.le_add_right time _) with sound := settled }

end AddressSpace

end DemandPaging
