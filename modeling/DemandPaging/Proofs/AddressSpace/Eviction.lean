import DemandPaging.Proofs.AddressSpace.Ready
import DemandPaging.Proofs.Pager.Eviction

/-!
# Evictions as operations

What an eviction leaves is a `Pager.Eviction`, and if the transfer fails it
leaves the page where it was.  A page that is in memory always has an entry
that says so, so nothing but a missing slot, a missing page or a clock that
runs out can end the run.
-/

namespace DemandPaging

namespace AddressSpace

open Pager (Terms Keeps Borrows Confined)

variable {Result : Type} {origin state middle after : Hosted AddressSpace}
  {terms : Terms} {time : Nat} {pending spare : Option Nat} {slot : Nat}
  {before : Pager} {swap : SwapSpace} {fatal : Fatal → Prop}
  {failed : PagingError → Hosted AddressSpace → Prop}

/-- A transfer that fails is undone; that it is counted and reported does not
matter. -/
theorem meets_transfer {action : Action SwapDevice Result}
    {undo : SpaceAction Unit} {failure : TransferError → Event}
    {done : Result → Hosted AddressSpace → Prop}
    {broken : PagingError → Hosted AddressSpace → Prop}
    (restored : Hosted AddressSpace → Prop)
    (meets : ((onDevice action).run state).Meets fatal done broken)
    (undone : ∀ error middle, broken error middle →
      (undo.run middle).Meets fatal (fun _ => restored) fun _ => restored)
    (stable : ∀ before after, restored before →
      Becomes before (pager before) after → restored after) :
    ((transfer action undo failure).run state).Meets fatal done
      fun _ => restored := by
  refine Action.meets_onFailure meets fun error middle isBroken => ?_
  refine Action.meets_bind (undone error middle isBroken) fun _ undid isUndone => ?_
  refine Action.meets_bind (meets_count _) fun _ counted becomes => ?_
  have isRestored := stable _ _ isUndone becomes
  cases error with
  | swapTransfer failed =>
      refine (meets_report _).mono_done fun _ after reports => ?_
      exact stable _ _ isRestored reports
  | _ => exact isRestored

/-- A policy finds a victim as long as a page is resident. -/
theorem meets_selectVictim
    (parts : pager state = { before with swap })
    (ready : before.Ready terms (time + before.turns) pending)
    (occupied : terms.IsLax ∨ 0 < before.ledger.residentCount) :
    (selectVictim.run state).Meets terms.fatal
      (fun handle after => ∃ table ledger page recency,
        before.Refreshes table ledger before.turns ∧
        ledger.places[handle]? = some ⟨.resident page, recency⟩ ∧
        Becomes state { before with swap, table, ledger } after) failed := by
  have samePolicy : state.focus.config.policy = before.config.policy :=
    congrArg (fun parts : Pager => parts.config.policy) parts
  have sameLedger : (pager state).ledger = before.ledger := by rw [parts]
  have sameTable : (pager state).table = before.table := by rw [parts]
  have sound := ready.sound
  have length := sound.ledger.length_residents
  have occupancy := sound.residentCount_le_turns ready.ceiling
  obtain ⟨cause, refused, reason⟩ |
      ⟨victim, ledger, table, chosen, chooses⟩ :=
    Pager.select_cases sound before.config.policy
  · rw [← sameLedger, ← sameTable, ← samePolicy] at refused
    rw [selectVictim, Action.run_bind_of_fatal (run_onPolicy_of_error refused)]
    -- Without a resident page there is no victim, and with one the space pages.
    have resident : 0 < before.ledger.residentCount →
        before.ledger.residents ≠ [] ∧
          before.config.policy.isPaging = true := by
      intro positive
      rw [← length] at positive
      obtain ⟨resident, member⟩ := List.exists_mem_of_length_pos positive
      have known := sound.ledger.residenceOf?_of_resident
        (Ledger.mem_residents_iff.mp member) rfl
      exact ⟨List.ne_nil_of_mem member,
        sound.fits.isPaging_policy (sound.tracked _ _ known).1⟩
    rcases occupied with lax | positive
    · exact lax cause
    · obtain ⟨isOccupied, pages⟩ := resident positive
      rcases reason with isEmpty | isOff | ⟨rfl, policy, late⟩
      · exact absurd isEmpty isOccupied
      · rw [pages] at isOff
        cases isOff
      · refine ready.overflow_of_le policy (by omega) (Nat.le_trans late ?_)
        omega
  · rw [← sameLedger, ← sameTable, ← samePolicy] at chosen
    obtain ⟨page, recency, place⟩ := chooses.resident
    have refreshes := chooses.refreshes.mono (length.trans_le occupancy)
    refine Action.meets_bind (meets_onPolicy chosen) ?_
    rintro _ selected ⟨rfl, becomes⟩
    rw [parts] at becomes
    refine Action.meets_bind (meets_reportAll _) fun _ reported reports => ?_
    refine Action.meets_bind (meets_count _) fun _ counted counts => ?_
    have whole := (becomes.trans reports).trans counts
    rw [reports.parts, becomes.parts] at whole
    exact ⟨table, ledger, page, recency, refreshes, place, whole⟩

/-- Where an eviction puts the page, and what that leaves of the slots before
the transfer. -/
def IsTarget (swap : SwapSpace) (spare : Option Nat) (slot : Nat)
    (target : SwapSpace) : Prop :=
  (spare = none ∧ swap.used[slot]? = some false ∧ target = swap.take slot) ∨
    (spare = some slot ∧ target = swap)

theorem meets_targetSlot (ready : Ready terms time pending state)
    (spare : Option Nat)
    (room : spare = none →
      terms.IsLax ∨ (pager state).swap.freeSlots ≠ 0)
    (claimed : ∀ slot, spare = some slot →
      (pager state).swap.isClaimed slot = true) :
    ((targetSlot spare).run state).Meets terms.fatal
      (fun slot after => ∃ target,
        IsTarget (pager state).swap spare slot target ∧
        (terms.IsLax ∨ slot ≤ addressLimit / pageSize) ∧
        Becomes state { pager state with swap := target } after) failed := by
  cases spare with
  | some slot =>
      refine ⟨_, .inr ⟨rfl, rfl⟩, ?_, .refl state, rfl⟩
      exact ready.parts.strict.imp_right fun strict =>
        strict.slot_le slot (claimed slot rfl)
  | none =>
      cases claims : (pager state).swap.claim with
      | mk found target =>
          refine Action.meets_bind (meets_stepSlots
            (congrArg Except.ok claims)) ?_
          · rintro given after ⟨rfl, becomes⟩
            cases given with
            | none =>
                rcases room rfl with lax | isFree
                · exact lax .swapFull
                · obtain ⟨slot, _, claimed⟩ :=
                    SwapSpace.claim_of_freeSlots ready.sound.swap isFree
                  cases claims.symm.trans claimed
            | some slot =>
                have low := ready.sound.slot_le_of_claim claims
                obtain ⟨isFree, _, rfl⟩ :=
                  SwapSpace.claim_eq_some_iff.mp claims
                exact ⟨_, .inl ⟨rfl, isFree, rfl⟩, .inr low, becomes⟩

/-- Besides marks and recencies nothing changed since `origin`. -/
structure Unmoved (origin : Hosted AddressSpace) (terms : Terms) (time : Nat)
    (pending : Option Nat) (state : Hosted AddressSpace) : Prop extends
    Kept origin terms time pending state where
  marks : ∀ address, ((pager origin).entryAt address).SameButMarks
    ((pager state).entryAt address)

theorem Unmoved.unchanged (unmoved : Unmoved origin terms time pending state)
    (becomes : Becomes state (pager state) after) :
    Unmoved origin terms time pending after where
  toKept := unmoved.toKept.unchanged becomes
  marks address := by
    rw [becomes.parts]
    exact unmoved.marks address

/-- A page that is in memory, in a frame that is lent, is fit to leave. -/
theorem run_readVictim_of_isValid (served : IsServed state) {page : Nat}
    {entry : Entry} {contents : Page} (inside : page < addressLimit)
    (found : (pager state).table.get? page = some entry)
    (isValid : entry.isValid = true) (notPagedOut : entry.isPagedOut = false)
    (lent : (pager state).frames.contents? entry.address = some contents)
    (rest : Entry → Page → SpaceAction Result) :
    (Action.run (do
      let entry ← Action.orCrash (.victimEntry page none) (← lookup page)
      Action.crashUnless (entry.isValid && !entry.isPagedOut)
        (.victimEntry page (some entry))
      let contents ← readFrame entry.address
      rest entry contents) state) = (rest entry contents).run state := by
  have held : state.focus.table.get? page = some entry := found
  have accepted : (entry.isValid && !entry.isPagedOut) = true := by
    rw [isValid, notPagedOut]
    rfl
  rw [Action.run_bind_of_done (run_lookup_of_lt inside), held,
    Action.run_bind_of_done (Action.run_orCrash_some _ _ _),
    Action.run_bind_of_done (by rw [Action.run_crashUnless, if_pos accepted]),
    Action.run_bind_of_done (run_readFrame served lent)]

/-- The slot of a page that did not leave goes back if it was claimed for
it. -/
theorem meets_returnTarget
    (isTarget : IsTarget swap spare slot (pager state).swap) :
    ((Action.runIf spare.isNone (releaseSlot slot)).run state).Meets fatal
      (fun _ => Becomes state { pager state with swap }) failed := by
  rcases isTarget with ⟨rfl, isFree, taken⟩ | ⟨rfl, same⟩
  · refine Action.meets_runIf (fun _ => meets_releaseSlot ?_)
      fun notNone => absurd rfl notNone
    rw [taken]
    exact SwapSpace.release_take isFree
  · refine Action.meets_runIf (fun isNone => nomatch isNone)
      fun _ => ⟨.refl state, ?_⟩
    rw [← same]

/-- What the victim leaves behind once its bytes are in the file. -/
theorem meets_moveOut {ticks : Nat} {target : SwapSpace}
    (served : IsServed state)
    (eviction : before.Eviction ticks slot target)
    (parts : pager state = { before with
      table := eviction.table
      ledger := eviction.ledger
      swap := { target with file := eviction.file } }) :
    (Action.run (do
      updateEntry eviction.page fun entry => Entry.pagedOut entry.flags
      releaseFrame (eviction.table.entryAt eviction.page).address
      onLedger (Action.change fun ledger =>
        ledger.markSwapped eviction.handle eviction.page slot)
      count fun stats => { stats with evictions := stats.evictions + 1 }
      Hosted.report (.evicted eviction.page slot)
      return eviction.handle) state).Meets fatal
      (fun _ => Becomes state eviction.after) failed := by
  refine Action.meets_bind (meets_updateEntry _) fun _ updated updates => ?_
  rw [parts] at updates
  have releases : (pager updated).frames.release
      (eviction.table.entryAt eviction.page).address = .ok eviction.frames := by
    rw [updates.parts]
    exact eviction.released
  refine Action.meets_bind (meets_changeFrames
    (served.of_stays updates.stays) releases) fun _ freed frees => ?_
  have toFreed := updates.trans frees
  rw [updates.parts] at toFreed
  have swaps : (pager freed).ledger.markSwapped eviction.handle eviction.page
      slot = .ok eviction.after.ledger := by
    rw [toFreed.parts]
    exact Ledger.markSwapped_of_resident eviction.place rfl
  refine Action.meets_bind (meets_changeLedger swaps) fun _ marked marks => ?_
  have toMarked := toFreed.trans marks
  rw [toFreed.parts] at toMarked
  refine Action.meets_bind (meets_count _) fun _ counted counts => ?_
  refine Action.meets_bind (meets_report _) fun _ reported reports => ?_
  have whole := (toMarked.trans counts).trans reports
  rw [counts.parts, toMarked.parts] at whole
  exact whole

/-- An eviction leaves what it says, and if it fails the page stays. -/
theorem meets_evictInto
    (ready : Ready terms (time + (pager state).turns) pending state)
    (spare : Option Nat)
    (room : spare = none →
      terms.IsLax ∨ (pager state).swap.freeSlots ≠ 0)
    (claimed : ∀ slot, spare = some slot →
      (pager state).swap.isClaimed slot = true)
    (occupied : terms.IsLax ∨ 0 < (pager state).ledger.residentCount) :
    ((evictInto spare).run state).Meets terms.fatal
      (fun _ after => ∃ slot target,
        ∃ eviction : (pager state).Eviction
          (pager state).turns slot target,
        IsTarget (pager state).swap spare slot target ∧
        (terms.IsLax ∨ slot ≤ addressLimit / pageSize) ∧
        Becomes state eviction.after after)
      (fun _ => Unmoved state terms time pending) := by
  unfold evictInto
  refine Action.meets_bind (meets_targetSlot ready spare room claimed) ?_
  rintro slot targeted ⟨target, isTarget, low, targets⟩
  refine Action.meets_bind
    (meets_selectVictim targets.parts ready.parts occupied) ?_
  rintro handle selected
    ⟨table, ledger, page, recency, refreshes, place, selects⟩
  have toSelected := targets.trans selects
  have readyChosen := ready.parts.refresh refreshes
  have soundChosen := readyChosen.sound
  -- The victim is resident, so its entry is valid and its frame is lent.
  have known := soundChosen.ledger.residenceOf?_of_resident place rfl
  obtain ⟨_, _, _, isValid, notPagedOut⟩ := soundChosen.tracked page _ known
  have isPresent := Pager.isPresent_of_isValid isValid
  obtain ⟨contents, lent⟩ := soundChosen.framed page isValid
  obtain ⟨frames, released, _⟩ := FramePool.release_of_contents? lent
  have parts := toSelected.parts
  have isThere : selected.focus.ledger.get handle =
      .ok ⟨.resident page, recency⟩ := by
    have sameLedger : selected.focus.ledger = ledger :=
      congrArg Pager.ledger parts
    rw [sameLedger]
    exact Ledger.get_eq_ok_iff.mpr place
  rw [Action.run_bind_of_done (run_inspectLedger isThere)]
  dsimp only [Tracked.address, Residence.address]
  rw [run_readVictim_of_isValid (ready.served.of_stays toSelected.stays)
    (soundChosen.page_lt page isPresent)
    (by rw [parts]; exact PageTable.get?_of_isPresent isPresent)
    isValid notPagedOut (by rw [parts]; exact lent)]
  refine Action.meets_bind
    (meets_transfer (Unmoved state terms time pending)
      (meets_storeSlot (Vector.length_toList ..) fun late => ?_)
      (fun _ unstored unstores => ?_)
      fun _ _ unmoved becomes => unmoved.unchanged becomes) ?_
  · rcases low with lax | low
    · exact lax .overflow
    · exact absurd (Pager.offset_lt low) (Nat.not_lt.mpr late)
  · -- The slot is as it was, and what is left is the choice.
    have toUnstored := toSelected.trans unstores
    rw [parts] at toUnstored
    have atTarget : target = (pager unstored).swap := by rw [toUnstored.parts]
    rw [atTarget] at isTarget
    refine (meets_returnTarget isTarget).mono_done fun _ after returns => ?_
    have becomes := toUnstored.trans returns
    rw [toUnstored.parts] at becomes
    refine ⟨⟨ready.becomes becomes readyChosen,
      .of_becomes becomes refreshes.keeps⟩, fun address => ?_⟩
    rw [becomes.parts]
    exact refreshes.marks address
  · rintro _ stored ⟨file, written, stores⟩
    have toStored := toSelected.trans stores
    rw [parts] at written toStored
    let eviction : (pager state).Eviction (pager state).turns slot target :=
      { handle, page, recency, table, ledger, contents, file, frames,
        refreshes, place, lent, written, released }
    refine (meets_moveOut (ready.served.of_stays toStored.stays) eviction
      toStored.parts).mono_done fun _ after moves => ?_
    exact ⟨slot, target, eviction, isTarget, low, toStored.trans moves⟩

/-- An eviction to a new slot is not noticed, and leaves room in memory. -/
theorem meets_evict
    (ready : Ready terms (time + (pager state).turns) pending state)
    (room : terms.IsLax ∨ (pager state).swap.freeSlots ≠ 0)
    (occupied : terms.IsLax ∨ 0 < (pager state).ledger.residentCount) :
    (evict.run state).Meets terms.fatal
      (fun _ after => Kept state terms time pending after ∧
        (pager state).Spares (pager after))
      (fun _ => Unmoved state terms time pending) := by
  refine (meets_evictInto ready none (fun _ => room) (fun _ impossible =>
    nomatch impossible) occupied).mono_done ?_
  rintro _ after ⟨slot, target, eviction, isTarget, low, becomes⟩
  rcases isTarget with ⟨_, isFree, rfl⟩ | ⟨impossible, _⟩
  · refine ⟨⟨ready.becomes becomes
      (eviction.ready_after isFree ready.parts low),
      .of_becomes becomes (eviction.keeps ready.sound isFree)⟩, ?_⟩
    rw [becomes.parts]
    exact eviction.spares ready.sound
  · cases impossible

end AddressSpace

end DemandPaging
