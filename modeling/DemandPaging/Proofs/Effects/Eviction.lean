import DemandPaging.Proofs.Effects.Chances
import DemandPaging.Proofs.Effects.Steps

/-!
# Evictions to the letter

An eviction that succeeds has a slot, a victim that the policy chose, and a
frame to give back; one whose transfer fails has all but the last.  These data
(`Candidate`, `Departure`) determine the state that is left.  Nothing is asked
of the space here: where an eviction cannot go on, the run ends, and
`EvictionEnds` says for what reasons that may be.
-/

namespace DemandPaging

namespace AddressSpace

variable {Result : Type} {state expected middle : Hosted AddressSpace}
  {spare : Option Nat} {fatal : Fatal → Prop}
  {failed : PagingError → Hosted AddressSpace → Prop}

/-- Where a page that leaves memory goes: to the slot at hand, or to the one
that is claimed for it.  Either way `target` has the slots from then on. -/
def Targets (swap : SwapSpace) (slot : Nat) (target : SwapSpace) :
    (spare : Option Nat) → Prop
  | some given => slot = given ∧ target = swap
  | none => swap.claim = (some slot, target)

/-- The entry of the page and its frame are such that the page can leave. -/
structure CanLeave (frames : FramePool) (table : PageTable) (page : Nat)
    (entry : Entry) (contents : Page) : Prop where
  inside : page < addressLimit
  found : table.get? page = some entry
  isValid : entry.isValid = true
  notPagedOut : entry.isPagedOut = false
  lent : frames.contents? entry.address = some contents

/-- A page that is about to leave memory: the slot it goes to, the choice of
the policy with what it left of ledger and table, and the frame it is in. -/
structure Candidate (state : Hosted AddressSpace) (spare : Option Nat) where
  slot : Nat
  target : SwapSpace
  victim : Victim
  ledger : Ledger
  table : PageTable
  page : Nat
  recency : Nat
  entry : Entry
  contents : Page
  targets : Targets state.focus.swap slot target spare
  selects : state.focus.config.policy.select state.focus.ledger
    state.focus.table = .ok (victim, ledger, table)
  place : ledger.places[victim.handle]? = some ⟨.resident page, recency⟩
  canLeave : CanLeave (state.host.pool state.focus.pool) table page entry
    contents

namespace Candidate

/-- The space once its page is chosen. -/
def chosen (candidate : Candidate state spare) : Hosted AddressSpace :=
  withSpace state fun space => { space with
    table := candidate.table
    ledger := candidate.ledger
    swap := candidate.target
    stats := { space.stats with
      secondChances :=
        space.stats.secondChances + candidate.victim.spared.length } }

/-- The space once the transfer failed. -/
def refused (candidate : Candidate state spare) : Hosted AddressSpace :=
  withSpace state fun space => { space with
    table := candidate.table
    ledger := candidate.ledger
    stats := { space.stats with
      secondChances :=
        space.stats.secondChances + candidate.victim.spared.length
      swapErrors := space.stats.swapErrors + 1 } }

end Candidate

/-- A page that left memory: its bytes are in the file, and its frame went back
to the pool. -/
structure Departure (state : Hosted AddressSpace) (spare : Option Nat) extends
    Candidate state spare where
  file : SwapFile
  frames : FramePool
  written : target.file.write (slot * pageSize) contents.toList = .ok file
  released : (state.host.pool state.focus.pool).release entry.address =
    .ok frames

namespace Departure

/-- The ledger once the page has left. -/
def marked (departure : Departure state spare) : Ledger :=
  { departure.ledger.put departure.victim.handle
      ⟨.swapped departure.page departure.slot, departure.recency⟩ with
    residentCount := departure.ledger.residentCount - 1
    swappedCount := departure.ledger.swappedCount + 1 }

/-- The space once the page has left. -/
def after (departure : Departure state spare) : Hosted AddressSpace :=
  withFrames (withSpace state fun space => { space with
    table := departure.table.update departure.page fun entry =>
      Entry.pagedOut entry.flags
    ledger := departure.marked
    swap := { departure.target with file := departure.file }
    stats := { space.stats with
      secondChances :=
        space.stats.secondChances + departure.victim.spared.length
      evictions := space.stats.evictions + 1 } }) departure.frames

end Departure

/-- Why an eviction may end the run: no slot is free, the policy finds no
victim, the entry or the frame of the victim is not as it should be, or the slot
is beyond what a word can address. -/
inductive EvictionEnds (state : Hosted AddressSpace) (spare : Option Nat) :
    Fatal → Prop where
  | full (isNone : spare = none) (taken : state.focus.swap.claim.1 = none) :
      EvictionEnds state spare .swapFull
  | refused {cause : Fatal}
      (refuses : state.focus.config.policy.select state.focus.ledger
        state.focus.table = .error cause) : EvictionEnds state spare cause
  | unfit {cause : Fatal} {victim : Victim} {ledger : Ledger}
      {table : PageTable} {page recency : Nat}
      (selects : state.focus.config.policy.select state.focus.ledger
        state.focus.table = .ok (victim, ledger, table))
      (place : ledger.places[victim.handle]? =
        some ⟨.resident page, recency⟩)
      (stuck : ∀ entry contents,
        ¬CanLeave (state.host.pool state.focus.pool) table page entry
          contents) :
      EvictionEnds state spare cause
  | beyond (candidate : Candidate state spare)
      (large : Word.limit ≤ candidate.slot * pageSize) :
      EvictionEnds state spare .overflow

theorem resembles_targetSlot (same : Resembles expected state)
    (spare : Option Nat) :
    ((targetSlot spare).run state).Meets (EvictionEnds expected spare)
      (fun slot after => ∃ target,
        Targets expected.focus.swap slot target spare ∧
        Resembles (withSpace expected fun space =>
          { space with swap := target }) after) failed := by
  cases spare with
  | some slot => exact ⟨_, ⟨rfl, rfl⟩, same⟩
  | none =>
      cases claims : expected.focus.swap.claim with
      | mk found target =>
          have steps : (onSlots (Action.step fun swap =>
              .ok swap.claim)).run state = .done found
                (withSpace state fun space =>
                  { space with swap := target }) := by
            rw [← same.focus] at claims
            rw [onSlots, Action.run_zoom,
              Action.run_step_of_ok (congrArg Except.ok claims)]
            rfl
          rw [targetSlot, claimSlot, Action.run_bind_of_done steps]
          cases found with
          | none => exact .full rfl (congrArg Prod.fst claims)
          | some slot =>
              exact ⟨target, claims, resembles_withSpace same fun space =>
                { space with swap := target }⟩

theorem resembles_selectVictim (same : Resembles expected state)
    (refused : ∀ cause, expected.focus.config.policy.select
      expected.focus.ledger expected.focus.table = .error cause →
        fatal cause) :
    (selectVictim.run state).Meets fatal
      (fun handle after => ∃ victim ledger table,
        expected.focus.config.policy.select expected.focus.ledger
          expected.focus.table = .ok (victim, ledger, table) ∧
        handle = victim.handle ∧
        Resembles (withSpace expected fun space => { space with
          ledger, table
          stats := { space.stats with
            secondChances :=
              space.stats.secondChances + victim.spared.length } }) after)
      failed := by
  cases chosen : expected.focus.config.policy.select expected.focus.ledger
      expected.focus.table with
  | error cause =>
      rw [selectVictim, Action.run_bind_of_fatal (run_onPolicy_of_error (by
        change Policy.select state.focus.config.policy state.focus.ledger
          state.focus.table = _
        rw [same.focus]
        exact chosen))]
      exact refused cause chosen
  | ok found =>
      obtain ⟨victim, ledger, table⟩ := found
      rw [selectVictim]
      refine Action.meets_bind (resembles_onPolicy same chosen) ?_
      rintro _ selected ⟨rfl, selects⟩
      refine Action.meets_bind (resembles_reportAll selects _)
        fun _ _ reported => ?_
      refine Action.meets_bind (resembles_count reported _)
        fun _ _ counted => ?_
      exact ⟨_, ledger, table, rfl, rfl, counted⟩

theorem release_of_targets {swap target : SwapSpace} {slot : Nat}
    (targets : Targets swap slot target none) :
    target.release slot = .ok swap := by
  obtain ⟨isFree, _, rfl⟩ := SwapSpace.claim_eq_some_iff.mp targets
  exact SwapSpace.release_take isFree

/-- The entry and the frame of the victim are looked at, and the run ends if
the page cannot leave. -/
theorem run_readVictim (state : Hosted AddressSpace) (page : Nat)
    (rest : Entry → Page → SpaceAction Result) :
    (∃ cause, (Action.run (do
        let entry ← Action.orCrash (.victimEntry page none) (← lookup page)
        Action.crashUnless (entry.isValid && !entry.isPagedOut)
          (.victimEntry page (some entry))
        let contents ← readFrame entry.address
        rest entry contents) state) = .fatal cause ∧
      ∀ entry contents, ¬CanLeave (state.host.pool state.focus.pool)
        state.focus.table page entry contents) ∨
    ∃ entry contents, CanLeave (state.host.pool state.focus.pool)
        state.focus.table page entry contents ∧
      (Action.run (do
        let entry ← Action.orCrash (.victimEntry page none) (← lookup page)
        Action.crashUnless (entry.isValid && !entry.isPagedOut)
          (.victimEntry page (some entry))
        let contents ← readFrame entry.address
        rest entry contents) state) = (rest entry contents).run state := by
  by_cases inside : page < addressLimit
  case neg =>
    refine .inl ⟨.walkBeyondLimit page, ?_, fun _ _ can =>
      inside can.inside⟩
    rw [Action.run_bind_of_fatal
      (run_lookup_of_le (Nat.le_of_not_lt inside))]
  rw [Action.run_bind_of_done (run_lookup_of_lt inside)]
  cases found : state.focus.table.get? page with
  | none =>
      refine .inl ⟨_, rfl, fun _ _ can => ?_⟩
      cases found.symm.trans can.found
  | some entry =>
      rw [Action.run_bind_of_done (Action.run_orCrash_some _ _ _)]
      by_cases accepted : (entry.isValid && !entry.isPagedOut) = true
      case neg =>
        refine .inl ⟨_, Action.run_bind_of_fatal
          (by rw [Action.run_crashUnless, if_neg accepted]), ?_⟩
        intro _ _ can
        cases found.symm.trans can.found
        rw [can.isValid, can.notPagedOut] at accepted
        exact accepted rfl
      rw [Action.run_bind_of_done
        (by rw [Action.run_crashUnless, if_pos accepted])]
      obtain ⟨isValid, notPagedOut⟩ := Bool.and_eq_true_iff.mp accepted
      cases held : (state.host.pool state.focus.pool).read
          entry.address with
      | ok contents =>
          have lent := FramePool.contents?_eq_some_iff.mpr held
          refine .inr ⟨entry, contents, ⟨inside, found, isValid,
            (Bool.not_eq_true' _).mp notPagedOut, lent⟩, ?_⟩
          rw [Action.run_bind_of_done
            (run_readFrame (isServed_of_contents? lent) lent)]
      | error cause =>
          refine .inl ⟨cause, Action.run_bind_of_fatal ?_, ?_⟩
          · have refused : (Action.inspect fun pool : FramePool =>
                pool.read entry.address).run
                  (state.host.pool state.focus.pool) = .fatal cause :=
              Action.run_inspect_of_error held
            rw [readFrame, onFrames, Action.run_zoom, refused]
          · intro _ _ can
            cases found.symm.trans can.found
            cases held.symm.trans
              (FramePool.contents?_eq_some_iff.mp can.lent)

/-- What the victim leaves behind once its bytes are in the file. -/
theorem resembles_moveOut (candidate : Candidate state spare)
    {file : SwapFile}
    (written : candidate.target.file.write (candidate.slot * pageSize)
      candidate.contents.toList = .ok file)
    (stored : Resembles (withSpace candidate.chosen fun space =>
      { space with swap := { space.swap with file } }) middle) :
    (Action.run (do
      updateEntry candidate.page fun entry => Entry.pagedOut entry.flags
      releaseFrame candidate.entry.address
      onLedger (Action.change fun ledger =>
        ledger.markSwapped candidate.victim.handle candidate.page
          candidate.slot)
      count fun stats => { stats with evictions := stats.evictions + 1 }
      Hosted.report (.evicted candidate.page candidate.slot)
      return candidate.victim.handle) middle).Meets fatal
      (fun handle after => ∃ departure : Departure state spare,
        handle = departure.victim.handle ∧ Resembles departure.after after)
      failed := by
  obtain ⟨frames, released, _⟩ :=
    FramePool.release_of_contents? candidate.canLeave.lent
  refine Action.meets_bind (resembles_updateEntry stored _)
    fun _ _ updated => ?_
  refine Action.meets_bind (resembles_changeFrames updated released)
    fun _ _ freed => ?_
  refine Action.meets_bind (resembles_changeLedger freed
    (Ledger.markSwapped_of_resident candidate.place rfl))
    fun _ _ swapped => ?_
  refine Action.meets_bind (resembles_count swapped _) fun _ _ counted => ?_
  refine Action.meets_bind (resembles_report counted _)
    fun _ _ reported => ?_
  exact ⟨{ candidate with file, frames, written, released }, rfl,
    reported.focus, reported.pools⟩

/-- What an eviction leaves. -/
theorem resembles_evictInto (same : Resembles expected state)
    (spare : Option Nat) :
    ((evictInto spare).run state).Meets (EvictionEnds expected spare)
      (fun handle after => ∃ departure : Departure expected spare,
        handle = departure.victim.handle ∧ Resembles departure.after after)
      (fun error after => ∃ candidate : Candidate expected spare,
        (∃ failure, error = .swapTransfer failure) ∧
          Resembles candidate.refused after) := by
  rw [evictInto]
  refine Action.meets_bind (resembles_targetSlot same spare) ?_
  rintro slot targeted ⟨target, targets, claimed⟩
  refine Action.meets_bind (resembles_selectVictim claimed
    fun _ refuses => .refused refuses) ?_
  rintro _ selected ⟨victim, ledger, table, selects, rfl, selecting⟩
  obtain ⟨page, recency, place⟩ := resident_of_select selects
  have isThere : selected.focus.ledger.get victim.handle =
      .ok ⟨.resident page, recency⟩ := by
    rw [selecting.focus]
    exact Ledger.get_eq_ok_iff.mpr place
  rw [Action.run_bind_of_done (run_inspectLedger isThere)]
  dsimp only [Tracked.address, Residence.address]
  have frames : selected.host.pool selected.focus.pool =
      expected.host.pool expected.focus.pool := by
    rw [selecting.pool, selecting.focus]
    rfl
  have sameTable : selected.focus.table = table := by
    rw [selecting.focus]
    rfl
  obtain ⟨cause, ended, stuck⟩ | ⟨entry, contents, canLeave, goesOn⟩ :=
    run_readVictim selected page fun entry contents => do
      transfer (SwapDevice.store slot contents.toList)
        (Action.runIf spare.isNone (releaseSlot slot))
        (Event.evictionFailed page slot)
      updateEntry page fun entry => Entry.pagedOut entry.flags
      releaseFrame entry.address
      onLedger (Action.change fun ledger =>
        ledger.markSwapped victim.handle page slot)
      count fun stats => { stats with evictions := stats.evictions + 1 }
      Hosted.report (.evicted page slot)
      return victim.handle
  · rw [ended]
    rw [frames, sameTable] at stuck
    exact .unfit selects place stuck
  rw [goesOn]
  rw [frames, sameTable] at canLeave
  let candidate : Candidate expected spare :=
    { slot, target, victim, ledger, table, page, recency, entry, contents,
      targets, selects, place, canLeave }
  refine Action.meets_bind_of (fun _ after => ∃ file,
    target.file.write (slot * pageSize) contents.toList = .ok file ∧
      Resembles (withSpace candidate.chosen fun space =>
        { space with swap := { space.swap with file } }) after) ?_ ?_
  · refine (resembles_transfer (withSpace candidate.chosen
      fun space => { space with swap := expected.focus.swap })
      (resembles_store selecting (Vector.length_toList ..) fun large =>
        .beyond candidate large) fun unstored unstores => ?_).mono_failed
      fun error _ refused =>
        ⟨candidate, refused.1, refused.2.focus, refused.2.pools⟩
    cases spare with
    | none =>
        exact Action.meets_runIf (fun _ => resembles_releaseSlot unstores
          (release_of_targets targets)) fun notNone => absurd rfl notNone
    | some given =>
        obtain ⟨_, rfl⟩ := targets
        exact Action.meets_runIf (fun isNone => nomatch isNone)
          fun _ => ⟨unstores.focus, unstores.pools⟩
  · rintro _ stored ⟨file, written, stores⟩
    exact resembles_moveOut candidate written stores

end AddressSpace

end DemandPaging
