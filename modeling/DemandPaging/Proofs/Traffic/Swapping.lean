import DemandPaging.Proofs.Replacement.Residency
import DemandPaging.Proofs.Swap.Contents
import DemandPaging.Proofs.Traffic.Resting
import DemandPaging.UserCopy

/-!
# Pages that leave and pages that come back

A page that leaves claims a slot unless it is given one, and counts as an
eviction once it is in swap; a page that comes back gives its slot up, and
counts once it is in memory.  A transfer that fails is undone: nothing happened
then, except that a page may have left for one that could not come.
-/

namespace DemandPaging

namespace AddressSpace

open Ledger (SameSwap GoesOut ComesBack)

variable {First Second Result : Type} {origin space : AddressSpace}
  {state after : Hosted AddressSpace} {journal : List Passage}
  {spare extra : Int} {mayFail : Prop} {page slot : Nat}

/-- Slots that are claimed are spare at first, and slots that are given up are
missing. -/
theorem Passes.withSwap (passes : Passes origin journal spare space)
    {swap : SwapSpace} (consistent : swap.IsConsistent)
    (inUse : (swap.inUse : Int) = space.swap.inUse + extra) :
    Passes origin journal (spare + extra) { space with swap } where
  isBooked := ⟨passes.isBooked.isPaging, passes.isBooked.ledger, consistent⟩
  evictions := passes.evictions
  pageIns := passes.pageIns
  replays := passes.replays
  slots := by
    have slots := passes.slots
    dsimp only [swappedPages] at slots ⊢
    omega

theorem passes_claimSlot (passes : Passes origin journal spare state.focus) :
    (claimSlot.run state).Meets (fun _ => True)
      (fun _ after => Passes origin journal (spare + 1) after.focus)
      fun _ _ => False := by
  apply Action.meets_bind_of fun found after => found.isSome = true →
    Passes origin journal (spare + 1) after.focus
  · apply Action.meets_zoom_iff.mpr
    rw [Action.run_step_of_ok rfl]
    intro isSome
    obtain ⟨slot, found⟩ := Option.isSome_iff_exists.mp isSome
    obtain ⟨isFree, _, taken⟩ := SwapSpace.claim_eq_some_iff.mp
      (Prod.ext found rfl : state.focus.swap.claim = (some slot, _))
    have claimed : Passes origin journal (spare + 1)
        { state.focus with swap := state.focus.swap.take slot } :=
      passes.withSwap (passes.isBooked.swap.take isFree) rfl
    rw [← taken] at claimed
    exact claimed
  · intro found claimed passed
    cases found with
    | none => trivial
    | some slot => exact passed rfl

theorem passes_targetSlot (held : Option Nat)
    (passes : Passes origin journal spare state.focus) :
    ((targetSlot held).run state).Meets (fun _ => True)
      (fun _ after =>
        Passes origin journal (spare + held.isNone.toNat) after.focus)
      fun _ _ => False := by
  cases held with
  | none => exact passes_claimSlot passes
  | some slot => exact passes.congr (Int.add_zero spare).symm

theorem passes_releaseSlot (slot : Nat)
    (passes : Passes origin journal spare state.focus) :
    ((releaseSlot slot).run state).Meets (fun _ => True)
      (fun _ after => Passes origin journal (spare - 1) after.focus)
      fun _ _ => False := by
  apply Action.meets_zoom_iff.mpr
  cases released : state.focus.swap.release slot with
  | error cause =>
      rw [Action.run_change_of_error released]
      trivial
  | ok swap =>
      rw [Action.run_change_of_ok released]
      have consistent := passes.isBooked.swap
      obtain ⟨isUsed, _⟩ := SwapSpace.release_eq_ok_iff.mp released
      obtain ⟨after, success, kept, _, _, fewer, _⟩ :=
        SwapSpace.release_of_isClaimed consistent
          (SwapSpace.isClaimed_iff.mpr isUsed)
      cases released.symm.trans success
      exact passes.withSwap kept (by omega)

/-- A slot that was claimed for a page is given back if it was. -/
theorem passes_releaseIf (held : Option Nat) (slot : Nat)
    (passes : Passes origin journal (spare + held.isNone.toNat) state.focus) :
    ((Action.runIf held.isNone (releaseSlot slot)).run state).Meets
      (fun _ => True) (fun _ after => Passes origin journal spare after.focus)
      fun _ _ => False := by
  cases held with
  | none =>
      apply (passes_releaseSlot slot passes).mono
      · exact fun _ _ released =>
          released.congr (Int.add_sub_cancel spare 1)
      · exact fun _ _ impossible => impossible
  | some _ => exact passes.congr (Int.add_zero spare)

/-- A transfer that fails is undone, whatever that takes. -/
theorem passes_transfer {action : Action SwapDevice Result}
    {undo : SpaceAction Unit} {failure : TransferError → Event}
    (relates : action.Relates SameSlots True)
    (passes : Passes origin journal spare state.focus)
    (undone : ∀ middle, Passes origin journal spare middle.focus →
      (undo.run middle).Meets (fun _ => True)
        (fun _ after => Passes origin journal extra after.focus)
        fun _ _ => False) :
    ((transfer action undo failure).run state).Meets (fun _ => True)
      (fun _ after => Passes origin journal spare after.focus)
      fun _ after => Passes origin journal extra after.focus := by
  apply Action.meets_onFailure
  · apply (rests_onDevice relates state).mono
    · exact fun _ _ rested => passes.rested rested
    · exact fun _ _ isFailed => passes.rested isFailed.2
  · intro error middle failed
    apply Action.meets_bind (undone middle failed).of_sure
    intro _ restored passed
    apply (rests_count (fun _ => by rfl) fun _ => by rfl).meets_then passed
    intro _ counted still
    cases error with
    | swapTransfer error =>
        exact still.rested fun booked => .refl booked
    | _ => exact still

/-- The ledger and the counters say that something happened to a page. -/
theorem IsBooked.passes_single (booked : IsBooked space) {passage : Passage}
    {ledger : Ledger} {stats : PagingStats} (consistent : ledger.IsConsistent)
    (changes : passage.Changes space.swappedPages ledger.swappedPages)
    (evictions : stats.evictions =
      space.stats.evictions + [passage].countP Passage.isOut)
    (pageIns : stats.pageIns =
      space.stats.pageIns + [passage].countP Passage.isBack)
    (missing : (ledger.swappedPages.card : Int) =
      space.swappedPages.card - spare) :
    Passes space [passage] spare { space with ledger, stats } where
  isBooked := ⟨booked.isPaging, consistent, booked.swap⟩
  evictions := evictions
  pageIns := pageIns
  replays := .single changes
  slots := by
    dsimp only [swappedPages] at missing ⊢
    omega

theorem Passes.goesOut (passes : Passes origin journal spare space)
    {ledger : Ledger} (goes : space.ledger.GoesOut page ledger) :
    Passes origin (journal ++ [.out page]) (spare - 1)
      { space with
        ledger
        stats := { space.stats with
          evictions := space.stats.evictions + 1 } } := by
  have more := congrArg Finset.card goes.swappedPages
  rw [Finset.card_insert_of_notMem goes.not_mem] at more
  exact passes.trans (passes.isBooked.passes_single goes.isConsistent
    ⟨goes.not_mem, goes.swappedPages⟩ rfl rfl
    (by rw [swappedPages]; omega))

theorem Passes.comesBack (passes : Passes origin journal spare space)
    {ledger : Ledger} (comes : space.ledger.ComesBack page ledger) :
    Passes origin (journal ++ [.back page]) (spare + 1)
      { space with
        ledger
        stats := { space.stats with
          pageIns := space.stats.pageIns + 1 } } := by
  have fewer := Finset.card_erase_add_one comes.mem
  rw [← comes.swappedPages] at fewer
  exact passes.trans (passes.isBooked.passes_single comes.isConsistent
    ⟨comes.mem, comes.swappedPages⟩ rfl rfl
    (by rw [swappedPages]; omega))

theorem rests_selectVictim : Rests mayFail selectVictim := by
  apply (rests_onPolicy fun _ _ _ _ _ _ consistent selected =>
    Policy.sameSwap_of_select consistent selected).bind
  intro victim
  apply (rests_reportAll _).bind
  intro _
  apply (rests_count (fun _ => by rfl) fun _ => by rfl).bind
  exact fun _ => Action.relates_pure _

/-- A page goes to swap, or nothing happens. -/
theorem passes_evictInto (held : Option Nat) (booked : IsBooked state.focus) :
    ((evictInto held).run state).Meets (fun _ => True)
      (fun _ after => ∃ page, Passes state.focus [.out page]
        (held.isNone.toNat - 1) after.focus)
      fun _ after => Passes state.focus [] 0 after.focus := by
  rw [evictInto]
  apply Action.meets_bind (passes_targetSlot held (.refl booked)).of_sure
  intro slot targeted passes
  apply rests_selectVictim.meets_then passes
  intro handle chosen passes
  apply (rests_onLedger (Action.relates_inspect _)).meets_then passes
  intro victim inspected passes
  apply (rests_lookup _).meets_then passes
  intro found looked passes
  apply Rests.meets_then (Action.relates_orCrash _ found) passes
  intro entry seen passes
  apply Rests.meets_then (Action.relates_crashUnless _ _) passes
  intro _ checked passes
  apply (rests_readFrame _).meets_then passes
  intro contents read passes
  apply Action.meets_bind (passes_transfer (relates_store slot _) passes
    fun _ failed => passes_releaseIf held slot failed)
  intro _ stored passes
  apply (rests_updateEntry _ _).meets_then passes
  intro _ updated passes
  apply (rests_releaseFrame _).meets_then passes
  intro _ released passes
  apply Action.meets_bind (computed_changeLedger _).of_sure
  rintro _ _ ⟨ledger, marked, rfl⟩
  have gone := passes.goesOut
    (Ledger.goesOut_of_markSwapped passes.isBooked.ledger marked)
  exact ⟨victim.address, gone.congr (by omega)⟩

theorem passes_vacate (held : Option Nat) (booked : IsBooked state.focus) :
    ((do let _ ← evictInto held : SpaceAction Unit).run state).Meets
      (fun _ => True)
      (fun _ after => ∃ page, Passes state.focus [.out page]
        (held.isNone.toNat - 1) after.focus)
      fun _ after => Passes state.focus [] 0 after.focus :=
  Action.meets_bind (passes_evictInto held booked) fun _ _ passes => passes

/-- A page that gets a place for the first time was not in swap. -/
theorem rests_settleNew (page : Nat) (change : Entry → Entry) :
    Rests mayFail (do
      let handle ← onLedger (Action.read Ledger.reserve)
      settleResident (← Action.orCrash (.enrollWithoutPlace page) handle) page
      updateEntry page change) := by
  intro state
  refine Action.meets_bind_of (fun found after =>
    found = state.focus.ledger.reserve ∧ after = state) ⟨rfl, rfl⟩ ?_
  rintro found after ⟨reserved, rfl⟩
  cases found with
  | none => trivial
  | some handle =>
      rw [Action.run_bind_of_done (Action.run_orCrash_some _ _ _)]
      obtain ⟨⟨tracked, held, isFree⟩, _⟩ :=
        Ledger.reserve_eq_some_iff.mp reserved.symm
      apply Action.meets_bind settles_settleResident.of_sure
      rintro _ _ ⟨settled, ledger, settles, loaded, rfl⟩ booked
      have first := Ledger.sameSwap_of_markResident booked.ledger held isFree
        settles
      exact .of_sameSwap booked rfl (first.trans
        (Policy.sameSwap_of_onLoad first.isConsistent loaded)) rfl rfl rfl rfl

/-- If the books are right, one of these journals says what the operation does
to the pages, whether it is done or fails. -/
def Journals (action : SpaceAction Result) (done failed : List Passage → Prop) :
    Prop :=
  ∀ state : Hosted AddressSpace, IsBooked state.focus →
    (action.run state).Meets (fun _ => True)
      (fun _ after => ∃ journal, done journal ∧
        Passes state.focus journal 0 after.focus)
      fun _ after => ∃ journal, failed journal ∧
        Passes state.focus journal 0 after.focus

/-- Nothing happens to the pages but that some are evicted and some are brought
back. -/
def IsTrade (journal : List Passage) : Prop :=
  ∀ passage ∈ journal, passage.isOut = true ∨ passage.isBack = true

/-- At most one page is evicted. -/
def MakesRoom (journal : List Passage) : Prop :=
  journal = [] ∨ ∃ victim, journal = [.out victim]

/-- The page is brought back, once another has left if there is no room. -/
def BringsBack (page : Nat) (journal : List Passage) : Prop :=
  ∃ room, MakesRoom room ∧ journal = room ++ [.back page]

theorem isTrade_nil : IsTrade [] :=
  List.forall_mem_nil _

theorem IsTrade.append {more : List Passage} (first : IsTrade journal)
    (second : IsTrade more) : IsTrade (journal ++ more) := by
  intro passage member
  rcases List.mem_append.mp member with member | member
  · exact first passage member
  · exact second passage member

theorem MakesRoom.isOut (room : MakesRoom journal) :
    ∀ passage ∈ journal, passage.isOut = true := by
  rcases room with rfl | ⟨victim, rfl⟩
  · exact nofun
  · intro passage member
    rw [List.mem_singleton.mp member]
    rfl

theorem MakesRoom.isTrade (room : MakesRoom journal) : IsTrade journal :=
  fun passage member => .inl (room.isOut passage member)

theorem BringsBack.isTrade (brings : BringsBack page journal) :
    IsTrade journal := by
  obtain ⟨room, makes, rfl⟩ := brings
  apply makes.isTrade.append
  intro passage member
  rw [List.mem_singleton.mp member]
  exact .inr rfl

namespace Journals

variable {done failed finished unfinished : List Passage → Prop}

theorem mono {action : SpaceAction Result}
    (journals : Journals action done failed)
    (onDone : ∀ journal, done journal → finished journal)
    (onFailed : ∀ journal, failed journal → unfinished journal) :
    Journals action finished unfinished :=
  fun state booked => (journals state booked).mono
    (fun _ _ ⟨journal, isDone, passes⟩ => ⟨journal, onDone _ isDone, passes⟩)
    fun _ _ ⟨journal, isFailed, passes⟩ =>
      ⟨journal, onFailed _ isFailed, passes⟩

theorem map {action : SpaceAction First} {change : First → Second}
    (journals : Journals action done failed) :
    Journals (change <$> action) done failed :=
  fun state booked => Action.meets_map (journals state booked)

theorem of_rests {action : SpaceAction Result} (rests : Rests mayFail action)
    (isDone : done []) (isFailed : mayFail → failed []) :
    Journals action done failed :=
  fun state booked => (rests state).mono
    (fun _ _ rested => ⟨[], isDone, rested booked⟩)
    fun _ _ ended => ⟨[], isFailed ended.1, ended.2 booked⟩

/-- What leaves swap alone does not show in the journal. -/
theorem after_rests {first : SpaceAction First}
    {next : First → SpaceAction Second} (rests : Rests mayFail first)
    (isFailed : mayFail → failed [])
    (rest : ∀ result, Journals (next result) done failed) :
    Journals (first >>= next) done failed := by
  intro state booked
  apply rests.meets_bind (.refl booked)
  · exact fun may _ _ passes => ⟨[], isFailed may, passes⟩
  · intro result middle passes
    apply (rest result middle passes.isBooked).mono
    · exact fun _ _ ⟨journal, isDone, further⟩ =>
        ⟨journal, isDone, passes.trans further⟩
    · exact fun _ _ ⟨journal, isFailed, further⟩ =>
        ⟨journal, isFailed, passes.trans further⟩

theorem after_sure {first : SpaceAction First}
    {next : First → SpaceAction Second} (rests : Rests False first)
    (rest : ∀ result, Journals (next result) done failed) :
    Journals (first >>= next) done failed :=
  after_rests rests (fun impossible => impossible.elim) rest

theorem then_rests {first : SpaceAction First}
    {next : First → SpaceAction Second}
    (journals : Journals first done failed)
    (rests : ∀ result, Rests False (next result)) :
    Journals (first >>= next) done failed := by
  intro state booked
  apply Action.meets_bind (journals state booked)
  rintro result middle ⟨journal, isDone, passes⟩
  exact ((rests result).meets passes).mono
    (fun _ _ further => ⟨journal, isDone, further⟩)
    fun _ _ impossible => impossible.elim

end Journals

/-- If the books were right, pages were at most evicted or brought back. -/
def Traded (before after : Hosted AddressSpace) : Prop :=
  IsBooked before.focus →
    ∃ journal, IsTrade journal ∧ Passes before.focus journal 0 after.focus

instance : Std.Refl Traded :=
  ⟨fun _ booked => ⟨[], isTrade_nil, .refl booked⟩⟩

instance : IsTrans (Hosted AddressSpace) Traded := by
  constructor
  intro before middle after first second booked
  obtain ⟨journal, isTrade, passes⟩ := first booked
  obtain ⟨more, isMore, further⟩ := second passes.isBooked
  exact ⟨journal ++ more, isTrade.append isMore, passes.trans further⟩

/-- The operation evicts pages or brings them back. -/
abbrev Trades (action : SpaceAction Result) : Prop :=
  action.Relates Traded True

theorem Rested.traded (rested : Rested state after) : Traded state after :=
  fun booked => ⟨[], isTrade_nil, rested booked⟩

theorem Rests.trades {action : SpaceAction Result} (rests : Rests True action) :
    Trades action :=
  rests.mono fun _ _ => Rested.traded

theorem Trades.journals {action : SpaceAction Result} (trades : Trades action) :
    Journals action IsTrade IsTrade :=
  fun state booked => (trades state).mono (fun _ _ traded => traded booked)
    fun _ _ ended => ended.2 booked

theorem Journals.trades {action : SpaceAction Result}
    (journals : Journals action IsTrade IsTrade) : Trades action := by
  intro state
  by_cases booked : IsBooked state.focus
  · apply (journals state booked).mono
    · exact fun _ _ traded _ => traded
    · exact fun _ _ traded => ⟨trivial, fun _ => traded⟩
  · have anything : ∀ after, Traded state after :=
      fun _ isBooked => absurd isBooked booked
    cases action.run state with
    | done _ after => exact anything after
    | failed _ after => exact ⟨trivial, anything after⟩
    | fatal _ => trivial

theorem journals_evict :
    Journals evict (fun journal => ∃ victim, journal = [.out victim])
      fun journal => journal = [] := by
  intro state booked
  apply (passes_evictInto none booked).mono
  · exact fun _ _ ⟨page, passes⟩ => ⟨_, ⟨page, rfl⟩, passes⟩
  · exact fun _ _ passes => ⟨[], rfl, passes⟩

theorem trades_evict : Trades evict :=
  (journals_evict.mono
    (fun _ evicted => MakesRoom.isTrade (.inr evicted))
    fun _ nothing => nothing ▸ isTrade_nil).trades

theorem trades_track (address : Nat) : Trades (track address) := by
  apply (rests_lookup address).trades.bind
  intro found
  apply Action.Relates.bind (Action.relates_orCrash _ found)
  intro entry
  apply Action.Relates.bind (Action.relates_crashUnless _ _)
  intro _
  apply (rests_look _).trades.bind
  intro ledger
  apply Action.Relates.bind (Action.relates_failUnless _ _)
  intro _
  apply Action.Relates.bind
  · apply Action.relates_runIf
    intro _
    apply trades_evict.bind
    exact fun _ => Action.relates_pure ()
  · intro _
    exact (rests_settleNew address _).trades

theorem trades_enroll (address : Nat) : Trades (enroll address) := by
  apply (rests_look _).trades.bind
  intro isPaging
  exact Action.relates_runIf fun _ => trades_track address

/-- The slot is given up or handed over to the page that leaves. -/
theorem passes_makeRoom (slot : Nat) (booked : IsBooked state.focus) :
    ((makeRoom slot).run state).Meets (fun _ => True)
      (fun _ after => ∃ journal, MakesRoom journal ∧
        Passes state.focus journal (-1) after.focus)
      fun _ after => Passes state.focus [] 0 after.focus := by
  rw [makeRoom, Action.run_bind_of_done (run_look _),
    Action.run_bind_of_done (run_look _)]
  cases state.focus.ledger.isResidentFull with
  | false =>
      rw [Action.runIf_of_neg Bool.false_ne_true]
      apply (passes_releaseSlot slot (.refl booked)).mono
      · exact fun _ _ passes => ⟨[], .inl rfl, passes⟩
      · exact fun _ _ impossible => impossible.elim
  | true =>
      rw [Action.runIf_of_pos rfl, Bool.true_and]
      cases state.focus.swap.freeSlots == 0 with
      | false =>
          apply Action.meets_bind (passes_vacate none booked)
          rintro _ evicted ⟨page, passes⟩
          apply (passes_releaseSlot slot passes).mono
          · exact fun _ _ released => ⟨_, .inr ⟨page, rfl⟩, released⟩
          · exact fun _ _ impossible => impossible.elim
      | true =>
          apply Action.meets_bind (passes_vacate (some slot) booked)
          rintro _ evicted ⟨page, passes⟩
          exact ⟨_, .inr ⟨page, rfl⟩, passes⟩

/-- The page is in swap until all is ready for it, and then it is not any more
and counts as brought back. -/
theorem passes_pageInFrom {handle : Nat} (booked : IsBooked state.focus)
    (swapped : page ∈ state.focus.swappedPages) :
    ((pageInFrom handle slot page).run state).Meets (fun _ => True)
      (fun _ after => ∃ journal, BringsBack page journal ∧
        Passes state.focus journal 0 after.focus)
      fun _ after => Passes state.focus [] 0 after.focus := by
  rw [pageInFrom]
  apply rests_takeFrame.meets_bind (.refl booked)
    (fun _ _ _ passes => passes)
  intro frame taken passes
  apply Action.meets_bind (passes_transfer (relates_load slot) passes
    fun _ failed => (rests_releaseFrame frame).meets failed)
  intro contents loaded passes
  apply (rests_writeFrame _ _).meets_then passes
  intro _ written passes
  have room : (((makeRoom slot).onFailure fun _ => releaseFrame frame).run
      written).Meets (fun _ => True)
        (fun _ after => ∃ journal, MakesRoom journal ∧
          Passes state.focus journal (-1) after.focus)
        fun _ after => Passes state.focus [] 0 after.focus := by
    apply Action.meets_onFailure
    · apply (passes_makeRoom slot passes.isBooked).mono
      · rintro _ after ⟨journal, makes, further⟩
        exact ⟨journal, makes, passes.trans further⟩
      · exact fun _ _ further => passes.trans further
    · intro error middle failed
      apply ((rests_releaseFrame frame).meets failed).mono
      · exact fun _ _ released => released
      · exact fun _ _ impossible => impossible.elim
  apply Action.meets_bind room
  rintro _ made ⟨journal, makes, passes⟩
  apply (rests_updateEntry _ _).meets_then passes
  intro _ updated passes
  apply Action.meets_bind settles_settleResident.of_sure
  rintro _ _ ⟨settled, ledger, settles, loaded, rfl⟩
  have still := passes.replays.subset makes.isOut swapped
  have comes := Ledger.comesBack_of_markResident passes.isBooked.ledger still
    settles
  exact ⟨_, ⟨journal, makes, rfl⟩, passes.comesBack (comes.trans_same
    (Policy.sameSwap_of_onLoad comes.isConsistent loaded))⟩

theorem isSwapped_of_slot? {tracked : Tracked}
    (held : tracked.residence.slot? = some slot) :
    tracked.isSwapped = true := by
  rw [Tracked.isSwapped]
  cases residence : tracked.residence with
  | swapped _ _ => rfl
  | free | resident _ =>
      rw [residence] at held
      cases held

theorem journals_pageInSwapped (page : Nat) :
    Journals (pageInSwapped page) (BringsBack page)
      fun journal => journal = [] := by
  intro state booked
  rw [pageInSwapped, Action.run_bind_of_done (run_look _)]
  cases found : state.focus.ledger.find? page with
  | none => trivial
  | some handle =>
      obtain ⟨tracked, place, tracks⟩ := booked.ledger.find?_iff.mp found
      rw [Action.run_bind_of_done (Action.run_orCrash_some _ _ _),
        Action.liftM_eq_ofExcept, Ledger.get_eq_ok_iff.mpr place,
        Action.run_bind_of_done (Action.run_ofExcept_ok _ _)]
      cases held : tracked.residence.slot? with
      | none => trivial
      | some slot =>
          rw [Action.run_bind_of_done (Action.run_orCrash_some _ _ _)]
          have isThere : page ∈ state.focus.swappedPages :=
            Ledger.mem_swappedPages.mpr
              ⟨handle, tracked, place, isSwapped_of_slot? held, tracks.2⟩
          apply (passes_pageInFrom booked isThere).mono
          · exact fun _ _ brought => brought
          · exact fun _ _ passes => ⟨[], rfl, passes⟩

/-- The page that holds the address is brought back, unless it is there. -/
def Fetched (address : Nat) (journal : List Passage) : Prop :=
  journal = [] ∨ BringsBack (Address.pageBase address) journal

theorem Fetched.isTrade {address : Nat} (fetched : Fetched address journal) :
    IsTrade journal := by
  rcases fetched with rfl | brings
  · exact isTrade_nil
  · exact brings.isTrade

theorem journals_pageIn (address : Nat) :
    Journals (pageIn address) (Fetched address)
      fun journal => journal = [] := by
  apply Journals.after_rests (Action.relates_failUnless _ _)
  · exact fun _ => rfl
  intro _
  apply Journals.after_sure (rests_lookup _)
  intro found
  apply Journals.after_rests (Action.relates_orFail _ found)
  · exact fun _ => rfl
  intro entry
  split
  · exact .of_rests (Action.relates_crash _) (.inl rfl) fun _ : True => rfl
  · exact .of_rests (Action.relates_pure ()) (.inl rfl) fun _ : True => rfl
  · exact .of_rests (Action.relates_fail _) (.inl rfl) fun _ => rfl
  · exact (journals_pageInSwapped _).mono (fun _ brings => .inr brings)
      fun _ nothing => nothing

theorem trades_pageIn (address : Nat) : Trades (pageIn address) :=
  ((journals_pageIn address).mono (fun _ fetched => fetched.isTrade)
    fun _ nothing => nothing ▸ isTrade_nil).trades

theorem rests_denyAccess (address : Nat) (access : Access) :
    Rests True (denyAccess address access : SpaceAction Result) := by
  apply (rests_report _).bind
  exact fun _ => Action.relates_fail _

theorem journals_resolveFault (address : Nat) (access : Access) :
    Journals (resolveFault address access) (Fetched address)
      fun journal => journal = [] := by
  apply Journals.after_sure (rests_count (fun _ => by rfl) fun _ => by rfl)
  intro _
  apply Journals.after_rests (Action.relates_failUnless _ _)
  · exact fun _ => rfl
  intro _
  apply Journals.after_sure (rests_lookup _)
  intro found
  cases found with
  | none =>
      exact .of_rests (rests_denyAccess address access) (.inl rfl) fun _ => rfl
  | some entry =>
      dsimp only
      split
      · exact .of_rests (rests_denyAccess address access) (.inl rfl)
          fun _ => rfl
      · split
        · apply Journals.then_rests
          · apply (journals_pageIn (Address.pageBase address)).mono
            · intro journal fetched
              rwa [Fetched, Address.pageBase_pageBase] at fetched
            · exact fun _ nothing => nothing
          · exact fun _ => Action.relates_pure _
        · exact .of_rests ((rests_report _).bind fun _ =>
            Action.relates_pure _) (.inl rfl) fun _ : True => rfl

theorem rests_tick : Rests mayFail tick := by
  apply (rests_look _).bind
  intro isPaging
  split
  · apply (rests_count (fun _ => by rfl) fun _ => by rfl).bind
    intro _
    apply (rests_onPolicy fun _ _ _ _ _ _ consistent ticked =>
      Policy.sameSwap_of_onTick consistent ticked).bind
    intro aged
    cases aged with
    | none => exact Action.relates_pure 0
    | some aged => exact (rests_report _).bind fun _ => Action.relates_pure aged
  · exact Action.relates_pure 0

theorem trades_userPage (address : Nat) (isWrite : Bool) :
    Trades (userPage address isWrite) := by
  apply Action.Relates.bind (Action.relates_failUnless _ _)
  intro _
  apply (rests_lookup _).trades.bind
  intro found
  apply Action.Relates.bind (Action.relates_orFail _ found)
  intro entry
  apply Action.Relates.bind (Action.relates_failUnless _ _)
  intro _
  apply Action.Relates.bind (Action.relates_runIf fun _ => trades_pageIn _)
  intro _
  apply (rests_look _).trades.bind
  intro translated
  apply Action.Relates.bind (Action.relates_orFail _ translated)
  intro frame
  apply (rests_changeTable _).trades.bind
  exact fun _ => Action.relates_pure frame

theorem trades_readRun (run : Run) : Trades (readRun run) := by
  apply (trades_userPage _ _).bind
  intro frame
  apply (rests_readFrame frame).trades.bind
  exact fun _ => Action.relates_pure _

theorem trades_writeRuns (runs : List Run) (bytes : List UInt8) :
    Trades (writeRuns runs bytes) := by
  induction runs generalizing bytes with
  | nil => exact Action.relates_pure ()
  | cons run runs ih =>
      apply Action.Relates.bind
      · apply (trades_userPage _ _).bind
        intro frame
        apply (rests_readFrame frame).trades.bind
        exact fun page => (rests_writeFrame _ _).trades
      · exact fun _ => ih _

/-- What happened to the space of a copy. -/
def ReadTraded (before after : Hosted UserRead) : Prop :=
  Traded ⟨before.focus.space, before.host⟩ ⟨after.focus.space, after.host⟩

instance : Std.Refl ReadTraded :=
  ⟨fun _ => Std.Refl.refl (r := Traded) _⟩

instance : IsTrans (Hosted UserRead) ReadTraded :=
  ⟨fun _ _ _ first second => IsTrans.trans (r := Traded) _ _ _ first second⟩

theorem trades_inSpace {action : SpaceAction Result} (trades : Trades action) :
    (UserRead.inSpace action).Relates ReadTraded True :=
  trades.zoom fun _ _ traded => traded

theorem trades_fill (offset : Nat) (bytes : List UInt8) :
    (UserRead.fill offset bytes).Relates ReadTraded True :=
  fun state => (Std.Refl.refl state : ReadTraded state state)

theorem trades_fillRuns (offset : Nat) (runs : List Run) :
    (UserRead.fillRuns offset runs).Relates ReadTraded True := by
  induction runs generalizing offset with
  | nil => exact Action.relates_pure ()
  | cons run runs ih =>
      apply (trades_inSpace (trades_readRun run)).bind
      intro bytes
      apply (trades_fill offset bytes).bind
      exact fun _ => ih _

theorem trades_fillString (offset : Nat) (runs : List Run) :
    (UserRead.fillString offset runs).Relates ReadTraded True := by
  induction runs generalizing offset with
  | nil => exact Action.relates_pure none
  | cons run runs ih =>
      apply (trades_inSpace (trades_readRun run)).bind
      intro bytes
      split
      · apply (trades_fill offset _).bind
        exact fun _ => Action.relates_pure _
      · apply (trades_fill offset _).bind
        exact fun _ => ih _

end AddressSpace

end DemandPaging
