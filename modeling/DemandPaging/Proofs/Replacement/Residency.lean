import DemandPaging.PageFault
import DemandPaging.Proofs.Ledger.Queue
import DemandPaging.Proofs.Pager.Refreshing
import DemandPaging.Proofs.Replacement.Follows

/-!
# The moves of paging

Where a page is brought into memory, at most one other has to leave first; if
swap does not take that page nothing else happens.
-/

namespace DemandPaging

namespace Books

variable {policy : Policy} {moves : List Move} {before after : Books}
  {page : Nat}

/-- A page comes into memory by the move `last`, once another has left if there
is no room. -/
def Brings (last : Move) (moves : List Move) : Prop :=
  moves = [last] ∨ ∃ spared page, moves = [.evict spared page, last]

/-- Nothing happens, or swap does not take the page that was to leave. -/
def Balks (moves : List Move) : Prop :=
  moves = [] ∨ ∃ spared page, moves = [.refuse spared page]

theorem Sweeps.find? {spared : List Nat} (sweeps : Sweeps spared before after)
    (other : Nat) : after.ledger.find? other = before.ledger.find? other := by
  induction sweeps with
  | nil => rfl
  | cons least marked advanced requeued rest ih =>
      refine ih.trans ?_
      obtain ⟨tracked, _, rfl⟩ := Ledger.setRecency_eq_ok_iff.mp requeued
      obtain ⟨_, rfl, rfl⟩ := Ledger.advanceClock_eq_ok_iff.mp advanced
      rfl

theorem find?_of_onLoad {ledger loaded : Ledger} {handle : Nat}
    (success : policy.onLoad ledger handle = .ok loaded) (other : Nat) :
    loaded.find? other = ledger.find? other := by
  cases policy with
  | noPaging =>
      cases success
      rfl
  | nfua | lapa =>
      obtain ⟨_, _, rfl⟩ := Ledger.setRecency_eq_ok_iff.mp success
      rfl
  | scfifo =>
      simp only [Policy.onLoad, bind_eq_ok_iff, Prod.exists] at success
      obtain ⟨now, clocked, advanced, requeued⟩ := success
      obtain ⟨_, _, rfl⟩ := Ledger.setRecency_eq_ok_iff.mp requeued
      obtain ⟨_, rfl, rfl⟩ := Ledger.advanceClock_eq_ok_iff.mp advanced
      rfl

/-- The move neither starts nor stops to track the page. -/
def Move.KeepsTrackOf (page : Nat) : Move → Prop
  | enlist other _ => other ≠ page
  | forget _ => False
  | refer _ | evict _ _ | refuse _ _ | load _ | age => True

theorem Ages.find? {pages : List ResidentPage} (ages : Ages pages before after)
    (other : Nat) : after.ledger.find? other = before.ledger.find? other := by
  induction ages with
  | nil => rfl
  | cons aged rest ih =>
      obtain ⟨_, _, rfl⟩ := Ledger.setRecency_eq_ok_iff.mp aged
      exact ih

theorem find?_of_markResident {ledger settled : Ledger} {handle other : Nat}
    (settles : ledger.markResident handle page = .ok settled)
    (elsewhere : page ≠ other) : settled.find? other = ledger.find? other := by
  obtain ⟨_, _, _, ⟨_, _, rfl⟩ | ⟨_, _, rfl⟩⟩ :=
    Ledger.markResident_eq_ok_iff.mp settles
  · rw [Ledger.find?, Ledger.find?, Std.TreeMap.getElem?_insert,
      if_neg (by simpa using elsewhere)]
  · rfl

theorem Step.find? {move : Move} (step : Step policy move before after)
    (keeps : move.KeepsTrackOf page) :
    after.ledger.find? page = before.ledger.find? page := by
  cases step with
  | refer => rfl
  | evict picks moved =>
      obtain ⟨_, _, _, rfl⟩ := Ledger.markSwapped_eq_ok_iff.mp moved
      exact picks.sweeps.find? page
  | refuse picks => exact picks.sweeps.find? page
  | enlist _ _ settles loaded =>
      exact (find?_of_onLoad loaded page).trans
        (find?_of_markResident settles keeps)
  | load tracked settles loaded =>
      refine (find?_of_onLoad loaded page).trans ?_
      obtain ⟨_, _, _, ⟨_, untracked, _⟩ | ⟨_, _, rfl⟩⟩ :=
        Ledger.markResident_eq_ok_iff.mp settles
      · exact absurd untracked tracked
      · rfl
  | forget _ _ => exact keeps.elim
  | age _ ages => exact ages.find? page

theorem Steps.find? (steps : Steps policy moves before after)
    (keeps : ∀ move ∈ moves, move.KeepsTrackOf page) :
    after.ledger.find? page = before.ledger.find? page := by
  induction steps with
  | nil => rfl
  | cons step _ ih =>
      exact (ih fun move member => keeps move (.tail _ member)).trans
        (step.find? (keeps _ (.head _)))
  | wipe _ _ _ _ ih => exact ih keeps

theorem Brings.keeps {last : Move} (brings : Brings last moves)
    (keeps : last.KeepsTrackOf page) :
    ∀ move ∈ moves, move.KeepsTrackOf page := by
  rcases brings with rfl | ⟨spared, other, rfl⟩
  · exact fun move member => List.mem_singleton.mp member ▸ keeps
  · intro move member
    rcases List.mem_cons.mp member with rfl | member
    · trivial
    · exact List.mem_singleton.mp member ▸ keeps

theorem Balks.keeps (balks : Balks moves) :
    ∀ move ∈ moves, move.KeepsTrackOf page := by
  rcases balks with rfl | ⟨spared, other, rfl⟩
  · exact nofun
  · exact fun move member => List.mem_singleton.mp member ▸ trivial

/-- The places and the index of the ledger agree, and tracked pages begin at
page boundaries. -/
structure IsKept (books : Books) : Prop where
  isConsistent : books.ledger.IsConsistent
  aligned : ∀ page, books.ledger.find? page ≠ none →
    Address.pageBase page = page

theorem IsKept.mark (kept : before.IsKept) (isMarked : Bool) :
    (before.mark page isMarked).IsKept :=
  ⟨kept.isConsistent, kept.aligned⟩

theorem IsKept.of_find? (kept : before.IsKept)
    (isConsistent : after.ledger.IsConsistent)
    (same : ∀ page, after.ledger.find? page = before.ledger.find? page) :
    after.IsKept :=
  ⟨isConsistent, fun page tracked => kept.aligned page (same page ▸ tracked)⟩

theorem IsKept.find?_of_mem (kept : before.IsKept) {resident : ResidentPage}
    (member : resident ∈ before.ledger.residents) :
    before.ledger.find? resident.address ≠ none := by
  rw [kept.isConsistent.find?_of_mem_residents member]
  exact Option.some_ne_none _

theorem IsKept.aligned_of_mem (kept : before.IsKept) {resident : ResidentPage}
    (member : resident ∈ before.ledger.residents) :
    Address.pageBase resident.address = resident.address :=
  kept.aligned _ (kept.find?_of_mem member)

/-- A page that is given a second chance is in memory, and the books with it at
the end of the queue are in order. -/
theorem IsKept.requeue (kept : before.IsKept) {front : ResidentPage} {now : Nat}
    {clocked ledger : Ledger}
    (least : Policy.scfifo.least before.ledger = .ok front)
    (advanced : before.ledger.advanceClock = .ok (now, clocked))
    (requeued : clocked.setRecency front.handle now = .ok ledger) :
    front ∈ before.ledger.residents ∧
      IsKept { before.mark front.address false with ledger } ∧
      ∀ page, ledger.find? page = before.ledger.find? page := by
  have member := (Ledger.recency_le_of_least least).1
  obtain ⟨_, turns, _⟩ :=
    Ledger.turns_of_requeue kept.isConsistent member advanced requeued
  have same : ∀ page, ledger.find? page = before.ledger.find? page := by
    intro page
    obtain ⟨_, _, rfl⟩ := Ledger.setRecency_eq_ok_iff.mp requeued
    obtain ⟨_, _, rfl⟩ := Ledger.advanceClock_eq_ok_iff.mp advanced
    rfl
  exact ⟨member, kept.of_find? turns.isConsistent same, same⟩

/-- A sweep keeps the books in order and concerns tracked pages only. -/
theorem Sweeps.isKept {spared : List Nat} (sweeps : Sweeps spared before after)
    (kept : before.IsKept) : after.IsKept ∧
      ∀ page, Address.pageBase page = page →
        before.ledger.find? page = none →
          after.isMarked page = before.isMarked page := by
  induction sweeps with
  | nil => exact ⟨kept, fun _ _ _ => rfl⟩
  | @cons books after front now clocked ledger spared least marked advanced
      requeued rest ih =>
      obtain ⟨member, keptNext, same⟩ := kept.requeue least advanced requeued
      obtain ⟨keptAfter, others⟩ := ih keptNext
      refine ⟨keptAfter, fun page aligned untracked => ?_⟩
      have elsewhere : page ≠ front.address := by
        rintro rfl
        exact kept.find?_of_mem member untracked
      rw [others page aligned ((same page).trans untracked)]
      dsimp only
      rw [isMarked_mark, aligned, kept.aligned_of_mem member,
        if_neg elsewhere]

theorem Ages.isKept {pages : List ResidentPage} (ages : Ages pages before after)
    (kept : before.IsKept) : after.IsKept := by
  refine kept.of_find? ?_ ages.find?
  have consistent := kept.isConsistent
  clear kept
  induction ages with
  | nil => exact consistent
  | cons aged _ ih =>
      obtain ⟨tracked, place, rfl⟩ := Ledger.setRecency_eq_ok_iff.mp aged
      exact ih ((Ledger.puts_recency consistent place _).isConsistent consistent)

/-- Every move keeps the books in order. -/
theorem Step.isKept {move : Move} (step : Step policy move before after)
    (kept : before.IsKept) : after.IsKept := by
  cases step with
  | refer _ => exact kept.mark true
  | @evict _ middle _ _ _ ledger picks moved =>
      obtain ⟨middleKept, _⟩ := picks.sweeps.isKept kept
      obtain ⟨turns, _⟩ :=
        Ledger.turns_of_markSwapped middleKept.isConsistent moved
      obtain ⟨_, _, _, rfl⟩ := Ledger.markSwapped_eq_ok_iff.mp moved
      exact middleKept.of_find? turns.isConsistent fun _ => rfl
  | refuse picks => exact (picks.sweeps.isKept kept).1
  | @enlist _ page _ _ ledger aligned _ settles loaded =>
      obtain ⟨_, lands⟩ :=
        Ledger.lands_of_markResident kept.isConsistent settles loaded
      refine ⟨lands.turns.isConsistent, fun other tracked => ?_⟩
      dsimp only at tracked
      by_cases same : other = page
      · rw [same, aligned]
      · rw [find?_of_onLoad loaded,
          find?_of_markResident settles (Ne.symm same)] at tracked
        exact kept.aligned other tracked
  | @load _ _ _ _ ledger tracked settles loaded =>
      obtain ⟨_, lands⟩ :=
        Ledger.lands_of_markResident kept.isConsistent settles loaded
      exact kept.of_find? lands.turns.isConsistent fun other =>
        Step.find? (.load tracked settles loaded) trivial
  | @forget _ page _ _ _ found released =>
      obtain ⟨turns, _, missing, others⟩ :=
        Ledger.turns_of_release kept.isConsistent found released
      refine ⟨turns.isConsistent, fun other tracked => ?_⟩
      dsimp only at tracked
      have elsewhere : other ≠ page := by
        rintro rfl
        exact tracked missing
      rw [others other elsewhere] at tracked
      exact kept.aligned other tracked
  | age _ ages => exact ages.isKept kept

theorem Steps.isKept (steps : Steps policy moves before after)
    (kept : before.IsKept) : after.IsKept := by
  induction steps with
  | nil => exact kept
  | cons step _ ih => exact ih (step.isKept kept)
  | wipe isMarked _ _ _ ih => exact ih (kept.mark isMarked)

/-- Where a page leaves the marks of pages that are not tracked stay. -/
theorem Step.isMarked_of_evict {spared : List Nat} {other : Nat}
    (step : Step policy (.evict spared other) before after)
    (kept : before.IsKept) (aligned : Address.pageBase page = page)
    (untracked : before.ledger.find? page = none) :
    after.isMarked page = before.isMarked page := by
  cases step with
  | evict picks _ => exact (picks.sweeps.isKept kept).2 page aligned untracked

end Books

namespace AddressSpace

open Books (Move Step Picks Brings Balks)

variable {Result : Type} {state middle after : Hosted AddressSpace}
  {page handle : Nat}

/-- Just this move was made. -/
structure Makes (before : Hosted AddressSpace) (move : Move)
    (after : Hosted AddressSpace) : Prop where
  config : after.focus.config = before.focus.config
  isPaging : after.focus.isPaging = before.focus.isPaging
  step : Step before.focus.config.policy move (booksOf before) (booksOf after)

theorem Makes.follows {move : Move} (makes : Makes state move after) :
    Follows state [move] after :=
  ⟨makes.config, makes.isPaging, .of_step makes.step⟩

theorem SameBooks.makes {move : Move} (same : SameBooks state middle)
    (makes : Makes middle move after) : Makes state move after where
  config := makes.config.trans same.config
  isPaging := makes.isPaging.trans same.isPaging
  step := by
    have step := makes.step
    rw [same.config, same.books] at step
    exact step

theorem Makes.trans_same {move : Move} (makes : Makes state move middle)
    (same : SameBooks middle after) : Makes state move after where
  config := same.config.trans makes.config
  isPaging := same.isPaging.trans makes.isPaging
  step := same.books ▸ makes.step

theorem computed_onPolicy
    (step : Policy → Ledger → PageTable →
      Except Fatal (Result × Ledger × PageTable)) :
    ((onPolicy step).run state).Meets (fun _ => True)
      (fun result after => ∃ ledger table,
        step state.focus.config.policy state.focus.ledger state.focus.table =
          .ok (result, ledger, table) ∧
        after = { state with focus := { state.focus with ledger, table } })
      fun _ _ => False := by
  rw [Action.run, onPolicy, Action.step]
  dsimp only
  cases chosen : step state.focus.config.policy state.focus.ledger
      state.focus.table with
  | error cause => trivial
  | ok result => exact ⟨result.2.1, result.2.2, rfl, rfl⟩

theorem computed_changeLedger (step : Ledger → Except Fatal Ledger) :
    ((onLedger (Action.change step)).run state).Meets (fun _ => True)
      (fun _ after => ∃ ledger, step state.focus.ledger = .ok ledger ∧
        after = { state with focus := { state.focus with ledger } })
      fun _ _ => False := by
  refine Action.meets_zoom_iff.mpr ?_
  rw [Action.run, Action.change]
  cases changed : step state.focus.ledger with
  | error cause => trivial
  | ok ledger => exact ⟨ledger, rfl, rfl⟩

theorem computed_stepLedger
    (step : Ledger → Except Fatal (Result × Ledger)) :
    ((onLedger (Action.step step)).run state).Meets (fun _ => True)
      (fun result after => ∃ ledger,
        step state.focus.ledger = .ok (result, ledger) ∧
        after = { state with focus := { state.focus with ledger } })
      fun _ _ => False := by
  refine Action.meets_zoom_iff.mpr ?_
  rw [Action.run, Action.step]
  cases stepped : step state.focus.ledger with
  | error cause => trivial
  | ok result => exact ⟨result.2, rfl, rfl⟩

/-- The victim is the page that the policy picks. -/
theorem picks_selectVictim :
    (selectVictim.run state).Meets (fun _ => True)
      (fun handle after => ∃ spared front, front.handle = handle ∧
        after.focus.config = state.focus.config ∧
        after.focus.isPaging = state.focus.isPaging ∧
        Picks state.focus.config.policy (booksOf state) spared front
          (booksOf after)) fun _ _ => False := by
  rw [selectVictim]
  refine Action.meets_bind (computed_onPolicy _) fun victim chosen picked => ?_
  obtain ⟨ledger, table, success, rfl⟩ := picked
  obtain ⟨front, sameHandle, picks⟩ := Books.picks_of_select success
  refine Action.meets_bind (isQuiet_reportAll _ _) fun _ reported same => ?_
  refine Action.meets_bind (isQuiet_count _ _) fun _ counted still => ?_
  have whole := same.trans still
  exact ⟨victim.spared, front, sameHandle, whole.config, whole.isPaging,
    whole.books ▸ picks⟩

/-- The page that the policy picks moves to swap, or swap does not take it. -/
theorem makes_evictInto (state : Hosted AddressSpace)
    (spare : Option Nat) :
    ((evictInto spare).run state).Meets (fun _ => True)
      (fun _ after => ∃ spared page, Makes state (.evict spared page) after)
      (fun _ after => ∃ spared page, Makes state (.refuse spared page) after) := by
  rw [evictInto]
  refine (isQuiet_targetSlot spare).meets_bind fun slot targeted same => ?_
  refine Action.meets_bind picks_selectVictim.of_sure
      fun handle chosen picked => ?_
  obtain ⟨spared, front, rfl, config, isPaging, picks⟩ := picked
  have place : chosen.focus.ledger.places[front.handle]? =
      some ⟨.resident front.address, front.recency⟩ := by
    obtain ⟨_, none⟩ | ⟨resident, member, least⟩ :=
      Pager.least_cases targeted.focus.config.policy chosen.focus.ledger
    · cases none.symm.trans picks.least
    · cases least.symm.trans picks.least
      exact Ledger.mem_residents_iff.mp member
  have held : (onLedger (Action.inspect fun ledger : Ledger =>
      ledger.get front.handle)).run chosen =
        .done ⟨.resident front.address, front.recency⟩ chosen := by
    have found : (Action.inspect fun ledger : Ledger =>
        ledger.get front.handle).run chosen.focus.ledger =
          .done ⟨.resident front.address, front.recency⟩ chosen.focus.ledger :=
      Action.run_inspect_of_ok (Ledger.get_eq_ok_iff.mpr place)
    rw [onLedger, Action.run_zoom, found]
  rw [Action.run_bind_of_done held]
  refine (isQuiet_lookup _).meets_bind fun _ looked sameLooked => ?_
  refine (isQuiet_orCrash _ _).meets_bind fun entry seen sameSeen => ?_
  refine (isQuiet_crashUnless _ _).meets_bind fun _ checked sameChecked => ?_
  refine (isQuiet_readFrame _).meets_bind fun contents read sameRead => ?_
  have unchanged := ((sameLooked.trans sameSeen).trans sameChecked).trans sameRead
  refine (isIdle_transfer _ (isQuiet_runIf _ (isQuiet_releaseSlot slot))
    _).meets_bind (fun _ last still => ?_) fun _ stored sameStored => ?_
  · exact ⟨spared, _, same.makes (Makes.trans_same
      ⟨config, isPaging, .refuse picks⟩ (unchanged.trans still))⟩
  refine (isQuiet_updateEntry _ fun _ => by rfl).meets_bind
    fun _ updated sameUpdated => ?_
  refine (isQuiet_releaseFrame _).meets_bind fun _ released sameReleased => ?_
  have before := ((unchanged.trans sameStored).trans sameUpdated).trans
    sameReleased
  refine Action.meets_bind (computed_changeLedger _).of_sure ?_
  rintro _ _ ⟨ledger, moved, rfl⟩
  rw [before.ledger] at moved
  refine (isQuiet_count _).meets_bind fun _ counted sameCounted => ?_
  refine (isQuiet_report _).meets_bind fun _ reported sameReported => ?_
  refine ⟨spared, front.address, same.makes (Makes.trans_same ?_
    (sameCounted.trans sameReported))⟩
  refine ⟨before.config.trans config, before.isPaging.trans isPaging, ?_⟩
  have marks : (booksOf released).isMarked = (booksOf chosen).isMarked :=
    congrArg Books.isMarked before.books
  have step := Step.evict picks moved
  rw [← marks] at step
  exact step

theorem settles_settleResident :
    ((settleResident handle page).run state).Meets (fun _ => True)
      (fun _ after => ∃ settled ledger,
        state.focus.ledger.markResident handle page = .ok settled ∧
        state.focus.config.policy.onLoad settled handle = .ok ledger ∧
        after = { state with focus := { state.focus with ledger } })
      fun _ _ => False := by
  rw [settleResident]
  refine Action.meets_bind (computed_changeLedger _).of_sure ?_
  rintro _ _ ⟨settled, settles, rfl⟩
  refine Action.meets_bind_of (fun policy after =>
    policy = state.focus.config.policy ∧
      after = { state with focus := { state.focus with ledger := settled } })
    ⟨rfl, rfl⟩ ?_
  rintro _ _ ⟨rfl, rfl⟩
  refine (computed_changeLedger _).mono_done ?_
  rintro _ _ ⟨ledger, loaded, rfl⟩
  exact ⟨settled, ledger, settles, loaded, rfl⟩

theorem makes_load (tracked : state.focus.ledger.find? page ≠ none) :
    ((settleResident handle page).run state).Meets (fun _ => True)
      (fun _ => Makes state (.load page)) fun _ _ => False := by
  refine settles_settleResident.mono_done ?_
  rintro _ _ ⟨settled, ledger, settles, loaded, rfl⟩
  exact ⟨rfl, rfl, .load tracked settles loaded⟩

/-- A page that is not tracked yet is from now on. -/
theorem makes_enlist (aligned : Address.pageBase page = page)
    (untracked : state.focus.ledger.find? page = none) :
    ((settleResident handle page).run state).Meets (fun _ => True)
      (fun _ => Makes state (.enlist page ((booksOf state).isMarked page)))
      fun _ _ => False := by
  refine settles_settleResident.mono_done ?_
  rintro _ _ ⟨settled, ledger, settles, loaded, rfl⟩
  exact ⟨rfl, rfl, .enlist aligned untracked settles loaded⟩

/-- Another page leaves, if memory is full. -/
def Spares (before : Hosted AddressSpace) (moves : List Move)
    (after : Hosted AddressSpace) : Prop :=
  moves = [] ∧ SameBooks before after ∨
    ∃ spared page, moves = [.evict spared page] ∧
      Makes before (.evict spared page) after

theorem Spares.follows {moves : List Move} (spares : Spares state moves after) :
    Follows state moves after := by
  rcases spares with ⟨rfl, same⟩ | ⟨spared, page, rfl, makes⟩
  · exact same.follows
  · exact makes.follows

theorem Spares.trans_same {moves : List Move}
    (spares : Spares state moves middle) (same : SameBooks middle after) :
    Spares state moves after := by
  rcases spares with ⟨rfl, before⟩ | ⟨spared, page, rfl, makes⟩
  · exact .inl ⟨rfl, before.trans same⟩
  · exact .inr ⟨spared, page, rfl, makes.trans_same same⟩

/-- Where a page leaves if there is no room, what comes then is the last
move. -/
theorem Spares.brings {moves : List Move} (spares : Spares state moves after)
    (last : Move) : Brings last (moves ++ [last]) := by
  rcases spares with ⟨rfl, _⟩ | ⟨spared, page, rfl, _⟩
  · exact .inl rfl
  · exact .inr ⟨spared, page, rfl⟩

theorem Spares.find? {moves : List Move} (spares : Spares state moves after)
    (page : Nat) :
    after.focus.ledger.find? page = state.focus.ledger.find? page := by
  rcases spares with ⟨_, same⟩ | ⟨spared, other, _, makes⟩
  · rw [same.ledger]
  · exact makes.step.find? (show Move.KeepsTrackOf page _ from trivial)

/-- The mark of a page that is not tracked stays as it is. -/
theorem Spares.isMarked_eq {moves : List Move}
    (spares : Spares state moves after) (kept : (booksOf state).IsKept)
    (aligned : Address.pageBase page = page)
    (untracked : state.focus.ledger.find? page = none) :
    (booksOf after).isMarked page = (booksOf state).isMarked page := by
  rcases spares with ⟨_, same⟩ | ⟨spared, other, _, makes⟩
  · rw [same.books]
  · exact makes.step.isMarked_of_evict kept aligned untracked

theorem spares_runIf (condition : Prop) [Decidable condition]
    (state : Hosted AddressSpace) (spare : Option Nat) :
    ((Action.runIf condition do
        let _ ← evictInto spare).run state).Meets (fun _ => True)
      (fun _ after => ∃ moves, Spares state moves after)
      fun _ after => ∃ moves, Balks moves ∧ Follows state moves after := by
  refine Action.meets_runIf (fun _ => ?_) fun _ => ⟨[], .inl ⟨rfl, .refl state⟩⟩
  refine Action.meets_bind ((makes_evictInto state spare).mono_failed
    ?_) ?_
  · rintro _ after ⟨spared, page, makes⟩
    exact ⟨_, .inr ⟨spared, page, rfl⟩, makes.follows⟩
  · rintro _ after ⟨spared, page, makes⟩
    exact ⟨_, .inr ⟨spared, page, rfl, makes⟩⟩

/-- A new page is tracked, with the mark that it has, once another has left if
there is no room. -/
theorem leads_track (kept : (booksOf state).IsKept)
    (aligned : Address.pageBase page = page)
    (untracked : state.focus.ledger.find? page = none) :
    Leads state (track page)
      (Brings (.enlist page ((booksOf state).isMarked page))) Balks := by
  rw [track]
  refine .after_quiet (isQuiet_lookup page) fun _ looked sameLooked => ?_
  refine .after_quiet (isQuiet_orCrash _ _) fun _ seen sameSeen => ?_
  refine .after_quiet (isQuiet_crashUnless _ _) fun _ checked sameChecked => ?_
  refine .after_quiet (isQuiet_look _) fun _ read sameRead => ?_
  refine .after_idle (isIdle_failUnless _ _) (.inl rfl)
    fun _ begun sameBegun => ?_
  have same := (((sameLooked.trans sameSeen).trans sameChecked).trans
    sameRead).trans sameBegun
  refine Action.meets_bind (spares_runIf _ begun none) ?_
  rintro _ middle ⟨moves, spares⟩
  refine (isQuiet_reserve).meets_bind fun _ reserved sameReserved => ?_
  refine (isQuiet_orCrash _ _).meets_bind fun handle chosen sameChosen => ?_
  have still := sameReserved.trans sameChosen
  have begunAbsent : begun.focus.ledger.find? page = none := by
    rw [same.ledger]
    exact untracked
  have absent : chosen.focus.ledger.find? page = none := by
    rw [still.ledger, spares.find? page]
    exact begunAbsent
  have sameMark : (booksOf chosen).isMarked page =
      (booksOf state).isMarked page := by
    rw [still.books, spares.isMarked_eq (same.books ▸ kept) aligned begunAbsent,
      same.books]
  refine Action.meets_bind (makes_enlist aligned absent).of_sure
      fun _ settled made => ?_
  have isKept : ∀ entry : Entry, ((entry.remove { pagedOut := true }).insert
      { valid := true }).flags.accessed = entry.flags.accessed := by
    simp [Entry.insert, Entry.remove, Flags.union, Flags.difference]
  refine (isQuiet_updateEntry page isKept settled).mono (fun _ _ last => ?_)
    fun _ _ isFailed => isFailed.elim
  rw [sameMark] at made
  exact ⟨_, spares.brings (.enlist page _),
    spares.follows.trans (still.makes (made.trans_same last)).follows⟩

theorem Makes.leads {action : SpaceAction Result} {move : Move}
    (makes : (action.run state).Meets (fun _ => True)
      (fun _ => Makes state move) fun _ _ => False) :
    Leads state action (fun moves => moves = [move]) fun _ => False :=
  makes.mono (fun _ _ made => ⟨_, rfl, made.follows⟩)
    fun _ _ isFailed => isFailed.elim

theorem leads_enroll (isPaging : state.focus.isPaging = true)
    (kept : (booksOf state).IsKept) (aligned : Address.pageBase page = page)
    (untracked : state.focus.ledger.find? page = none) :
    Leads state (enroll page)
      (Brings (.enlist page ((booksOf state).isMarked page))) Balks := by
  have paging : (look AddressSpace.isPaging).run state = .done true state := by
    rw [run_look, isPaging]
  rw [enroll, Leads, Action.run_bind_of_done paging]
  exact leads_track kept aligned untracked

theorem spares_makeRoom (slot : Nat) (state : Hosted AddressSpace) :
    ((makeRoom slot).run state).Meets (fun _ => True)
      (fun _ after => ∃ moves, Spares state moves after)
      fun _ after => ∃ moves, Balks moves ∧ Follows state moves after := by
  rw [makeRoom]
  refine Action.meets_bind_of (fun _ after => after = state) rfl ?_
  rintro isFull state rfl
  refine Action.meets_bind_of (fun _ after => after = state) rfl ?_
  rintro isHandedOver state rfl
  refine Action.meets_bind (spares_runIf _ state _) ?_
  rintro _ middle ⟨moves, spares⟩
  exact (isQuiet_runIf _ (isQuiet_releaseSlot slot) middle).mono
    (fun _ _ same => ⟨moves, spares.trans_same same⟩)
    fun _ _ isFailed => isFailed.elim

theorem leads_pageInFrom {handle slot : Nat}
    (tracked : state.focus.ledger.find? page ≠ none) :
    Leads state (pageInFrom handle slot page) (Brings (.load page)) Balks := by
  rw [pageInFrom]
  refine .after_idle isIdle_takeFrame (.inl rfl) fun frame taken sameTaken => ?_
  refine .after_idle (isIdle_transfer _ (isQuiet_releaseFrame _) _) (.inl rfl)
    fun contents loaded sameLoaded => ?_
  refine .after_quiet (isQuiet_writeFrame _ _) fun _ written sameWritten => ?_
  have same := (sameTaken.trans sameLoaded).trans sameWritten
  have room : (((makeRoom slot).onFailure fun _ => releaseFrame frame).run
      written).Meets (fun _ => True)
        (fun _ after => ∃ moves, Spares written moves after)
        fun _ after => ∃ moves, Balks moves ∧ Follows written moves after := by
    refine Action.meets_onFailure (spares_makeRoom slot written) ?_
    rintro error middle ⟨moves, balks, follows⟩
    exact (isQuiet_releaseFrame frame middle).mono
      (fun _ _ last => ⟨moves, balks, follows.trans_same last⟩)
      fun _ _ isFailed => isFailed.elim
  refine Action.meets_bind room ?_
  rintro _ middle ⟨moves, spares⟩
  refine (isQuiet_updateEntry page fun _ => by rfl).meets_bind
    fun _ pointed samePointed => ?_
  have known : pointed.focus.ledger.find? page ≠ none := by
    rw [samePointed.ledger, spares.find? page, same.ledger]
    exact tracked
  refine Action.meets_bind (makes_load known).of_sure fun _ settled made => ?_
  refine (isQuiet_count _).meets_bind fun _ counted sameCounted => ?_
  refine (isQuiet_report _ _).mono (fun _ _ last => ?_)
    fun _ _ isFailed => isFailed.elim
  exact ⟨_, spares.brings (.load page), spares.follows.trans
    (samePointed.makes (made.trans_same (sameCounted.trans last))).follows⟩

theorem leads_pageInSwapped :
    Leads state (pageInSwapped page) (Brings (.load page)) Balks := by
  rw [pageInSwapped, Leads, Action.run_bind_of_done (run_look _)]
  cases found : state.focus.ledger.find? page with
  | none => trivial
  | some handle =>
      rw [Action.run_bind_of_done (Action.run_orCrash_some _ _ _)]
      refine Leads.after_quiet (isQuiet_ofExcept _)
        fun tracked got sameGot => ?_
      refine .after_quiet (isQuiet_orCrash _ _) fun slot known sameKnown => ?_
      refine leads_pageInFrom ?_
      rw [sameKnown.ledger, sameGot.ledger, found]
      exact Option.some_ne_none handle

/-- Is the page that holds an address in memory? -/
def isThere (state : Hosted AddressSpace) (address : Nat) : Bool :=
  (state.focus.table.entryAt address).isValid

/-- A page that is not there is loaded. -/
def Fetches (isThere : Bool) (page : Nat) (moves : List Move) : Prop :=
  if isThere then moves = [] else Brings (.load page) moves

theorem leads_pageIn (address : Nat) :
    Leads state (pageIn address)
      (Fetches (isThere state address) (Address.pageBase address)) Balks := by
  rw [pageIn, Leads]
  refine Action.meets_failUnless_bind
    (fun _ => ⟨[], .inl rfl, (SameBooks.refl state).follows⟩) fun inside => ?_
  rw [Action.run_bind_of_done (run_lookup_of_lt inside),
    PageTable.get?_pageBase]
  cases found : state.focus.table.get? address with
  | none => exact ⟨[], .inl rfl, (SameBooks.refl state).follows⟩
  | some entry =>
      rw [Action.run_bind_of_done (Action.run_orFail_some _ _ _), isThere,
        PageTable.entryAt_of_get? found]
      cases entry.isValid with
      | true =>
          cases entry.isPagedOut with
          | true => trivial
          | false => exact ⟨[], rfl, (SameBooks.refl state).follows⟩
      | false =>
          cases entry.isPagedOut with
          | true => exact leads_pageInSwapped
          | false => exact ⟨[], .inl rfl, (SameBooks.refl state).follows⟩

theorem isThere_pageBase (state : Hosted AddressSpace) (address : Nat) :
    isThere state (Address.pageBase address) = isThere state address :=
  congrArg Entry.isValid (PageTable.entryAt_pageBase _ address)

theorem leads_resolveFault (address : Nat) (access : Access) :
    Leads state (resolveFault address access)
      (Fetches (isThere state address) (Address.pageBase address)) Balks := by
  rw [resolveFault]
  have counts : ((count fun stats => { stats with
      faults := stats.faults + 1 }).run state).Meets (fun _ => True)
        (fun _ after => SameBooks state after ∧
          after.focus.table = state.focus.table) fun _ _ => False :=
    ⟨⟨rfl, rfl, rfl⟩, rfl⟩
  refine .after_meets counts (fun _ _ same => same.1) ?_
  rintro _ counted ⟨-, sameTable⟩
  have denies : ∀ {done : List Move → Prop}, Leads counted (denyAccess
      address access : SpaceAction Resolution) done Balks :=
    fun {_} => ⟨[], .inl rfl, SameBooks.follows ⟨rfl, rfl, rfl⟩⟩
  rw [isThere, ← sameTable]
  refine Action.meets_failUnless_bind
    (fun _ => ⟨[], .inl rfl, (SameBooks.refl counted).follows⟩) fun inside => ?_
  rw [Action.run_bind_of_done (run_lookup_of_lt inside),
    PageTable.get?_pageBase]
  cases found : counted.focus.table.get? address with
  | none => exact denies
  | some entry =>
      dsimp only
      rw [PageTable.entryAt_of_get? found]
      split
      · exact denies
      · rename_i allowed
        split
        · rename_i isPagedOut
          have fetches : Leads counted _ _ _ :=
            leads_pageIn (Address.pageBase address)
          rw [isThere_pageBase, Address.pageBase_pageBase, isThere,
            PageTable.entryAt_of_get? found] at fetches
          exact fetches.then_quiet fun _ => isQuiet_pure _
        · rename_i notPagedOut
          have isValid : entry.isValid = true := by
            simp only [Entry.isPresent, notPagedOut, Bool.or_false,
              Bool.or_eq_true, not_or] at allowed
            simpa using allowed.1
          rw [isValid]
          have nothing : Fetches true (Address.pageBase address) [] := rfl
          exact Leads.of_quiet
            ((isQuiet_report _).bind fun _ => isQuiet_pure _) nothing

theorem leads_evict (state : Hosted AddressSpace) :
    Leads state evict
      (fun moves => ∃ spared page, moves = [.evict spared page])
      fun moves => ∃ spared page, moves = [.refuse spared page] := by
  refine (makes_evictInto state none).mono ?_ ?_
  · rintro _ after ⟨spared, page, makes⟩
    exact ⟨_, ⟨spared, page, rfl⟩, makes.follows⟩
  · rintro _ after ⟨spared, page, makes⟩
    exact ⟨_, ⟨spared, page, rfl⟩, makes.follows⟩

theorem isQuiet_reportAged (aged : Option Nat) :
    IsQuiet (match aged with
      | none => return 0
      | some aged => do
        Hosted.report (.aged aged)
        return aged : SpaceAction Nat) := by
  cases aged with
  | none => exact isQuiet_pure 0
  | some aged => exact (isQuiet_report _).bind fun _ => isQuiet_pure aged

theorem leads_age :
    Leads state age
      (fun moves => moves =
        if Books.isAging state.focus.config.policy then [.age] else [])
      fun _ => False := by
  rw [age]
  refine .after_quiet (isQuiet_count _) fun _ counted same => ?_
  rw [← same.config]
  refine Action.meets_bind (computed_onPolicy _).of_sure ?_
  rintro aged _ ⟨ledger, table, ticked, rfl⟩
  have ages := Books.ages_of_onTick ticked
  refine (isQuiet_reportAged aged _).mono (fun _ after last => ?_)
    fun _ _ isFailed => isFailed.elim
  split at ages
  · rename_i isAging
    have followed : Follows counted [.age]
        { counted with focus := { counted.focus with ledger, table } } :=
      ⟨rfl, rfl, .of_step (.age isAging ages)⟩
    exact ⟨_, (if_pos isAging).symm, followed.trans_same last⟩
  · rename_i notAging
    obtain ⟨rfl, rfl⟩ := ages
    exact ⟨_, (if_neg notAging).symm, SameBooks.follows
      (.trans ⟨rfl, rfl, rfl⟩ last)⟩

theorem leads_tick (isPaging : state.focus.isPaging = true) :
    Leads state tick
      (fun moves => moves =
        if Books.isAging state.focus.config.policy then [.age] else [])
      fun _ => False := by
  rw [tick, Leads, Action.run_bind_of_done (run_look _), if_pos isPaging]
  exact leads_age

end AddressSpace

end DemandPaging
