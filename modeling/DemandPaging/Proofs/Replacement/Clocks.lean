import DemandPaging.Proofs.Replacement.Aging
import DemandPaging.Proofs.Replacement.Queues

/-!
# The clock of a child

A fork gives the child the recencies of its parent as they are, and the time on
the parent's clock.  Under second-chance FIFO a page that is loaded or spared is
to be behind all others, so no recency may be ahead of the clock.  In the child
this is so exactly if it was so in the parent, for the pages that were copied.
Between two queues it always is.  The clock of a parent that ages its pages
stands still, though, while their recencies are histories of references: such a
child starts with pages ahead of its clock unless their histories are empty.
-/

namespace DemandPaging

namespace Ledger

variable {ledger clocked : Ledger} {now : Nat}

/-- No page in memory is ahead of the clock. -/
def IsTimely (ledger : Ledger) : Prop :=
  ∀ resident ∈ ledger.residents, resident.recency ≤ ledger.generation

/-- The next stamp is later than all that there are exactly if no page is ahead
of the clock. -/
theorem isTimely_iff_of_advanceClock
    (advanced : ledger.advanceClock = .ok (now, clocked)) :
    ledger.IsTimely ↔
      ∀ resident ∈ ledger.residents, resident.recency < now := by
  obtain ⟨_, rfl, _⟩ := advanceClock_eq_ok_iff.mp advanced
  exact forall₂_congr fun _ _ => Nat.lt_succ_iff.symm

end Ledger

namespace Books

variable {policy : Policy} {before after : Books} {move : Move}
  {moves : List Move}

theorem Ages.generation_eq {pages : List ResidentPage}
    (ages : Ages pages before after) :
    after.ledger.generation = before.ledger.generation := by
  induction ages with
  | nil => rfl
  | cons aged _ ih =>
      obtain ⟨_, _, rfl⟩ := Ledger.setRecency_eq_ok_iff.mp aged
      exact ih

theorem generation_eq_of_markResident {ledger settled : Ledger}
    {handle page : Nat} (settles : ledger.markResident handle page = .ok settled) :
    settled.generation = ledger.generation := by
  obtain ⟨_, _, _, ⟨_, _, rfl⟩ | ⟨_, _, rfl⟩⟩ :=
    Ledger.markResident_eq_ok_iff.mp settles
  · rfl
  · rfl

theorem generation_eq_of_onLoad {ledger loaded : Ledger} {handle : Nat}
    (aging : isAging policy = true)
    (loads : policy.onLoad ledger handle = .ok loaded) :
    loaded.generation = ledger.generation := by
  cases policy with
  | noPaging | scfifo => cases aging
  | nfua | lapa =>
      obtain ⟨_, _, rfl⟩ := Ledger.setRecency_eq_ok_iff.mp loads
      rfl

theorem Step.generation_eq (step : Step policy move before after)
    (aging : isAging policy = true) :
    after.ledger.generation = before.ledger.generation := by
  cases step with
  | refer _ => rfl
  | evict picks moved =>
      obtain rfl := picks.of_isAging aging
      obtain ⟨_, _, _, rfl⟩ := Ledger.markSwapped_eq_ok_iff.mp moved
      rfl
  | refuse picks =>
      obtain rfl := picks.of_isAging aging
      rfl
  | enlist _ _ settles loads | load _ settles loads =>
      exact (generation_eq_of_onLoad aging loads).trans
        (generation_eq_of_markResident settles)
  | forget _ released =>
      obtain ⟨_, ⟨_, _, rfl⟩ | ⟨_, _, _, rfl⟩⟩ :=
        Ledger.release_eq_ok_iff.mp released
      · rfl
      · rfl
  | age _ ages => exact ages.generation_eq

theorem Steps.generation_eq (steps : Steps policy moves before after)
    (aging : isAging policy = true) :
    after.ledger.generation = before.ledger.generation := by
  induction steps with
  | nil => rfl
  | cons step _ ih => exact ih.trans (step.generation_eq aging)
  | wipe _ _ _ _ ih => exact ih

end Books

namespace AddressSpace

variable {state after : Hosted AddressSpace} {size : Nat}
  {past : List Episode}

/-- A space that ages its pages and was not forked has a clock that never
moved. -/
theorem Runs.generation_eq (runs : Runs Episode.IsRequest past size state)
    (isPaging : state.focus.isPaging = true)
    (aging : Books.isAging state.focus.config.policy = true) :
    state.focus.ledger.generation = 0 := by
  induction runs with
  | new isNew =>
      obtain ⟨⟨ran⟩, _⟩ := isNew
      obtain ⟨_, _, ledger, ledgerMade, rfl, rfl⟩ :=
        run_make_eq_done_iff.mp ran
      obtain ⟨_, rfl⟩ := Ledger.new_eq_ok_iff.mp ledgerMade
      rfl
  | sustained _ _ ih => exact ih isPaging aging
  | done runs _ ran ih =>
      obtain ⟨samePaging, sameConfig⟩ :=
        runs.isCoherent.sameShape_of_done ran
      rw [samePaging] at isPaging
      rw [sameConfig] at aging
      obtain ⟨_, _, _, follows⟩ :=
        runs.isCoherent.follows_of_done isPaging ran
      exact (follows.steps.generation_eq aging).trans (ih isPaging aging)
  | failed runs _ ran ih =>
      obtain ⟨samePaging, sameConfig⟩ :=
        runs.isCoherent.sameShape_of_failed ran
      rw [samePaging] at isPaging
      rw [sameConfig] at aging
      obtain ⟨_, _, _, follows⟩ :=
        runs.isCoherent.follows_of_failed isPaging ran
      exact (follows.steps.generation_eq aging).trans (ih isPaging aging)
  | tornDown _ impossible _ _ => exact impossible.elim
  | forked _ _ _ impossible _ _ _ => exact impossible.elim
  | unforked _ _ impossible _ _ => exact impossible.elim

/-- The child of a fork of spaces under paging has the pages in memory of its
parent that were copied, with their recencies, and the time on its clock.  So no
page of it is ahead of its clock, and the next page that gets a stamp is behind
all others, exactly if no copied page is ahead of the clock in the parent.
Between spaces under second-chance FIFO this is always so.  The clock of a
parent that ages its pages has not begun to run, and it is so exactly if the
copied pages have empty histories. -/
theorem forked_clock_is_timely_iff {state after : Hosted (Fork AddressSpace)}
    {parentPast childPast : List Episode} {parentSize : Nat}
    (parent : Runs (fun _ => True) parentPast parentSize (parentOf state))
    (child : Runs (fun _ => True) childPast 0 (childOf state))
    (both : bothPaging state.focus = true)
    (queues : state.focus.child.config.policy = .scfifo)
    (ran : (forkCopy size).run state = .done () after) :
    after.focus.child.config.policy = .scfifo ∧
    (∀ resident, resident ∈ after.focus.child.ledger.residents ↔
      resident ∈ state.focus.parent.ledger.residents ∧
        resident.address < Address.pageCeil size) ∧
    after.focus.child.ledger.generation =
      state.focus.parent.ledger.generation ∧
    (after.focus.child.ledger.IsTimely ↔
      ∀ resident ∈ state.focus.parent.ledger.residents,
        resident.address < Address.pageCeil size →
          resident.recency ≤ state.focus.parent.ledger.generation) ∧
    (∀ now clocked,
      after.focus.child.ledger.advanceClock = .ok (now, clocked) →
        (after.focus.child.ledger.IsTimely ↔
          ∀ resident ∈ after.focus.child.ledger.residents,
            resident.recency < now)) ∧
    (∀ past, Runs Episode.KeepsQueue past parentSize (parentOf state) →
      state.focus.parent.config.policy = .scfifo →
        after.focus.child.ledger.IsTimely) ∧
    ∀ past, Runs Episode.IsRequest past parentSize (parentOf state) →
      Books.isAging state.focus.parent.config.policy = true →
      (after.focus.child.ledger.IsTimely ↔
        ∀ resident ∈ state.focus.parent.ledger.residents,
          resident.address < Address.pageCeil size →
            resident.recency = 0) := by
  have orderly := meets_forkCopy_of_coherent parent.isCoherent
    child.isCoherent size
  have copies := residents_forkCopy parent.isCoherent child.isCoherent both size
  rw [ran] at orderly copies
  obtain ⟨residents, clock⟩ := copies
  have isTimely_iff : after.focus.child.ledger.IsTimely ↔
      ∀ resident ∈ state.focus.parent.ledger.residents,
        resident.address < Address.pageCeil size →
          resident.recency ≤ state.focus.parent.ledger.generation := by
    simp only [Ledger.IsTimely, residents, clock, and_imp]
  have config : after.focus.child.config = state.focus.child.config :=
    orderly.2.changes.parts.shape.config
  refine ⟨(congrArg Config.policy config).trans queues, residents, clock,
    isTimely_iff, fun _ _ => Ledger.isTimely_iff_of_advanceClock, ?_, ?_⟩
  · intro past runs policy
    refine isTimely_iff.mpr fun resident member _ => ?_
    have queued := runs.queued (Bool.and_eq_true_iff.mp both).1 policy
    exact queued.ordered.stamped.recency_le resident member
  · intro past runs aging
    have stopped : state.focus.parent.ledger.generation = 0 :=
      runs.generation_eq (Bool.and_eq_true_iff.mp both).1 aging
    simp only [isTimely_iff, stopped, Nat.le_zero]

/-- The page of a space under NFUA is referenced, a tick passes, and the space is
copied into a queue. -/
theorem exists_agedFork : ∃ grown touched ticked after,
    (Request.grow pageSize {}).Does 0 ⟨agingSpace, agingHost⟩ grown ∧
    (Request.touch 0 false).Does pageSize grown touched ∧
    Request.tick.Does pageSize touched ticked ∧
    (forkCopy pageSize).run (withFresh ⟨1, 1, .scfifo⟩ false ticked) =
      .done () after ∧
    ticked.focus.pool = 0 ∧ ticked.focus.isPaging = true ∧
    Books.isAging ticked.focus.config.policy = true ∧
    ∃ resident ∈ ticked.focus.ledger.residents,
      resident.address < Address.pageCeil pageSize ∧
        resident.recency ≠ 0 := by
  have computed : ((Request.grow pageSize {}).action 0).leadsTo
      (((Request.touch 0 false).action pageSize).leadsTo
        ((Request.tick.action pageSize).leadsTo fun ticked =>
          (forkCopy pageSize).leadsTo
            (fun _ => decide (ticked.focus.pool = 0 ∧
              ticked.focus.isPaging = true ∧
              Books.isAging ticked.focus.config.policy = true ∧
              ∃ resident ∈ ticked.focus.ledger.residents,
                resident.address < Address.pageCeil pageSize ∧
                  resident.recency ≠ 0))
            (withFresh ⟨1, 1, .scfifo⟩ false ticked)))
      ⟨agingSpace, agingHost⟩ = true := by
    decide +kernel
  obtain ⟨_, grown, grows, computed⟩ := Action.exists_of_leadsTo computed
  obtain ⟨_, touched, touches, computed⟩ := Action.exists_of_leadsTo computed
  obtain ⟨_, ticked, ticks, computed⟩ := Action.exists_of_leadsTo computed
  obtain ⟨_, after, forks, computed⟩ := Action.exists_of_leadsTo computed
  exact ⟨grown, touched, ticked, after, ⟨_, grows⟩, ⟨_, touches⟩, ⟨_, ticks⟩,
    forks, of_decide_eq_true computed⟩

theorem forked_clock_is_timely_iff_of_aged : ∃ parentPast state after,
    Runs (fun _ => True) parentPast pageSize (parentOf state) ∧
    Runs (fun _ => True) [] 0 (childOf state) ∧
      (forkCopy pageSize).run state = .done () after ∧
        ¬after.focus.child.ledger.IsTimely := by
  obtain ⟨grown, touched, ticked, after, ⟨_, grows⟩, ⟨_, touches⟩, ⟨_, ticks⟩,
    ran, pool, isPaging, aging, resident, member, below, history⟩ :=
    exists_agedFork
  have runs : Runs Episode.IsRequest _ pageSize ticked :=
    (((Runs.new isNew_aging).done trivial grows).done trivial touches).done
      trivial ticks
  have coherent := runs.isCoherent
  have recorded : Runs Episode.IsRequest _ pageSize
      (parentOf (withFresh ⟨1, 1, .scfifo⟩ false ticked)) :=
    runs.sustained (coherent.sustains_report _)
  have parent : Runs (fun _ => True) _ pageSize _ :=
    recorded.mono fun _ _ => trivial
  have child : Runs (fun _ => True) [] 0
      (childOf (withFresh ⟨1, 1, .scfifo⟩ false ticked)) :=
    .new (coherent.isNew_child pool rfl (by decide) (by decide) false)
  have both : bothPaging (withFresh ⟨1, 1, .scfifo⟩ false ticked).focus =
    true := Bool.and_eq_true_iff.mpr ⟨isPaging, rfl⟩
  refine ⟨_, _, after, parent, child, ran, fun timely => ?_⟩
  obtain ⟨_, _, _, _, _, _, ages⟩ :=
    forked_clock_is_timely_iff parent child both rfl ran
  exact history ((ages _ recorded aging).mp timely resident member below)

end AddressSpace

end DemandPaging
