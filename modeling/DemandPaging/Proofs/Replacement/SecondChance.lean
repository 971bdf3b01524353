import DemandPaging.Proofs.Ledger.Queue
import DemandPaging.Proofs.Replacement.Residency

/-!
# The second-chance queue

The textbook's algorithm: pages wait in a queue, and each has a bit that tells
whether it was accessed.  The page at the front leaves, unless it was accessed;
then it goes to the back, its bit is cleared, and the next is looked at.

The books of second-chance FIFO show such a queue, and every move does to it
what the textbook says (`Books.Steps.shows`).
-/

namespace DemandPaging

open Books (Move)

/-- The pages in the queue, the front first, and the bits of all pages. -/
structure SecondChance where
  queue : List Nat
  isAccessed : Nat → Bool

namespace SecondChance

variable {before after : SecondChance} {spared : List Nat}

/-- Pages at the front that were accessed go to the back, one by one. -/
inductive Spares : List Nat → SecondChance → SecondChance → Prop where
  | nil {state : SecondChance} : Spares [] state state
  | cons {page : Nat} {behind spared : List Nat} {isAccessed : Nat → Bool}
      {after : SecondChance} (accessed : isAccessed page = true)
      (rest : Spares spared
        ⟨behind ++ [page], Function.update isAccessed page false⟩ after) :
      Spares (page :: spared) ⟨page :: behind, isAccessed⟩ after

/-- What the textbook does at a move. -/
inductive Step : Move → SecondChance → SecondChance → Prop where
  | refer {page : Nat} {queue : List Nat} {isAccessed : Nat → Bool} :
      Step (.refer page) ⟨queue, isAccessed⟩
        ⟨queue, Function.update isAccessed page true⟩
  | evict {before : SecondChance} {page : Nat} {spared behind : List Nat}
      {isAccessed : Nat → Bool}
      (spares : Spares spared before ⟨page :: behind, isAccessed⟩)
      (clear : isAccessed page = false) :
      Step (.evict spared page) before ⟨behind, isAccessed⟩
  | refuse {before : SecondChance} {page : Nat} {spared behind : List Nat}
      {isAccessed : Nat → Bool}
      (spares : Spares spared before ⟨page :: behind, isAccessed⟩)
      (clear : isAccessed page = false) :
      Step (.refuse spared page) before ⟨page :: behind, isAccessed⟩
  | enlist {page : Nat} {isMarked : Bool} {queue : List Nat}
      {isAccessed : Nat → Bool} (absent : page ∉ queue) :
      Step (.enlist page isMarked) ⟨queue, isAccessed⟩
        ⟨queue ++ [page], Function.update isAccessed page isMarked⟩
  | load {page : Nat} {queue : List Nat} {isAccessed : Nat → Bool}
      (absent : page ∉ queue) :
      Step (.load page) ⟨queue, isAccessed⟩ ⟨queue ++ [page], isAccessed⟩
  | forget {page : Nat} {queue : List Nat} {isAccessed : Nat → Bool} :
      Step (.forget page) ⟨queue, isAccessed⟩
        ⟨queue.filter (· ≠ page), Function.update isAccessed page false⟩

inductive Steps : List Move → SecondChance → SecondChance → Prop where
  | nil {state : SecondChance} : Steps [] state state
  | cons {move : Move} {moves : List Move}
      {before middle after : SecondChance} (step : Step move before middle)
      (rest : Steps moves middle after) : Steps (move :: moves) before after

theorem Steps.append {moves more : List Move} {middle : SecondChance}
    (first : Steps moves before middle) (second : Steps more middle after) :
    Steps (moves ++ more) before after := by
  induction first with
  | nil => exact second
  | cons step _ ih => exact .cons step (ih second)

/-- Once every page has been spared no bit is left. -/
theorem Spares.clear (spares : Spares spared before after)
    {ahead behind : List Nat} (queue : before.queue = ahead ++ behind)
    (clear : ∀ page ∈ behind, before.isAccessed page = false)
    (all : spared.length = ahead.length) :
    ∀ page ∈ after.queue, after.isAccessed page = false := by
  induction spares generalizing ahead behind with
  | nil =>
      rw [queue, List.eq_nil_of_length_eq_zero all.symm]
      exact clear
  | @cons page waiting spared isAccessed after accessed rest ih =>
      cases ahead with
      | nil => cases all
      | cons first ahead =>
          obtain ⟨rfl, rfl⟩ := List.cons.inj queue
          refine ih (List.append_assoc ahead behind [page]) ?_
            (Nat.succ.inj all)
          intro other member
          dsimp only
          by_cases same : other = page
          · rw [same, Function.update_self]
          · rw [Function.update_of_ne same]
            rcases List.mem_append.mp member with waiting | isPage
            · exact clear other waiting
            · exact absurd (List.mem_singleton.mp isPage) same

end SecondChance

namespace Books

variable {books before after : Books} {state : SecondChance} {page : Nat}
  {spared : List Nat} {move : Move} {moves : List Move}

/-- The books are in order, and stamps tell the order of the pages. -/
structure IsOrdered (books : Books) : Prop extends books.IsKept where
  stamped : books.ledger.IsStamped

/-- The books show a queue and its bits. -/
structure Shows (books : Books) (state : SecondChance) : Prop where
  queue : books.ledger.queue.map ResidentPage.address = state.queue
  isMarked : ∀ page, books.ledger.find? page ≠ none →
    books.isMarked page = state.isAccessed page

/-- A mark of a page is one of its bit. -/
theorem isMarked_mark_of_aligned {other : Nat} (isMarked : Bool)
    (aligned : Address.pageBase page = page)
    (otherAligned : Address.pageBase other = other) :
    (books.mark page isMarked).isMarked other =
      Function.update books.isMarked page isMarked other := by
  rw [isMarked_mark, aligned, otherAligned, Function.update_apply]

/-- Where a page is marked anew its bit is what it is marked with, and the
others are as before. -/
theorem Shows.isMarked_mark (shows : books.Shows state) {other : Nat}
    (isMarked : Bool) (aligned : Address.pageBase page = page)
    (otherAligned : Address.pageBase other = other)
    (tracked : other ≠ page → books.ledger.find? other ≠ none) :
    (books.mark page isMarked).isMarked other =
      Function.update state.isAccessed page isMarked other := by
  rw [isMarked_mark_of_aligned isMarked aligned otherAligned]
  by_cases same : other = page
  · rw [same, Function.update_self, Function.update_self]
  · rw [Function.update_of_ne same, Function.update_of_ne same]
    exact shows.isMarked other (tracked same)

/-- No page is in the queue twice. -/
theorem IsOrdered.filter_behind (ordered : books.IsOrdered)
    {front : ResidentPage} {behind : List ResidentPage}
    (queue : books.ledger.queue = front :: behind) :
    (books.ledger.queue.filter
      fun resident => resident.address ≠ front.address) = behind := by
  have nodup := books.ledger.nodup_queue
  have members : ∀ resident ∈ front :: behind,
      resident ∈ books.ledger.residents := fun resident member => by
    rw [← Ledger.mem_queue_iff, queue]
    exact member
  rw [queue] at nodup ⊢
  rw [List.filter_cons_of_neg (by simp), List.filter_eq_self]
  intro resident member
  refine decide_eq_true fun same => ?_
  have equal := ordered.isConsistent.eq_of_address_eq
    (members resident (.tail _ member)) (members front (.head _)) same
  exact (List.nodup_cons.mp nodup).1 (equal ▸ member)

/-- A sweep of the ledger spares pages as the textbook does. -/
theorem Sweeps.shows (sweeps : Sweeps spared before after)
    (ordered : before.IsOrdered) (shows : before.Shows state) :
    ∃ swept, SecondChance.Spares spared state swept ∧ after.Shows swept ∧
      after.IsOrdered := by
  induction sweeps generalizing state with
  | nil => exact ⟨state, .nil, shows, ordered⟩
  | @cons books after front now clocked ledger spared least marked advanced
      requeued rest ih =>
      obtain ⟨behind, queue⟩ := ordered.stamped.queue_of_least least
      obtain ⟨member, keptNext, sameIndex⟩ :=
        ordered.requeue least advanced requeued
      have aligned := ordered.aligned_of_mem member
      obtain ⟨stamp, turns, clock⟩ := Ledger.turns_of_requeue
        ordered.isConsistent member advanced requeued
      obtain ⟨stamped, requeuedQueue⟩ :=
        turns.queue_of_some ordered.stamped stamp clock
      rw [ordered.filter_behind queue] at requeuedQueue
      obtain ⟨waiting, isAccessed⟩ := state
      have waits := shows.queue
      rw [queue, List.map_cons] at waits
      obtain rfl : front.address :: behind.map ResidentPage.address = waiting :=
        waits
      have showsNext : Shows { books.mark front.address false with ledger }
          ⟨behind.map ResidentPage.address ++ [front.address],
            Function.update isAccessed front.address false⟩ := by
        refine ⟨?_, fun page tracked => ?_⟩
        · rw [requeuedQueue, List.map_append]
          rfl
        · rw [sameIndex] at tracked
          exact shows.isMarked_mark false aligned
            (ordered.aligned page tracked) fun _ => tracked
      have orderedNext : IsOrdered
          { books.mark front.address false with ledger } :=
        ⟨keptNext, stamped⟩
      obtain ⟨swept, spares, showsAfter, orderedAfter⟩ :=
        ih orderedNext showsNext
      have accessed : isAccessed front.address = true := by
        rw [← marked]
        exact (shows.isMarked front.address (ordered.find?_of_mem member)).symm
      exact ⟨swept, .cons accessed spares, showsAfter, orderedAfter⟩

/-- The page that is picked is at the front, and was not accessed. -/
theorem Picks.shows {front : ResidentPage}
    (picks : Picks .scfifo before spared front after)
    (ordered : before.IsOrdered) (shows : before.Shows state) :
    ∃ behind isAccessed,
      SecondChance.Spares spared state ⟨front.address :: behind, isAccessed⟩ ∧
      isAccessed front.address = false ∧
      after.Shows ⟨front.address :: behind, isAccessed⟩ ∧ after.IsOrdered ∧
      (after.ledger.queue.filter fun resident =>
        resident.address ≠ front.address).map ResidentPage.address = behind := by
  obtain ⟨⟨queue, isAccessed⟩, spares, showsAfter, orderedAfter⟩ :=
    picks.sweeps.shows ordered shows
  obtain ⟨behind, inFront⟩ := orderedAfter.stamped.queue_of_least picks.least
  have waits := showsAfter.queue
  rw [inFront, List.map_cons] at waits
  obtain rfl : front.address :: behind.map ResidentPage.address = queue := waits
  refine ⟨_, isAccessed, spares, ?_, showsAfter, orderedAfter, ?_⟩
  · rcases picks.unmarked rfl with unmarked | all
    · rw [← unmarked]
      have member := (Ledger.recency_le_of_least picks.least).1
      exact (showsAfter.isMarked _ (orderedAfter.find?_of_mem member)).symm
    · -- Every page was spared, so no mark is left.
      have length : spared.length = state.queue.length := by
        rw [all, ← shows.queue, List.length_map, Ledger.queue,
          List.length_mergeSort]
      exact spares.clear (List.append_nil _).symm nofun length _ (.head _)
  · rw [orderedAfter.filter_behind inFront]

/-- A page that comes into memory is at the back of the queue. -/
theorem Shows.of_lands (shows : before.Shows state)
    (ordered : before.IsOrdered) {ledger : Ledger} {landed : ResidentPage}
    (lands : before.ledger.Lands .scfifo page landed ledger) :
    ledger.IsStamped ∧ page ∉ state.queue ∧
      ledger.queue.map ResidentPage.address = state.queue ++ [page] := by
  obtain ⟨stamp, clock⟩ := lands.stamped rfl
  obtain ⟨stamped, queue⟩ :=
    lands.turns.queue_of_some ordered.stamped stamp clock
  have others : (before.ledger.queue.filter
      fun resident => resident.address ≠ page) = before.ledger.queue :=
    List.filter_eq_self.mpr fun resident member => decide_eq_true
      (lands.absent resident (Ledger.mem_queue_iff.mp member))
  refine ⟨stamped, fun member => ?_, ?_⟩
  · rw [← shows.queue, List.mem_map] at member
    obtain ⟨resident, isThere, same⟩ := member
    exact lands.absent resident (Ledger.mem_queue_iff.mp isThere) same
  · rw [queue, others, List.map_append, shows.queue, List.map_singleton,
      lands.address]

/-- Every move does to the queue that the books show what the textbook says. -/
theorem Step.shows (step : Step .scfifo move before after)
    (ordered : before.IsOrdered) (shows : before.Shows state) :
    ∃ next, SecondChance.Step move state next ∧ after.Shows next ∧
      after.IsOrdered := by
  obtain ⟨queue, isAccessed⟩ := state
  have kept := step.isKept ordered.toIsKept
  cases step with
  | refer aligned =>
      refine ⟨_, .refer, ⟨shows.queue, fun other tracked => ?_⟩,
        kept, ordered.stamped⟩
      exact shows.isMarked_mark true aligned (ordered.aligned other tracked)
        fun _ => tracked
  | @evict _ middle spared front slot ledger picks moved =>
      obtain ⟨behind, isAccessed, spares, clear, showsMiddle, orderedMiddle,
        rest⟩ := picks.shows ordered shows
      obtain ⟨turns, clock⟩ :=
        Ledger.turns_of_markSwapped orderedMiddle.isConsistent moved
      obtain ⟨stamped, left⟩ :=
        turns.queue_of_none orderedMiddle.stamped clock
      have sameIndex : ∀ page, ledger.find? page = middle.ledger.find? page := by
        obtain ⟨_, _, _, rfl⟩ := Ledger.markSwapped_eq_ok_iff.mp moved
        exact fun _ => rfl
      refine ⟨⟨behind, isAccessed⟩, .evict spares clear,
        ⟨(congrArg _ left).trans rest, fun page tracked => ?_⟩, kept, stamped⟩
      rw [sameIndex] at tracked
      exact showsMiddle.isMarked page tracked
  | refuse picks =>
      obtain ⟨behind, isAccessed, spares, clear, showsAfter, orderedAfter, _⟩ :=
        picks.shows ordered shows
      exact ⟨_, .refuse spares clear, showsAfter, orderedAfter⟩
  | @enlist _ page handle settled ledger aligned untracked settles loaded =>
      obtain ⟨landed, lands⟩ := Ledger.lands_of_markResident
        ordered.isConsistent settles loaded
      obtain ⟨stamped, absent, queued⟩ := shows.of_lands ordered lands
      have others : ∀ other, other ≠ page →
          ledger.find? other = before.ledger.find? other := fun other elsewhere =>
        (find?_of_onLoad loaded other).trans
          (find?_of_markResident settles elsewhere.symm)
      refine ⟨_, .enlist absent, ⟨queued, fun other tracked => ?_⟩, kept,
        stamped⟩
      dsimp only at tracked ⊢
      by_cases same : other = page
      · rw [same, Function.update_self]
      · rw [others other same] at tracked
        rw [Function.update_of_ne same]
        exact shows.isMarked other tracked
  | @load _ page handle settled ledger tracked settles loaded =>
      obtain ⟨landed, lands⟩ := Ledger.lands_of_markResident
        ordered.isConsistent settles loaded
      obtain ⟨stamped, absent, queued⟩ := shows.of_lands ordered lands
      have sameIndex : ∀ other,
          ledger.find? other = before.ledger.find? other := fun other =>
        Step.find? (.load tracked settles loaded) trivial
      refine ⟨_, .load absent, ⟨queued, fun other known => ?_⟩, kept, stamped⟩
      rw [sameIndex] at known
      exact shows.isMarked other known
  | @forget _ page handle released ledger found releases =>
      obtain ⟨turns, clock, missing, others⟩ := Ledger.turns_of_release
        ordered.isConsistent found releases
      obtain ⟨stamped, left⟩ := turns.queue_of_none ordered.stamped clock
      have aligned : Address.pageBase page = page := by
        refine ordered.aligned page ?_
        rw [found]
        exact Option.some_ne_none _
      refine ⟨_, .forget, ⟨?_, fun other tracked => ?_⟩, kept, stamped⟩
      · obtain rfl : before.ledger.queue.map ResidentPage.address = queue :=
          shows.queue
        rw [List.filter_map]
        exact congrArg _ left
      · have elsewhere : other ≠ page := by
          rintro rfl
          exact tracked missing
        have wasTracked : before.ledger.find? other ≠ none :=
          others other elsewhere ▸ tracked
        exact shows.isMarked_mark false aligned (ordered.aligned other wasTracked)
          fun _ => wasTracked
  | age isAging _ => cases isAging

/-- And so do moves one after the other. -/
theorem Steps.shows (steps : Steps .scfifo moves before after)
    (ordered : before.IsOrdered) (shows : before.Shows state) :
    ∃ last, SecondChance.Steps moves state last ∧ after.Shows last ∧
      after.IsOrdered := by
  induction steps generalizing state with
  | nil => exact ⟨state, .nil, shows, ordered⟩
  | cons step _ ih =>
      obtain ⟨next, does, showsNext, orderedNext⟩ := step.shows ordered shows
      obtain ⟨last, doing, showsLast, orderedLast⟩ := ih orderedNext showsNext
      exact ⟨last, .cons does doing, showsLast, orderedLast⟩
  | @wipe moves books after page isMarked aligned untracked _ ih =>
      have elsewhere : ∀ other, books.ledger.find? other ≠ none →
          other ≠ page := by
        rintro other tracked rfl
        exact tracked untracked
      refine ih ⟨ordered.toIsKept.mark isMarked, ordered.stamped⟩
        ⟨shows.queue, fun other tracked => ?_⟩
      rw [shows.isMarked_mark isMarked aligned (ordered.aligned other tracked)
        fun _ => tracked, Function.update_of_ne (elsewhere other tracked)]

end Books

end DemandPaging
