import DemandPaging.Proofs.Replacement.Forks
import DemandPaging.Proofs.Replacement.Requests
import DemandPaging.Proofs.Replacement.SecondChance

/-!
# Runs under second-chance FIFO

Over a whole run, requests and forks, failed transfers and the pages of others
notwithstanding, the pages in memory in the order of their stamps are the
textbook's queue (`queue_of_runs`).
-/

namespace DemandPaging

namespace AddressSpace

open Books (Move Admits Each pagesFrom)

variable {state after : Hosted AddressSpace} {size : Nat}

/-- The pages in memory, in the order in which they were stamped. -/
def pagesInOrder (state : Hosted AddressSpace) : List Nat :=
  state.focus.ledger.queue.map ResidentPage.address

/-- The marks that pages of the first space have. -/
def accessedIn (state : Hosted AddressSpace) (page : Nat) : Bool :=
  (state.focus.table.entryAt page).flags.accessed

namespace Episode

/-- The episode keeps to second-chance FIFO: of the parents that are under paging
only one under this policy gives its places to the space. -/
def KeepsQueue : Episode → Prop
  | done .. | failed .. | unforked .. => True
  | forked before _ _ => before.focus.parent.isPaging = true →
    before.focus.parent.config.policy = .scfifo
  | tornDown .. => False

/-- The queue that the space begins with when it takes the places of its parent:
the pages of the parent's queue that were copied. -/
def start? : Episode → Option SecondChance
  | forked before size _ =>
    if before.focus.parent.isPaging then
      some ⟨(pagesInOrder (parentOf before)).filter
        (· < Address.pageCeil size), accessedIn (parentOf before)⟩
    else
      none
  | done .. | failed .. | tornDown .. | unforked .. => none

/-- The moves of an episode.  A child whose parent is not under paging admits the
pages that are copied. -/
def Makes : Episode → List Move → Prop
  | done before size request reply _ => request.Makes before size reply
  | failed before size request error after =>
    request.Breaks before size error after
  | forked before size _ =>
    Each (fun page => Admits (accessedIn (parentOf before) page) page)
      (pagesFrom 0 ((size + (pageSize - 1)) / pageSize))
  | unforked .. => fun moves => moves = []
  | tornDown .. => fun _ => False

end Episode

/-- What a run did to the queue: with which queue it began, and the moves since
then. -/
def Plays : List Episode → SecondChance → List Move → Prop
  | [], start, moves => start = ⟨[], fun _ => false⟩ ∧ moves = []
  | episode :: past, start, moves =>
    match episode.start? with
    | some queue => start = queue ∧ moves = []
    | none => ∃ earlier latest, Plays past start earlier ∧
        episode.Makes latest ∧ moves = earlier ++ latest

/-- Beyond its size a space has nothing, so an empty one shows any queue without
pages. -/
theorem IsCoherent.shows_nothing (coherent : IsCoherent 0 state)
    (isAccessed : Nat → Bool) :
    (booksOf state).IsOrdered ∧ (booksOf state).Shows ⟨[], isAccessed⟩ := by
  have noResident := coherent.not_mem_residents
  have noQueue : state.focus.ledger.queue = [] :=
    List.eq_nil_iff_forall_not_mem.mpr fun resident member =>
      noResident resident (Ledger.mem_queue_iff.mp member)
  exact ⟨⟨coherent.isKept, coherent.sound.ledger,
      fun first member => absurd member (noResident first),
      fun resident member => absurd member (noResident resident)⟩,
    congrArg _ noQueue, fun page tracked =>
      absurd (coherent.find?_eq_none (Nat.zero_le page)) tracked⟩

/-- A child that takes the places of its parent has the pages of it that were
copied, and the clock. -/
theorem residents_forkCopy {state : Hosted (Fork AddressSpace)}
    {parentSize : Nat} (parent : IsCoherent parentSize (parentOf state))
    (child : IsCoherent 0 (childOf state))
    (both : bothPaging state.focus = true) (size : Nat) :
    ((forkCopy size).run state).Meets (fun _ => True)
      (fun _ after =>
        (∀ resident, resident ∈ after.focus.child.ledger.residents ↔
          resident ∈ state.focus.parent.ledger.residents ∧
            resident.address < Address.pageCeil size) ∧
        after.focus.child.ledger.generation =
          state.focus.parent.ledger.generation) fun _ _ => True := by
  have forkable : Forkable state :=
    ⟨parent.served, parent.isCopyable, child.isVacant⟩
  refine (meets_forkCopy forkable size (.inl fun _ => trivial)
    (child.ready (Nat.le_refl _))).mono ?_ fun _ _ _ => trivial
  rintro _ _ ⟨copied, copying, rfl⟩
  have faithful := copying.clocked
  have sound := faithful.left.ready.sound
  have consistent : (clocked state copied).focus.child.ledger.IsConsistent :=
    sound.ledger
  have parentConsistent : state.focus.parent.ledger.IsConsistent :=
    parent.sound.ledger
  refine ⟨fun resident => ⟨fun member => ?_, ?_⟩, ?_⟩
  · have place := Ledger.mem_residents_iff.mp member
    have known := consistent.residenceOf?_of_resident place rfl
    have isPresent := sound.isPresent_of_residenceOf? known
    have copies := faithful.left.changes.parts
    rw [← sound.isSome_logicalPage?, copies.logicalPage?] at isPresent
    split at isPresent
    · rename_i below
      rw [parent.sound.isSome_logicalPage?] at isPresent
      obtain ⟨residence, parentKnown⟩ := parent.sound.residence_of_isPresent
        (Bool.and_eq_true_iff.mp both).1 (sound.tracked _ _ known).2.1 isPresent
      obtain ⟨handle, tracked, found, held, _⟩ :=
        parentConsistent.find?_of_residenceOf? parentKnown
      obtain ⟨childFound, childHeld⟩ :=
        faithful.places both _ _ _ below found held
      rw [consistent.find?_of_mem_residents member] at childFound
      cases childFound
      rw [place] at childHeld
      cases childHeld
      exact ⟨Ledger.mem_residents_iff.mpr held, below⟩
    · rw [child.isVacant.logicalPage?] at isPresent
      cases isPresent
  · rintro ⟨member, below⟩
    exact Ledger.mem_residents_iff.mpr (faithful.places both _ _ _ below
      (parentConsistent.find?_of_mem_residents member)
      (Ledger.mem_residents_iff.mp member)).2
  · rw [clocked, if_pos both]

/-- The space is coherent and under second-chance FIFO, and what was done so far
left its queue as the textbook leaves one. -/
structure Queued (past : List Episode) (size : Nat)
    (state : Hosted AddressSpace) : Prop where
  coherent : IsCoherent size state
  isPaging : state.focus.isPaging = true
  policy : state.focus.config.policy = .scfifo
  ordered : (booksOf state).IsOrdered
  plays : ∃ start moves last, Plays past start moves ∧
    SecondChance.Steps moves start last ∧ (booksOf state).Shows last

namespace Queued

variable {past parentPast : List Episode}

theorem begin (coherent : IsCoherent 0 state)
    (isPaging : state.focus.isPaging = true)
    (policy : state.focus.config.policy = .scfifo) : Queued [] 0 state := by
  obtain ⟨ordered, shows⟩ := coherent.shows_nothing fun _ => false
  exact ⟨coherent, isPaging, policy, ordered, _, [], _, ⟨rfl, rfl⟩, .nil, shows⟩

theorem sustain (queued : Queued past size state) {host : Host}
    (sustains : Sustains state host) :
    Queued past size ⟨state.focus, host⟩ where
  coherent := queued.coherent.sustain sustains
  isPaging := queued.isPaging
  policy := queued.policy
  ordered := queued.ordered
  plays := queued.plays

/-- The moves that follow do to the queue what the textbook says. -/
theorem next (queued : Queued past size state) {sizeAfter : Nat}
    {episode : Episode} {moves : List Move} (goesOn : episode.start? = none)
    (made : episode.Makes moves) (follows : Follows state moves after)
    (coherent : IsCoherent sizeAfter after) :
    Queued (episode :: past) sizeAfter after := by
  obtain ⟨start, earlier, last, plays, played, shows⟩ := queued.plays
  have steps := follows.steps
  rw [queued.policy] at steps
  obtain ⟨final, more, showsFinal, ordered⟩ := steps.shows queued.ordered shows
  refine ⟨coherent, follows.isPaging.trans queued.isPaging,
    (congrArg Config.policy follows.config).trans queued.policy, ordered,
    start, earlier ++ moves, final, ?_, played.append more, showsFinal⟩
  rw [Plays, goesOn]
  exact ⟨earlier, moves, plays, made, rfl⟩

theorem unforked {state after : Hosted (Fork AddressSpace)}
    {error : PagingError} (queued : Queued past 0 (childOf state))
    (orderly : IsOrderly (childOf state) 0 (childOf after)) :
    Queued (.unforked state size error after :: past) 0 (childOf after) := by
  obtain ⟨start, earlier, last, plays, played, shows⟩ := queued.plays
  obtain ⟨_, showsNothing⟩ := queued.coherent.shows_nothing last.isAccessed
  have isEmpty : last = ⟨[], last.isAccessed⟩ := by
    have same := shows.queue.symm.trans showsNothing.queue
    obtain ⟨queue, isAccessed⟩ := last
    exact congrArg (SecondChance.mk · isAccessed) same
  obtain ⟨ordered, showsAfter⟩ :=
    orderly.coherent.shows_nothing last.isAccessed
  obtain ⟨samePaging, sameConfig⟩ := orderly.sameShape
  exact ⟨orderly.coherent, samePaging.trans queued.isPaging,
    (congrArg Config.policy sameConfig).trans queued.policy, ordered,
    start, earlier, last, ⟨earlier, [], plays, rfl, (List.append_nil _).symm⟩,
    played, isEmpty ▸ showsAfter⟩

/-- A child that takes the places of its parent has the queue of its parent, as
far as the pages were copied. -/
theorem inherits {state after : Hosted (Fork AddressSpace)} {parentSize : Nat}
    (parent : Queued parentPast parentSize (parentOf state))
    (child : IsCoherent 0 (childOf state))
    (isPaging : state.focus.child.isPaging = true)
    (ran : (forkCopy size).run state = .done () after) :
    (booksOf (childOf after)).ledger.IsStamped ∧
      pagesInOrder (childOf after) =
        (pagesInOrder (parentOf state)).filter
          (· < Address.pageCeil size) := by
  have both : bothPaging state.focus = true :=
    Bool.and_eq_true_iff.mpr ⟨parent.isPaging, isPaging⟩
  have orderly := meets_forkCopy_of_coherent parent.coherent child size
  have copied := residents_forkCopy parent.coherent child both size
  rw [ran] at orderly copied
  obtain ⟨residents, clock⟩ := copied
  have stamped : (booksOf (childOf after)).ledger.IsStamped := by
    refine ⟨orderly.2.coherent.sound.ledger,
      fun first member second otherMember => ?_, fun resident member => ?_⟩
    · exact parent.ordered.stamped.distinct first
        ((residents first).mp member).1 second
        ((residents second).mp otherMember).1
    · rw [show (booksOf (childOf after)).ledger.generation =
        state.focus.parent.ledger.generation from clock]
      exact parent.ordered.stamped.recency_le resident
        ((residents resident).mp member).1
  have queue : after.focus.child.ledger.queue =
      state.focus.parent.ledger.queue.filter
        fun resident => resident.address < Address.pageCeil size := by
    refine stamped.queue_eq (List.Pairwise.filter _
      parent.ordered.stamped.pairwise_queue) fun resident => ?_
    rw [List.mem_filter, Ledger.mem_queue_iff, decide_eq_true_iff]
    exact (residents resident).symm
  refine ⟨stamped, ?_⟩
  rw [pagesInOrder, pagesInOrder, List.filter_map]
  exact congrArg _ queue

theorem forked {state after : Hosted (Fork AddressSpace)} {parentSize : Nat}
    (parent : Queued parentPast parentSize (parentOf state))
    (child : IsCoherent 0 (childOf state))
    (isPaging : state.focus.child.isPaging = true)
    (policy : state.focus.child.config.policy = .scfifo)
    (ran : (forkCopy size).run state = .done () after) :
    Queued (.forked state size after :: past) size (childOf after) := by
  have orderly := meets_forkCopy_of_coherent parent.coherent child size
  have marked := marks_forkCopy size
    (Bool.and_eq_true_iff.mpr ⟨parent.isPaging, isPaging⟩)
  rw [ran] at orderly marked
  obtain ⟨_, orderly⟩ := orderly
  obtain ⟨stamped, pages⟩ := parent.inherits child isPaging ran
  obtain ⟨samePaging, sameConfig⟩ := orderly.sameShape
  let start : SecondChance :=
    ⟨(pagesInOrder (parentOf state)).filter (· < Address.pageCeil size),
      accessedIn (parentOf state)⟩
  have shows : (booksOf (childOf after)).Shows start := by
    refine ⟨pages, fun page tracked => marked page ?_⟩
    by_contra beyond
    exact tracked (orderly.coherent.find?_eq_none (Nat.le_of_not_lt beyond))
  have begins : Episode.start? (.forked state size after) = some start :=
    if_pos parent.isPaging
  refine ⟨orderly.coherent, samePaging.trans isPaging,
    (congrArg Config.policy sameConfig).trans policy,
    ⟨orderly.coherent.isKept, stamped⟩, start, [], start, ?_, .nil, shows⟩
  rw [Plays, begins]
  exact ⟨rfl, rfl⟩

/-- A child that is given the pages one by one admits them. -/
theorem enrolled {state after : Hosted (Fork AddressSpace)} {parentSize : Nat}
    (parent : IsCoherent parentSize (parentOf state))
    (notPaging : state.focus.parent.isPaging = false)
    (child : Queued past 0 (childOf state))
    (ran : (forkCopy size).run state = .done () after) :
    Queued (.forked state size after :: past) size (childOf after) := by
  have orderly := meets_forkCopy_of_coherent parent child.coherent size
  have enrolls := enrolls_forkCopy size notPaging child.isPaging
    child.coherent.isKept fun page => child.coherent.find?_eq_none (Nat.zero_le page)
  rw [ran] at orderly enrolls
  obtain ⟨moves, each, follows⟩ := enrolls
  refine child.next ?_ each follows orderly.2.coherent
  rw [Episode.start?, notPaging]
  rfl

end Queued

variable {past : List Episode}

theorem Runs.queued (runs : Runs Episode.KeepsQueue past size state)
    (isPaging : state.focus.isPaging = true)
    (policy : state.focus.config.policy = .scfifo) :
    Queued past size state := by
  induction runs with
  | new isNew => exact .begin isNew.isCoherent isPaging policy
  | sustained _ sustains ih => exact (ih isPaging policy).sustain sustains
  | done runs _ ran ih =>
      obtain ⟨samePaging, sameConfig⟩ :=
        runs.isCoherent.sameShape_of_done ran
      have queued := ih (samePaging ▸ isPaging) (sameConfig ▸ policy)
      obtain ⟨coherent, moves, made, follows⟩ :=
        queued.coherent.follows_of_done queued.isPaging ran
      exact queued.next rfl made follows coherent
  | failed runs _ ran ih =>
      obtain ⟨samePaging, sameConfig⟩ :=
        runs.isCoherent.sameShape_of_failed ran
      have queued := ih (samePaging ▸ isPaging) (sameConfig ▸ policy)
      obtain ⟨coherent, moves, broken, follows⟩ :=
        queued.coherent.follows_of_failed queued.isPaging ran
      exact queued.next rfl broken follows coherent
  | tornDown _ impossible _ _ => exact impossible.elim
  | @forked _ _ _ copied state after parent _ child allowed ran parentIh ih =>
      have orderly := meets_forkCopy_of_coherent parent child.isCoherent copied
      rw [ran] at orderly
      obtain ⟨samePaging, sameConfig⟩ := orderly.2.sameShape
      cases paging : state.focus.parent.isPaging with
      | true =>
          exact .forked (parentIh paging paging (allowed paging))
            child.isCoherent (samePaging ▸ isPaging) (sameConfig ▸ policy) ran
      | false =>
          exact .enrolled parent paging
            (ih (samePaging ▸ isPaging) (sameConfig ▸ policy)) ran
  | @unforked _ _ copied _ _ _ parent child _ ran ih =>
      have orderly := meets_forkCopy_of_coherent parent child.isCoherent copied
      rw [ran] at orderly
      obtain ⟨samePaging, sameConfig⟩ := orderly.2.sameShape
      exact (ih (samePaging ▸ isPaging) (sameConfig ▸ policy)).unforked
        orderly.2

end AddressSpace

end DemandPaging
