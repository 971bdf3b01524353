import DemandPaging.Proofs.AddressSpace.Coherence

/-!
# Runs of requests

A space is made empty and then gets one request after the other, while others
use the same pool and transfers fail; it may be torn down and, while it is
empty, be the child of forks.  A run keeps a log of what happened.  Which
episodes there may be is up to whoever speaks of runs: whatever the callers keep
to, the parts of the space agree (`Runs.isCoherent`).

Where callers see to what requests ask for, each request finds the space in
order and leaves it in order, so that user code never sees that memory is paged
(`shows_flat_memory`), and the checks of the operations never end a run
(`wellFormed_of_runs`).
-/

namespace DemandPaging

namespace AddressSpace

variable {state : Hosted AddressSpace} {size : Nat}

/-- What happened to a space at one time: what it was before and how many bytes
of user memory it had, what was asked of it, and how that ended.  Of a fork the
space is the child. -/
inductive Episode where
  | done (before : Hosted AddressSpace) (size : Nat) (request : Request)
    (reply : Reply) (after : Hosted AddressSpace)
  | failed (before : Hosted AddressSpace) (size : Nat) (request : Request)
    (error : PagingError) (after : Hosted AddressSpace)
  | tornDown (before : Hosted AddressSpace) (size : Nat)
    (after : Hosted AddressSpace)
  | forked (before : Hosted (Fork AddressSpace)) (size : Nat)
    (after : Hosted (Fork AddressSpace))
  | unforked (before : Hosted (Fork AddressSpace)) (size : Nat)
    (error : PagingError) (after : Hosted (Fork AddressSpace))

namespace Episode

/-- The space was asked for something, and its caller saw to what that asks
for. -/
def IsCareful : Episode → Prop
  | done before _ request _ _ | failed before _ request _ _ =>
    request.Admissible before
  | tornDown .. | forked .. | unforked .. => False

/-- The space was asked for something. -/
def IsRequest : Episode → Prop
  | done .. | failed .. => True
  | tornDown .. | forked .. | unforked .. => False

/-- The most that the clock advanced. -/
def ticks : Episode → Nat
  | done before size request _ _ | failed before size request _ _ =>
    request.ticks size before.focus.ledger.maxResident
  | tornDown .. | forked .. | unforked .. => 0

end Episode

/-- The most that the clock advanced in all. -/
def ticksOf (past : List Episode) : Nat :=
  (past.map Episode.ticks).sum

/-- The runs of a space whose episodes are all of a kind that is allowed: what
happened, the latest first, the bytes of user memory there are, and the space
itself.  Between episodes others use the pool.  A parent under paging has a run
of the same kind behind it. -/
inductive Runs (allows : Episode → Prop) :
    List Episode → Nat → Hosted AddressSpace → Prop where
  | new {state : Hosted AddressSpace} (isNew : IsNew state) :
      Runs allows [] 0 state
  | sustained {past : List Episode} {size : Nat} {state : Hosted AddressSpace}
      {host : Host} (runs : Runs allows past size state)
      (sustains : Sustains state host) :
      Runs allows past size ⟨state.focus, host⟩
  | done {past : List Episode} {size : Nat} {state after : Hosted AddressSpace}
      {request : Request} {reply : Reply} (runs : Runs allows past size state)
      (allowed : allows (.done state size request reply after))
      (ran : (request.action size).run state = .done reply after) :
      Runs allows (.done state size request reply after :: past)
        (request.sizeAfter size) after
  | failed {past : List Episode} {size : Nat}
      {state after : Hosted AddressSpace} {request : Request}
      {error : PagingError} (runs : Runs allows past size state)
      (allowed : allows (.failed state size request error after))
      (ran : (request.action size).run state = .failed error after) :
      Runs allows (.failed state size request error after :: past) size after
  | tornDown {past : List Episode} {size : Nat}
      {state after : Hosted AddressSpace} (runs : Runs allows past size state)
      (allowed : allows (.tornDown state size after))
      (ran : (tearDown size).run state = .done () after) :
      Runs allows (.tornDown state size after :: past) 0 after
  | forked {past parentPast : List Episode} {parentSize size : Nat}
      {state after : Hosted (Fork AddressSpace)}
      (parent : IsCoherent parentSize (parentOf state))
      (parentRuns : state.focus.parent.isPaging = true →
        Runs allows parentPast parentSize (parentOf state))
      (child : Runs allows past 0 (childOf state))
      (allowed : allows (.forked state size after))
      (ran : (forkCopy size).run state = .done () after) :
      Runs allows (.forked state size after :: past) size (childOf after)
  | unforked {past : List Episode} {parentSize size : Nat}
      {state after : Hosted (Fork AddressSpace)} {error : PagingError}
      (parent : IsCoherent parentSize (parentOf state))
      (child : Runs allows past 0 (childOf state))
      (allowed : allows (.unforked state size error after))
      (ran : (forkCopy size).run state = .failed error after) :
      Runs allows (.unforked state size error after :: past) 0 (childOf after)

theorem IsCoherent.sustain (coherent : IsCoherent size state) {host : Host}
    (sustains : Sustains state host) : IsCoherent size ⟨state.focus, host⟩ where
  served := sustains.served
  sound := sustains.held.sound coherent.sound
  ceiling := coherent.ceiling
  spans := coherent.spans.congr fun address =>
    congrArg Option.isSome (sustains.held.logicalPage? address)

namespace Runs

variable {allows : Episode → Prop} {past : List Episode}

theorem mono {weaker : Episode → Prop} (runs : Runs allows past size state)
    (weakens : ∀ episode, allows episode → weaker episode) :
    Runs weaker past size state := by
  induction runs with
  | new isNew => exact .new isNew
  | sustained _ sustains ih => exact .sustained ih sustains
  | done _ allowed ran ih => exact .done ih (weakens _ allowed) ran
  | failed _ allowed ran ih => exact .failed ih (weakens _ allowed) ran
  | tornDown _ allowed ran ih => exact .tornDown ih (weakens _ allowed) ran
  | forked parent _ _ allowed ran parentIh ih =>
      exact .forked parent parentIh ih (weakens _ allowed) ran
  | unforked parent _ allowed ran ih =>
      exact .unforked parent ih (weakens _ allowed) ran

theorem isCoherent (runs : Runs allows past size state) :
    IsCoherent size state := by
  induction runs with
  | new isNew => exact isNew.isCoherent
  | sustained _ sustains coherent => exact coherent.sustain sustains
  | @done _ _ _ _ request _ _ _ ran coherent =>
      have orderly := coherent.meets_request request
      rw [ran] at orderly
      exact orderly.coherent
  | @failed _ _ _ _ request _ _ _ ran coherent =>
      have orderly := coherent.meets_request request
      rw [ran] at orderly
      exact orderly.coherent
  | tornDown _ _ ran coherent =>
      have orderly := coherent.meets_call .tearDown
      rw [Call.action, ran] at orderly
      exact orderly.coherent
  | @forked _ _ _ copied _ _ parent _ _ _ ran _ coherent =>
      have orderly := meets_forkCopy_of_coherent parent coherent copied
      rw [ran] at orderly
      exact orderly.2.coherent
  | @unforked _ _ copied _ _ _ parent _ _ ran coherent =>
      have orderly := meets_forkCopy_of_coherent parent coherent copied
      rw [ran] at orderly
      exact orderly.2.coherent

theorem inOrder (runs : Runs Episode.IsCareful past size state) :
    InOrder size (ticksOf past) state := by
  induction runs with
  | new isNew => exact isNew.inOrder
  | sustained _ sustains inOrder => exact inOrder.sustain sustains
  | done _ admissible ran inOrder =>
      have meets := inOrder.meets_request _ admissible
      rw [ran, Nat.add_comm] at meets
      exact meets.1
  | failed _ admissible ran inOrder =>
      have meets := inOrder.meets_request _ admissible
      rw [ran, Nat.add_comm] at meets
      exact meets.1
  | tornDown _ impossible _ _ => exact impossible.elim
  | forked _ _ _ impossible _ _ _ => exact impossible.elim
  | unforked _ _ impossible _ _ => exact impossible.elim

end Runs

variable {past : List Episode}

theorem IsCoherent.sustains_report (coherent : IsCoherent size state)
    (event : Event) : Sustains state (state.host.report event) where
  served := coherent.served
  held := ⟨rfl, coherent.sound.frames, fun _ _ => rfl⟩

/-- A space and a new one beside it, over the first pool. -/
def withFresh (config : Config) (isMetered : Bool)
    (parent : Hosted AddressSpace) : Hosted (Fork AddressSpace) :=
  ⟨⟨parent.focus, freshSpace config isMetered⟩,
    parent.host.report (.spaceMade config true)⟩

theorem IsCoherent.isNew_child {parent : Hosted AddressSpace}
    (coherent : IsCoherent size parent) (pool : parent.focus.pool = 0)
    {config : Config} (isPaging : config.policy.isPaging = true)
    (isValid : 0 < config.maxResident)
    (fits : config.maxResident + config.maxSwap < Word.limit)
    (isMetered : Bool) :
    IsNew (childOf (withFresh config isMetered parent)) := by
  have frames : (parent.host.pool parent.focus.pool).IsConsistent :=
    coherent.sound.frames
  have served : parent.focus.pool < parent.host.pools.size := coherent.served
  have total_le : (parent.host.pool parent.focus.pool).total ≤
    FramePool.sizeLimit := coherent.sound.fits.total_le
  rw [pool] at frames served total_le
  exact isNew_fresh isPaging isValid fits isMetered frames served total_le

instance (request : Request) (state : Hosted AddressSpace) :
    Decidable (request.Admissible state) := by
  cases request <;> unfold Request.Admissible <;> infer_instance

/-- The request of an episode, if it was done. -/
def Episode.request? : Episode → Option Request
  | done _ _ request _ _ => some request
  | failed .. | tornDown .. | forked .. | unforked .. => none

/-- Are the requests done one after the other, each of a caller who sees to what
it asks for, and do the space that they leave and its bytes of user memory pass
the test? -/
def leadsThrough (passes : Nat → Hosted AddressSpace → Bool) :
    List Request → Nat → Hosted AddressSpace → Bool
  | [], size, state => passes size state
  | request :: requests, size, state =>
    decide (request.Admissible state) && (request.action size).leadsTo
      (leadsThrough passes requests (request.sizeAfter size)) state

/-- A computed run is a run, and its log is known. -/
theorem Runs.exists_of_leadsThrough
    {passes : Nat → Hosted AddressSpace → Bool} {requests : List Request}
    (runs : Runs Episode.IsCareful past size state)
    (computed : leadsThrough passes requests size state = true) :
    ∃ more sizeAfter after,
      Runs Episode.IsCareful (more ++ past) sizeAfter after ∧
      more.map Episode.request? = (requests.map some).reverse ∧
      passes sizeAfter after = true := by
  induction requests generalizing past size state with
  | nil => exact ⟨[], size, state, runs, rfl, computed⟩
  | cons request requests ih =>
      obtain ⟨admissible, leads⟩ := Bool.and_eq_true_iff.mp computed
      have careful : request.Admissible state := of_decide_eq_true admissible
      obtain ⟨reply, middle, ran, leads⟩ := Action.exists_of_leadsTo leads
      obtain ⟨more, sizeAfter, after, further, log, passed⟩ :=
        ih (runs.done careful ran) leads
      refine ⟨more ++ [.done state size request reply middle], sizeAfter,
        after, ?_, ?_, passed⟩
      · rwa [List.append_assoc, List.singleton_append]
      · simp only [List.map_append, log, List.map_cons, List.map_nil,
          List.reverse_cons]
        rfl

/-- Where two pages fit into memory, three are mapped and the third is written
to, and then some are brought in, each in place of another. -/
def reshuffle : List Request :=
  [.grow (3 * pageSize) { write := true },
    .copyOut (2 * pageSize + 5) [7, 8],
    .pageIn 0, .pageIn pageSize, .pageIn 0]

/-- What this leaves.  Four pages were evicted, one was spared on the way and
three came back; the third, which was written to, is in swap. -/
structure IsReshuffled (state : Hosted AddressSpace) : Prop where
  isPaging : state.focus.isPaging = true
  policy : state.focus.config.policy = .scfifo
  residents : state.focus.ledger.residents =
    [⟨0, 0, 7⟩, ⟨1, pageSize, 6⟩]
  isSwapped :
    (state.focus.table.entryAt (2 * pageSize)).isPagedOut = true
  stats : state.focus.stats =
    { evictions := 4, secondChances := 1, pageIns := 3 }

theorem isReshuffled_iff : IsReshuffled state ↔
    state.focus.isPaging = true ∧ state.focus.config.policy = .scfifo ∧
      state.focus.ledger.residents = [⟨0, 0, 7⟩, ⟨1, pageSize, 6⟩] ∧
      (state.focus.table.entryAt (2 * pageSize)).isPagedOut = true ∧
      state.focus.stats =
        { evictions := 4, secondChances := 1, pageIns := 3 } :=
  ⟨fun ⟨isPaging, policy, residents, isSwapped, stats⟩ =>
    ⟨isPaging, policy, residents, isSwapped, stats⟩,
    fun ⟨isPaging, policy, residents, isSwapped, stats⟩ =>
      ⟨isPaging, policy, residents, isSwapped, stats⟩⟩

theorem IsReshuffled.sustain (reshuffled : IsReshuffled state) (host : Host) :
    IsReshuffled ⟨state.focus, host⟩ :=
  ⟨reshuffled.isPaging, reshuffled.policy, reshuffled.residents,
    reshuffled.isSwapped, reshuffled.stats⟩

instance (state : Hosted AddressSpace) : Decidable (IsReshuffled state) :=
  decidable_of_iff _ isReshuffled_iff.symm

theorem exists_reshuffled : ∃ past state,
    Runs Episode.IsCareful past (3 * pageSize) state ∧
    past.map Episode.request? = (reshuffle.map some).reverse ∧
    IsReshuffled state ∧
    ∃ after, ((Request.copyIn (2 * pageSize + 5) #[0, 0]).action
      (3 * pageSize)).run state = .done (.filled #[7, 8]) after := by
  have computed : leadsThrough (fun size state =>
      decide (size = 3 * pageSize ∧ IsReshuffled state) &&
        ((Request.copyIn (2 * pageSize + 5) #[0, 0]).action size).yields
          (fun reply _ => reply = .filled #[7, 8]) state)
      reshuffle 0 ⟨smallSpace, smallHost⟩ = true := by
    decide +kernel
  obtain ⟨past, _, state, runs, log, passed⟩ :=
    (Runs.new isNew_small).exists_of_leadsThrough computed
  obtain ⟨holds, reads⟩ := Bool.and_eq_true_iff.mp passed
  obtain ⟨rfl, reshuffled⟩ := of_decide_eq_true holds
  obtain ⟨reply, after, ran, isFilled⟩ := Action.exists_of_yields reads
  rw [of_decide_eq_true isFilled] at ran
  exact ⟨past, state, List.append_nil past ▸ runs, log, reshuffled, after, ran⟩

/-- User code never sees that memory is paged: it sees the first pages of flat
memory, and every request has there the effect that it asks for, or none, or,
if it is a copy that fails, that of a part of the copy. -/
theorem shows_flat_memory (runs : Runs Episode.IsCareful past size state)
    (request : Request) (admissible : request.Admissible state) :
    FlatMemory.Spans (logicalPage? state) size ∧
    (∀ address page, logicalPage? state address = some page →
      page.bytes.length = pageSize) ∧
    ((request.action size).run state).Meets
      (RunsOut state
        (ticksOf past + request.ticks size state.focus.ledger.maxResident))
      (fun reply after => request.Succeeds size (logicalPage? state)
        (logicalPage? after) reply)
      fun _ after => request.Fails (logicalPage? state)
        (logicalPage? after) := by
  have inOrder := runs.inOrder
  refine ⟨inOrder.spans, fun address page shown => ?_, ?_⟩
  · rw [logicalPage?_eq] at shown
    exact Pager.length_bytes shown
  · exact (inOrder.meets_request request admissible).mono
      (fun _ _ done => done.2) fun _ _ failed => failed.2

/-- What was written to a page is read back from swap. -/
theorem shows_flat_memory_of_reshuffled : ∃ past state after,
    Runs Episode.IsCareful past (3 * pageSize) state ∧
    past.map Episode.request? = (reshuffle.map some).reverse ∧
    IsReshuffled state ∧
    ((Request.copyIn (2 * pageSize + 5) #[0, 0]).action (3 * pageSize)).run
      state = .done (.filled #[7, 8]) after ∧
    logicalPage? after = logicalPage? state ∧
    FlatMemory.byte? (logicalPage? state) (2 * pageSize + 5) = some 7 ∧
    FlatMemory.byte? (logicalPage? state) (2 * pageSize + 6) = some 8 := by
  obtain ⟨past, state, runs, log, reshuffled, after, reads⟩ :=
    exists_reshuffled
  obtain ⟨_, _, meets⟩ := shows_flat_memory runs
    (.copyIn (2 * pageSize + 5) #[0, 0]) trivial
  rw [reads] at meets
  obtain ⟨same, _, ⟨⟩, fills⟩ := meets
  exact ⟨past, state, after, runs, log, reshuffled, reads, same,
    (fills.inside 0 (by decide)).symm, (fills.inside 1 (by decide)).symm⟩

/-- The parts of a space agree after every request, whether it was done or
failed, and no request ends the run unless the clock runs out. -/
theorem wellFormed_of_runs (runs : Runs Episode.IsCareful past size state) :
    WellFormed state ∧
    state.focus.ledger.trackedCount ≤ state.focus.ledger.capacity ∧
    (state.focus.isPaging = false →
      state.focus.ledger.trackedCount = 0 ∧
        ∀ slot, state.focus.swap.isClaimed slot = false) ∧
    ∀ request : Request, request.Admissible state → ∀ cause,
      (request.action size).run state = .fatal cause →
        RunsOut state
          (ticksOf past + request.ticks size state.focus.ledger.maxResident)
          cause := by
  have inOrder := runs.inOrder
  have sound := inOrder.sound
  have consistent : state.focus.ledger.IsConsistent := sound.ledger
  refine ⟨inOrder.wellFormed, consistent.trackedCount_le,
    fun notPaging => ?_, ?_⟩
  · have unknown : ∀ page residence,
        (pager state).residenceOf? page ≠ some residence := by
      intro page residence known
      cases notPaging.symm.trans (sound.tracked page residence known).1
    refine ⟨consistent.trackedCount_eq_zero_iff.mpr fun page => ?_,
      fun slot => ?_⟩
    · rw [← consistent.residenceOf?_eq_none_iff, Option.eq_none_iff_forall_ne_some]
      exact unknown page
    · rw [← Bool.not_eq_true]
      intro claimed
      obtain ⟨page, known⟩ := (sound.claimed slot).mp claimed
      exact unknown page _ known
  · intro request admissible cause ended
    have meets := inOrder.meets_request request admissible
    rw [ended] at meets
    exact meets

/-- Pages in memory and in swap, some of which came back, agree with the
ledger and the slots. -/
theorem wellFormed_of_runs_of_reshuffled : ∃ past state,
    Runs Episode.IsCareful past (3 * pageSize) state ∧
    past.map Episode.request? = (reshuffle.map some).reverse ∧
    IsReshuffled state ∧ WellFormed state ∧
    state.focus.ledger.trackedCount ≤ state.focus.ledger.capacity ∧
    state.focus.IsMapped 0 ∧ state.focus.IsMapped pageSize ∧
    ∃ slot, state.focus.HoldsSlot (2 * pageSize) slot := by
  obtain ⟨past, state, runs, log, reshuffled, _⟩ := exists_reshuffled
  obtain ⟨wellFormed, tracked, _⟩ := wellFormed_of_runs runs
  have tracks := wellFormed.agrees.tracks reshuffled.isPaging
  have isMapped : ∀ resident ∈ state.focus.ledger.residents,
      state.focus.IsMapped resident.address := fun resident member =>
    (tracks.isMapped_iff _).mpr
      ⟨_, _, Ledger.mem_residents_iff.mp member, rfl⟩
  rw [reshuffled.residents] at isMapped
  have isPagedOut : state.focus.IsPagedOut (2 * pageSize) :=
    (isPagedOut_iff state _).mpr ⟨by decide, reshuffled.isSwapped⟩
  exact ⟨past, state, runs, log, reshuffled, wellFormed, tracked,
    isMapped _ (.head _), isMapped _ (.tail _ (.head _)),
    (tracks.isPagedOut_iff _).mp isPagedOut⟩

end AddressSpace

end DemandPaging
