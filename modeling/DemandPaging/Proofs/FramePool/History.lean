import DemandPaging.Proofs.FramePool.Counts
import DemandPaging.Proofs.FramePool.Operations

/-!
# What the past of a frame pool tells of it

A pool starts with none of its frames lent and is asked for one thing after the
other, up to the first that is fatal.  What happened, the latest first, tells
which frames are lent, what each of them holds, and since when the others have
been free.  The pool agrees with its past in all of that
(`accounts_of_runAll`).
-/

namespace DemandPaging

namespace FramePool

variable {pool after : FramePool} {event : Event} {operation : Operation}
  {past : List Event} {count address number : Nat}

/-- What the pool has done and what it is now, when it was asked for one thing
after the other. -/
def runAll (past : List Event) (pool : FramePool) :
    List Operation → Except Fatal (List Event × FramePool)
  | [] => return (past, pool)
  | operation :: operations => do
    let (event, next) ← operation.run pool
    runAll (event :: past) next operations

/-- What a frame holds, if it is lent: junk when it was lent last, and since
then what was written to it or copied there. -/
def held? : (past : List Event) → (address : Nat) → Option Page
  | [], _ => none
  | event :: past, address => event.leaves (held? past) address

/-- How many events there were when the frame was taken back last, none if it
never was. -/
def freedAt : (past : List Event) → (address : Nat) → Nat
  | [], _ => 0
  | .released other :: past, address =>
    if address = other then past.length + 1 else freedAt past address
  | .lent _ :: past, address | .exhausted :: past, address
  | .shown _ _ :: past, address | .written _ _ :: past, address
  | .cleared _ :: past, address | .copied _ _ :: past, address =>
    freedAt past address

/-- A frame that is free has been so longer than another one.  Of the frames
that were never lent the lower ones come first. -/
def FreedBefore (past : List Event) (address other : Nat) : Prop :=
  freedAt past address < freedAt past other ∨
    freedAt past address = freedAt past other ∧ address < other

theorem freedAt_le_length : freedAt past address ≤ past.length := by
  induction past with
  | nil => exact Nat.le_refl _
  | cons event past ih =>
      cases event with
      | released other =>
          rw [freedAt]
          split
          · exact Nat.le_refl _
          · exact Nat.le_succ_of_le ih
      | lent _ | exhausted | shown _ _ | written _ _ | cleared _ | copied _ _ =>
          exact Nat.le_succ_of_le ih

/-- Of two frames none of which is taken back just now the same one has been
free longer. -/
theorem FreedBefore.cons {other : Nat} (before : FreedBefore past address other)
    (first : event ≠ .released address) (second : event ≠ .released other) :
    FreedBefore (event :: past) address other := by
  cases event with
  | released freed =>
      rw [ne_eq, Event.released.injEq] at first second
      unfold FreedBefore
      rw [freedAt, freedAt, if_neg (Ne.symm first), if_neg (Ne.symm second)]
      exact before
  | lent _ | exhausted | shown _ _ | written _ _ | cleared _ | copied _ _ =>
      exact before

theorem freedBefore_released {other : Nat} (different : other ≠ address) :
    FreedBefore (.released address :: past) other address := by
  left
  rw [freedAt, freedAt, if_neg different, if_pos rfl]
  exact Nat.lt_succ_of_le freedAt_le_length

theorem FreedBefore.asymm {other : Nat}
    (before : FreedBefore past address other) :
    ¬FreedBefore past other address := by
  unfold FreedBefore at *
  omega

theorem addressOf_lt_iff {other : Nat} :
    addressOf number < addressOf other ↔ number < other := by
  simp only [addressOf, pageSize]
  omega

/-- The pool has the frames that its past tells, and its queue has the free ones
in the order in which they became free. -/
structure Remembers (count : Nat) (past : List Event) (pool : FramePool) :
    Prop where
  isConsistent : pool.IsConsistent
  total : pool.total = count
  contents? : ∀ address, pool.contents? address = held? past address
  inOrder : pool.queue.Pairwise fun first second =>
    FreedBefore past (addressOf first) (addressOf second)

theorem remembers_new (count : Nat) : Remembers count [] (new count) where
  isConsistent := isConsistent_new count
  total := total_new count
  contents? := contents?_new count
  inOrder := by
    apply List.pairwise_lt_range.imp
    intro first second less
    rw [FreedBefore, freedAt, freedAt, addressOf_lt_iff]
    exact .inr ⟨rfl, less⟩

theorem IsConsistent.mem_queue_iff_contents? (consistent : pool.IsConsistent) :
    number ∈ pool.queue ↔
      number < pool.total ∧ pool.contents? (addressOf number) = none := by
  rw [consistent.mem_queue_iff]
  constructor
  · rintro ⟨contents, frame⟩
    refine ⟨(Array.getElem?_eq_some_iff.mp frame).1, ?_⟩
    rw [Option.eq_none_iff_forall_ne_some]
    intro page lent
    obtain ⟨other, same, held⟩ := contents?_eq_some_iff_frame.mp lent
    rw [addressOf_inj.mp same, frame] at held
    cases held
  · rintro ⟨inside, unlent⟩
    obtain ⟨⟨contents, isLent⟩, frame⟩ : ∃ frame, pool.frames[number]? =
      some frame := ⟨_, Array.getElem?_eq_getElem inside⟩
    cases isLent with
    | false => exact ⟨contents, frame⟩
    | true =>
        have lent := contents?_eq_some_iff_frame.mpr ⟨number, rfl, frame⟩
        rw [unlent] at lent
        cases lent

theorem Remembers.inOrder_of_happens (remembers : Remembers count past pool)
    (happens : pool.Happens event after) :
    after.queue.Pairwise fun first second =>
      FreedBefore (event :: past) (addressOf first) (addressOf second) := by
  have before := remembers.inOrder
  have queue := happens.queue
  cases event with
  | lent address =>
      obtain ⟨number, _, front⟩ := queue
      rw [front, List.pairwise_cons] at before
      exact before.2
  | released address =>
      obtain ⟨number, rfl, rest⟩ := queue
      have notQueued : ∀ other ∈ pool.queue, other ≠ number := by
        have nodup := happens.isConsistent.nodup
        rw [rest, List.nodup_append] at nodup
        exact fun other queued => nodup.2.2 other queued number (.head _)
      rw [rest, List.pairwise_append]
      refine ⟨?_, List.pairwise_singleton _ _, ?_⟩
      · apply before.imp_of_mem
        intro first second firstQueued secondQueued earlier
        apply earlier.cons
        · rw [ne_eq, Event.released.injEq, addressOf_inj]
          exact Ne.symm (notQueued first firstQueued)
        · rw [ne_eq, Event.released.injEq, addressOf_inj]
          exact Ne.symm (notQueued second secondQueued)
      · intro other queued freed same
        rw [List.mem_singleton.mp same]
        apply freedBefore_released
        rw [ne_eq, addressOf_inj]
        exact notQueued other queued
  | exhausted | shown _ _ | written _ _ | cleared _ | copied _ _ =>
      rw [show after.queue = pool.queue from queue]
      exact before

theorem Remembers.cons (remembers : Remembers count past pool)
    (happens : pool.Happens event after) :
    Remembers count (event :: past) after where
  isConsistent := happens.isConsistent
  total := happens.total.trans remembers.total
  contents? address := by
    rw [happens.contents?, held?, funext remembers.contents?]
  inOrder := remembers.inOrder_of_happens happens

theorem remembers_of_runAll {operations : List Operation} {now : List Event}
    (remembers : Remembers count past pool)
    (ran : runAll past pool operations = .ok (now, after)) :
    Remembers count now after := by
  induction operations generalizing past pool with
  | nil =>
      cases ran
      exact remembers
  | cons operation operations ih =>
      simp only [runAll, bind_eq_ok_iff, Prod.exists] at ran
      obtain ⟨event, next, first, rest⟩ := ran
      exact ih (remembers.cons (remembers.isConsistent.happens first)) rest

/-- What a pool of `count` frames owes to its past. -/
structure Accounts (pool : FramePool) (count : Nat) (past : List Event) :
    Prop where
  nodup : pool.queue.Nodup
  mem_queue_iff : ∀ number, number ∈ pool.queue ↔
    number < count ∧ held? past (addressOf number) = none
  freeCount_add_lentCount : pool.freeCount + pool.lentCount = count
  lentCount_eq : pool.lentCount = ((Finset.range count).filter fun number =>
    (held? past (addressOf number)).isSome).card
  allocate_eq_none_iff : pool.allocate.1 = none ↔
    ∀ number < count, (held? past (addressOf number)).isSome
  /-- The frame that is lent next has been free longest. -/
  allocate_eq_some_iff : ∀ address, pool.allocate.1 = some address ↔
    ∃ number < count, addressOf number = address ∧
      held? past address = none ∧
        ∀ other < count, other ≠ number →
          held? past (addressOf other) = none →
            FreedBefore past address (addressOf other)
  /-- Whatever the frame held, it is filled with junk. -/
  read_of_allocate : ∀ address after, pool.allocate = (some address, after) →
    after.read address = .ok (Page.filled lentJunk)
  /-- An operation is fatal exactly if it names a frame that does not begin a
  page, is not in the pool or is not lent. -/
  run_fails_iff : ∀ operation : Operation,
    (∃ cause, operation.run pool = .error cause) ↔
      ∃ address ∈ operation.frames,
        Address.isPageAligned address = false ∨ address < base ∨
          base + count * pageSize ≤ address ∨ held? past address = none
  /-- A frame is read as far as it and the buffer reach. -/
  readInto_of_held? : ∀ address page, held? past address = some page →
    ∀ buffer, ∃ filled, pool.readInto address buffer = .ok filled ∧
      filled.size = buffer.size ∧ ∀ index : Nat, filled[index]? =
        if index < pageSize ∧ index < buffer.size then page[index]?
        else buffer[index]?
  /-- Bytes are written as far as they and the frame reach. -/
  write_of_held? : ∀ address page, held? past address = some page →
    ∀ bytes : List UInt8, ∃ after now, pool.write address bytes = .ok after ∧
      after.read address = .ok now ∧ ∀ index : Nat, now[index]? =
        if index < bytes.length ∧ index < pageSize then bytes[index]?
        else page[index]?
  /-- No frame changes but the one that the event names. -/
  frames_of_run : ∀ (operation : Operation) (event : Event)
    (after : FramePool), operation.run pool = .ok (event, after) →
      ∀ number, event.changed? ≠ some (addressOf number) →
        after.frames[number]? = pool.frames[number]?

namespace Remembers

variable (remembers : Remembers count past pool)
include remembers

theorem mem_queue_iff : number ∈ pool.queue ↔
    number < count ∧ held? past (addressOf number) = none := by
  rw [remembers.isConsistent.mem_queue_iff_contents?, remembers.total,
    remembers.contents?]

theorem number_of_held? {page : Page} (held : held? past address = some page) :
    ∃ number < count, addressOf number = address := by
  rw [← remembers.contents?] at held
  obtain ⟨number, same, frame⟩ := contents?_eq_some_iff_frame.mp held
  rw [← remembers.total]
  exact ⟨number, (Array.getElem?_eq_some_iff.mp frame).1, same⟩

theorem lentCount_eq : pool.lentCount =
    ((Finset.range count).filter fun number =>
      (held? past (addressOf number)).isSome).card := by
  rw [remembers.isConsistent.lentCount_eq]
  have named : pool.lentFrames = ((Finset.range count).filter fun number =>
      (held? past (addressOf number)).isSome).image addressOf := by
    ext address
    simp only [mem_lentFrames, remembers.contents?, Finset.mem_image,
      Finset.mem_filter, Finset.mem_range]
    constructor
    · rintro ⟨page, held⟩
      obtain ⟨number, inside, rfl⟩ := remembers.number_of_held? held
      exact ⟨number, ⟨inside, Option.isSome_of_eq_some held⟩, rfl⟩
    · rintro ⟨number, ⟨_, held⟩, rfl⟩
      exact Option.isSome_iff_exists.mp held
  rw [named, Finset.card_image_of_injective]
  exact fun _ _ same => addressOf_inj.mp same

theorem allocate_eq_none_iff : pool.allocate.1 = none ↔
    ∀ number < count, (held? past (addressOf number)).isSome := by
  rw [FramePool.allocate_eq_none_iff, freeCount, List.length_eq_zero_iff,
    List.eq_nil_iff_forall_not_mem]
  simp only [remembers.mem_queue_iff, not_and, Option.isSome_iff_ne_none]

theorem allocate_eq_some_iff : pool.allocate.1 = some address ↔
    ∃ number < count, addressOf number = address ∧
      held? past address = none ∧
        ∀ other < count, other ≠ number →
          held? past (addressOf other) = none →
            FreedBefore past address (addressOf other) := by
  have inOrder := remembers.inOrder
  constructor
  · intro lent
    obtain ⟨number, queue, front, rfl, _⟩ :=
      FramePool.allocate_eq_some_iff.mp (Prod.ext lent rfl)
    have queued : number ∈ pool.queue := front ▸ List.mem_cons_self
    obtain ⟨inside, unlent⟩ := remembers.mem_queue_iff.mp queued
    refine ⟨number, inside, rfl, unlent, ?_⟩
    intro other otherInside different otherUnlent
    have waits := remembers.mem_queue_iff.mpr ⟨otherInside, otherUnlent⟩
    rw [front, List.mem_cons] at waits
    rw [front, List.pairwise_cons] at inOrder
    exact inOrder.1 other (waits.resolve_left different)
  · rintro ⟨number, inside, rfl, unlent, longest⟩
    have queued := remembers.mem_queue_iff.mpr ⟨inside, unlent⟩
    cases front : pool.queue with
    | nil =>
        rw [front] at queued
        cases queued
    | cons first queue =>
        rw [FramePool.allocate, front]
        have firstQueued : first ∈ pool.queue := front ▸ List.mem_cons_self
        obtain ⟨firstInside, firstUnlent⟩ :=
          remembers.mem_queue_iff.mp firstQueued
        rw [front, List.mem_cons] at queued
        rcases queued with same | waits
        · rw [same]
        · rw [front, List.pairwise_cons] at inOrder
          have earlier := inOrder.1 number waits
          by_cases same : first = number
          · rw [same]
          · exact absurd (longest first firstInside same firstUnlent)
              earlier.asymm

theorem unlent_iff : held? past address = none ↔
    Address.isPageAligned address = false ∨ address < base ∨
      base + count * pageSize ≤ address ∨ held? past address = none := by
  cases held : held? past address with
  | none => simp
  | some page =>
      obtain ⟨number, inside, rfl⟩ := remembers.number_of_held? held
      have aligned : Address.isPageAligned (addressOf number) = true := by
        simp only [Address.isPageAligned_iff, addressOf, base, pageSize]
        omega
      rw [aligned]
      simp only [addressOf, pageSize, reduceCtorEq, false_or, or_false,
        false_iff]
      omega

theorem accounts : pool.Accounts count past where
  nodup := remembers.isConsistent.nodup
  mem_queue_iff _ := remembers.mem_queue_iff
  freeCount_add_lentCount := by
    have whole := remembers.isConsistent.freeCount_add_card
    rw [← remembers.isConsistent.lentCount_eq, remembers.total] at whole
    exact whole
  lentCount_eq := remembers.lentCount_eq
  allocate_eq_none_iff := remembers.allocate_eq_none_iff
  allocate_eq_some_iff _ := remembers.allocate_eq_some_iff
  read_of_allocate address after lent := by
    obtain ⟨_, view⟩ := contents?_allocate remembers.isConsistent lent
    rw [← contents?_eq_some_iff, view, if_pos rfl]
  run_fails_iff operation := by
    simp only [FramePool.run_fails_iff, remembers.contents?,
      ← remembers.unlent_iff]
  readInto_of_held? address page held buffer := by
    rw [← remembers.contents?, contents?_eq_some_iff] at held
    refine ⟨_, by rw [readInto, held]; rfl, Bytes.size_overwrite _ _ _, ?_⟩
    intro index
    rw [Bytes.getElem?_overwrite]
    simp
  write_of_held? address page held bytes := by
    rw [← remembers.contents?] at held
    obtain ⟨after, written, view⟩ := write_of_contents? held bytes
    have now := view address
    rw [if_pos rfl, contents?_eq_some_iff] at now
    refine ⟨after, _, written, now, ?_⟩
    intro index
    rw [Page.overwrite, Vector.getElem?_mk, Bytes.getElem?_overwrite]
    simp
  frames_of_run operation event after ran :=
    (remembers.isConsistent.happens ran).frames

end Remembers

/-- Whatever a pool was asked for, it agrees with its past. -/
theorem accounts_of_runAll {operations : List Operation}
    (ran : runAll [] (new count) operations = .ok (past, pool)) :
    pool.Accounts count past :=
  (remembers_of_runAll (remembers_new count) ran).accounts

/-- The only frame of a pool is lent, written, taken back and lent again. -/
theorem accounts_of_runAll_one_frame :
    ∃ past pool, runAll [] (new 1)
        [.allocate, .write base [7], .release base, .allocate] =
          .ok (past, pool) ∧
      pool.Accounts 1 past := by
  have runs : (runAll [] (new 1)
      [.allocate, .write base [7], .release base, .allocate]).isOk = true := by
    decide +kernel
  cases ran : runAll [] (new 1)
      [.allocate, .write base [7], .release base, .allocate] with
  | error cause =>
      rw [ran] at runs
      cases runs
  | ok result => exact ⟨result.1, result.2, rfl, accounts_of_runAll ran⟩

end FramePool

end DemandPaging
