import DemandPaging.Proofs.FramePool.Lending

/-!
# What may be asked of a frame pool

Whatever is asked, a pool either does it, which is an event, or it is fatal.
An event concerns the frames that it names: it changes one of them at most, and
the queue gets shorter at its front and longer at its end only
(`IsConsistent.happens`).  An operation is fatal exactly when it names a frame
that is not lent (`run_fails_iff`).
-/

namespace DemandPaging

namespace FramePool

variable {pool after : FramePool} {address number : Nat}

/-- What may be asked of a pool. -/
inductive Operation where
  | allocate
  | release (address : Nat)
  /-- The frame is read into a buffer. -/
  | read (address : Nat) (buffer : Array UInt8)
  | write (address : Nat) (bytes : List UInt8)
  | clear (address : Nat)
  | copy (source target : Nat)

/-- What a pool did. -/
inductive Event where
  | lent (address : Nat)
  /-- No frame was free. -/
  | exhausted
  | released (address : Nat)
  /-- The frame was read, and the buffer is now this. -/
  | shown (address : Nat) (buffer : Array UInt8)
  | written (address : Nat) (bytes : List UInt8)
  | cleared (address : Nat)
  | copied (source target : Nat)

namespace Operation

/-- What the pool does, unless the operation is fatal. -/
def run (pool : FramePool) : Operation → Except Fatal (Event × FramePool)
  | allocate =>
    match pool.allocate with
    | (some address, after) => return (.lent address, after)
    | (none, after) => return (.exhausted, after)
  | release address => do
    let after ← pool.release address
    return (.released address, after)
  | read address buffer => do
    let filled ← pool.readInto address buffer
    return (.shown address filled, pool)
  | write address bytes => do
    let after ← pool.write address bytes
    return (.written address bytes, after)
  | clear address => do
    let after ← pool.clear address
    return (.cleared address, after)
  | copy source target => do
    let after ← pool.copy source target
    return (.copied source target, after)

/-- The frames that have to be lent for it. -/
def frames : Operation → List Nat
  | allocate => []
  | release address | read address _ | write address _ | clear address =>
    [address]
  | copy source target => [source, target]

end Operation

namespace Event

/-- The frame that changed. -/
def changed? : Event → Option Nat
  | lent address | released address | written address _ | cleared address
  | copied _ address => some address
  | exhausted | shown _ _ => none

/-- What the frame `other` holds after the event, if it is lent then. -/
def leaves (view : Nat → Option Page) (other : Nat) : Event → Option Page
  | lent address =>
    if other = address then some (Page.filled lentJunk) else view other
  | released address => if other = address then none else view other
  | written address bytes =>
    if other = address then (view other).map fun page => page.overwrite 0 bytes
    else view other
  | cleared address => if other = address then some Page.zero else view other
  | copied source target => if other = target then view source else view other
  | exhausted | shown _ _ => view other

/-- What became of the queue. -/
def Queues (before after : List Nat) : Event → Prop
  | lent address => ∃ number, addressOf number = address ∧
      before = number :: after
  | released address => ∃ number, addressOf number = address ∧
      after = before ++ [number]
  | exhausted | shown _ _ | written _ _ | cleared _ | copied _ _ =>
      after = before

end Event

variable {event : Event} {operation : Operation}

/-- What an event does to the frames and to the queue. -/
structure Happens (pool : FramePool) (event : Event) (after : FramePool) :
    Prop where
  isConsistent : after.IsConsistent
  total : after.total = pool.total
  contents? : ∀ other, after.contents? other =
    event.leaves pool.contents? other
  frames : ∀ number, event.changed? ≠ some (addressOf number) →
    after.frames[number]? = pool.frames[number]?
  queue : event.Queues pool.queue after.queue

theorem IsConsistent.unchanged (consistent : pool.IsConsistent)
    (leaves : ∀ other, event.leaves pool.contents? other = pool.contents? other)
    (queue : event.Queues pool.queue pool.queue) : pool.Happens event pool where
  isConsistent := consistent
  total := rfl
  contents? other := (leaves other).symm
  frames _ _ := rfl
  queue := queue

theorem frames_put_of_ne {frame : Frame} (other : Nat)
    (elsewhere : some (addressOf number) ≠ some (addressOf other)) :
    (pool.put number frame).frames[other]? = pool.frames[other]? := by
  rw [getElem?_frames_put, if_neg]
  rintro ⟨rfl, _⟩
  exact elsewhere rfl

theorem happens_lent (consistent : pool.IsConsistent)
    (lent : pool.allocate = (some address, after)) :
    pool.Happens (.lent address) after where
  isConsistent := consistent.allocate lent
  total := total_of_allocate lent
  contents? := (contents?_allocate consistent lent).2
  frames := by
    obtain ⟨number, queue, _, rfl, rfl⟩ := allocate_eq_some_iff.mp lent
    exact frames_put_of_ne
  queue := by
    obtain ⟨number, queue, front, rfl, rfl⟩ := allocate_eq_some_iff.mp lent
    exact ⟨number, rfl, front⟩

theorem happens_released (consistent : pool.IsConsistent)
    (released : pool.release address = .ok after) :
    pool.Happens (.released address) after where
  isConsistent := consistent.release released
  total := total_of_release released
  contents? := by
    obtain ⟨number, contents, named, frame, _⟩ :=
      release_eq_ok_iff.mp released
    obtain ⟨same, again, view⟩ := release_of_contents?
      (contents?_eq_some_iff_frame.mpr ⟨number, named, frame⟩)
    cases released.symm.trans again
    exact view
  frames := by
    obtain ⟨number, _, rfl, _, rfl⟩ := release_eq_ok_iff.mp released
    exact frames_put_of_ne
  queue := by
    obtain ⟨number, _, rfl, _, rfl⟩ := release_eq_ok_iff.mp released
    exact ⟨number, rfl, rfl⟩

/-- Whatever is written to a frame, it is all that changes. -/
theorem happens_of_write {bytes : List UInt8} (consistent : pool.IsConsistent)
    (written : pool.write address bytes = .ok after)
    (changed : event.changed? = some address)
    (leaves : ∀ contents other, pool.contents? address = some contents →
      event.leaves pool.contents? other =
        if other = address then some (contents.overwrite 0 bytes)
        else pool.contents? other)
    (queue : event.Queues pool.queue pool.queue) :
    pool.Happens event after where
  isConsistent := consistent.write written
  total := total_of_write written
  contents? other := by
    obtain ⟨contents, lent, view⟩ := contents?_of_write written
    rw [view, leaves contents other lent]
  frames := by
    obtain ⟨number, _, rfl, _, rfl⟩ := write_eq_ok_iff.mp written
    rw [changed]
    exact frames_put_of_ne
  queue := by
    obtain ⟨_, _, _, _, rfl⟩ := write_eq_ok_iff.mp written
    exact queue

theorem overwrite_toList (contents page : Page) :
    contents.overwrite 0 page.toList = page := by
  apply Vector.toList_inj.mp
  exact Page.toList_overwrite page.length_toList

theorem happens_written {bytes : List UInt8} (consistent : pool.IsConsistent)
    (written : pool.write address bytes = .ok after) :
    pool.Happens (.written address bytes) after := by
  apply happens_of_write consistent written
  · rfl
  · intro contents other lent
    simp only [Event.leaves]
    split
    · rename_i same
      rw [same, lent, Option.map_some]
    · rfl
  · rfl

theorem happens_cleared (consistent : pool.IsConsistent)
    (cleared : pool.clear address = .ok after) :
    pool.Happens (.cleared address) after := by
  apply happens_of_write consistent cleared
  · rfl
  · intro contents other _
    rw [overwrite_toList]
    rfl
  · rfl

theorem happens_copied {source target : Nat} (consistent : pool.IsConsistent)
    (copied : pool.copy source target = .ok after) :
    pool.Happens (.copied source target) after := by
  rw [FramePool.copy, bind_eq_ok_iff] at copied
  obtain ⟨page, read, written⟩ := copied
  apply happens_of_write consistent written
  · rfl
  · intro contents other _
    rw [overwrite_toList, ← contents?_eq_some_iff.mpr read]
    rfl
  · rfl

/-- Each operation that is not fatal is an event of the pool. -/
theorem IsConsistent.happens (consistent : pool.IsConsistent)
    (ran : operation.run pool = .ok (event, after)) :
    pool.Happens event after := by
  cases operation with
  | allocate =>
      simp only [Operation.run] at ran
      split at ran
      · rename_i lent
        cases ran
        exact happens_lent consistent lent
      · rename_i taken
        cases ran
        have same : after = pool := by
          unfold FramePool.allocate at taken
          split at taken <;> cases taken
          rfl
        rw [same]
        exact consistent.unchanged (fun _ => rfl) rfl
  | release address =>
      obtain ⟨_, released, ⟨⟩⟩ := bind_eq_ok_iff.mp ran
      exact happens_released consistent released
  | read address buffer =>
      obtain ⟨_, _, ⟨⟩⟩ := bind_eq_ok_iff.mp ran
      exact consistent.unchanged (fun _ => rfl) rfl
  | write address bytes =>
      obtain ⟨_, written, ⟨⟩⟩ := bind_eq_ok_iff.mp ran
      exact happens_written consistent written
  | clear address =>
      obtain ⟨_, cleared, ⟨⟩⟩ := bind_eq_ok_iff.mp ran
      exact happens_cleared consistent cleared
  | copy source target =>
      obtain ⟨_, copied, ⟨⟩⟩ := bind_eq_ok_iff.mp ran
      exact happens_copied consistent copied

/-- A sequence fails where its first part does, or where the rest does. -/
theorem bind_fails_iff {First Second : Type} {first : Except Fatal First}
    {next : First → Except Fatal Second} :
    (∃ cause, first >>= next = .error cause) ↔
      (∃ cause, first = .error cause) ∨
        ∃ result, first = .ok result ∧ ∃ cause, next result = .error cause := by
  cases first <;> simp [bind, Except.bind]

theorem map_fails_iff {First Second : Type} {first : Except Fatal First}
    {next : First → Second} :
    (∃ cause, (do
      let result ← first
      return next result) = Except.error cause) ↔
      ∃ cause, first = .error cause := by
  cases first <;> simp [bind, Except.bind, pure, Except.pure]

theorem lent_fails_iff : (∃ cause, pool.lent address = .error cause) ↔
    pool.contents? address = none := by
  unfold contents? read
  cases pool.lent address with
  | ok found => simp [Except.toOption, bind, Except.bind, pure, Except.pure]
  | error cause => simp [Except.toOption, bind, Except.bind]

theorem release_fails_iff : (∃ cause, pool.release address = .error cause) ↔
    pool.contents? address = none :=
  map_fails_iff.trans lent_fails_iff

theorem read_fails_iff : (∃ cause, pool.read address = .error cause) ↔
    pool.contents? address = none :=
  map_fails_iff.trans lent_fails_iff

theorem write_fails_iff {bytes : List UInt8} :
    (∃ cause, pool.write address bytes = .error cause) ↔
      pool.contents? address = none :=
  map_fails_iff.trans lent_fails_iff

/-- An operation is fatal exactly if it names a frame that is not lent. -/
theorem run_fails_iff : (∃ cause, operation.run pool = .error cause) ↔
    ∃ address ∈ operation.frames, pool.contents? address = none := by
  cases operation with
  | allocate =>
      rw [Operation.run, Operation.frames]
      split <;> simp [pure, Except.pure]
  | release address =>
      rw [Operation.run, map_fails_iff, release_fails_iff]
      simp [Operation.frames]
  | read address buffer =>
      rw [Operation.run, map_fails_iff, readInto, map_fails_iff, read_fails_iff]
      simp [Operation.frames]
  | write address bytes =>
      rw [Operation.run, map_fails_iff, write_fails_iff]
      simp [Operation.frames]
  | clear address =>
      rw [Operation.run, map_fails_iff, FramePool.clear, write_fails_iff]
      simp [Operation.frames]
  | copy source target =>
      rw [Operation.run, map_fails_iff, FramePool.copy, bind_fails_iff,
        read_fails_iff]
      simp only [write_fails_iff, Operation.frames, List.mem_cons,
        List.not_mem_nil, or_false, exists_eq_or_imp, exists_eq_left]
      cases read : pool.read source with
      | ok contents => simp
      | error cause =>
          have missing := read_fails_iff.mp ⟨cause, read⟩
          simp [missing]

end FramePool

end DemandPaging
