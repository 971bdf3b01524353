import DemandPaging.FramePool.Consistent

/-!
# What a frame pool lends

The view of a pool is `FramePool.contents?`: what the lent frame at an address
holds.  Lending adds a frame to the view, taking it back removes it, writing
changes one frame, and all of them leave every other frame as it is.
-/

namespace DemandPaging

namespace FramePool

variable {pool after : FramePool} {address other : Nat} {contents : Page}

/-- The contents of the frame at `address`, if it is lent. -/
def contents? (pool : FramePool) (address : Nat) : Option Page :=
  (pool.read address).toOption

theorem contents?_eq_some_iff :
    pool.contents? address = some contents ↔
      pool.read address = .ok contents := by
  unfold contents?
  cases pool.read address with
  | ok held => simp [Except.toOption]
  | error cause => simp [Except.toOption]

theorem contents?_eq_some_iff_frame :
    pool.contents? address = some contents ↔
      ∃ number, addressOf number = address ∧
        pool.frames[number]? = some ⟨contents, true⟩ := by
  rw [contents?_eq_some_iff, read_eq_ok_iff]

theorem contents?_new (count address : Nat) :
    (new count).contents? address = none := by
  refine Option.eq_none_iff_forall_ne_some.mpr fun contents lent => ?_
  obtain ⟨number, _, frame⟩ := contents?_eq_some_iff_frame.mp lent
  rw [new, Array.getElem?_replicate] at frame
  split at frame <;> cases frame

theorem bounded_of_contents? (total_le : pool.total ≤ 1 <<< 32)
    (lent : pool.contents? address = some contents) :
    Address.pageBase address = address ∧ address < 1 <<< 64 := by
  obtain ⟨number, rfl, frame⟩ := contents?_eq_some_iff_frame.mp lent
  obtain ⟨inside, _⟩ := Array.getElem?_eq_some_iff.mp frame
  rw [total] at total_le
  simp only [addressOf, Address.pageBase, base, pageSize]
  omega

/-- What a pool lends after one frame changed. -/
private theorem contents?_of_put {number : Nat} {frame : Frame}
    (inside : number < pool.total)
    (frames : after.frames = (pool.put number frame).frames) (other : Nat) :
    after.contents? other =
      if other = addressOf number then
        if frame.isLent then some frame.contents else none
      else pool.contents? other := by
  refine Option.ext fun contents => ?_
  rw [contents?_eq_some_iff_frame, frames]
  simp only [getElem?_frames_put]
  by_cases same : other = addressOf number
  · subst same
    rw [if_pos rfl]
    obtain ⟨held, isLent⟩ := frame
    constructor
    · rintro ⟨index, position, found⟩
      obtain rfl := addressOf_inj.mp position
      rw [if_pos ⟨rfl, inside⟩] at found
      cases found
      rfl
    · intro shown
      cases isLent with
      | false => cases shown
      | true =>
          cases shown
          exact ⟨number, rfl, if_pos ⟨rfl, inside⟩⟩
  · rw [if_neg same, contents?_eq_some_iff_frame]
    refine exists_congr fun index => and_congr_right fun position => ?_
    rw [if_neg]
    rintro ⟨rfl, _⟩
    exact same position.symm

/-- A frame that is lent is new to the view. -/
theorem contents?_allocate (consistent : pool.IsConsistent)
    (lent : pool.allocate = (some address, after)) :
    pool.contents? address = none ∧
      ∀ other, after.contents? other =
        if other = address then some (Page.filled lentJunk)
        else pool.contents? other := by
  obtain ⟨number, queue, front, rfl, rfl⟩ := allocate_eq_some_iff.mp lent
  have isFront : number ∈ pool.queue := by simp [front]
  obtain ⟨held, isFree⟩ := (consistent.mem_queue_iff number).mp isFront
  obtain ⟨inside, _⟩ := Array.getElem?_eq_some_iff.mp isFree
  constructor
  · refine Option.eq_none_iff_forall_ne_some.mpr fun contents shown => ?_
    obtain ⟨index, position, frame⟩ := contents?_eq_some_iff_frame.mp shown
    obtain rfl := addressOf_inj.mp position
    cases isFree.symm.trans frame
  · intro other
    exact contents?_of_put inside rfl other

theorem release_of_contents? (lent : pool.contents? address = some contents) :
    ∃ after, pool.release address = .ok after ∧
      ∀ other, after.contents? other =
        if other = address then none else pool.contents? other := by
  obtain ⟨number, rfl, frame⟩ := contents?_eq_some_iff_frame.mp lent
  obtain ⟨inside, _⟩ := Array.getElem?_eq_some_iff.mp frame
  exact ⟨_, release_eq_ok_iff.mpr ⟨number, contents, rfl, frame, rfl⟩,
    fun other => contents?_of_put inside rfl other⟩

/-- A lent frame can be written, and nothing else changes. -/
theorem write_of_contents? (lent : pool.contents? address = some contents)
    (bytes : List UInt8) :
    ∃ after, pool.write address bytes = .ok after ∧
      ∀ other, after.contents? other =
        if other = address then some (contents.overwrite 0 bytes)
        else pool.contents? other := by
  obtain ⟨number, rfl, frame⟩ := contents?_eq_some_iff_frame.mp lent
  obtain ⟨inside, _⟩ := Array.getElem?_eq_some_iff.mp frame
  exact ⟨_, write_eq_ok_iff.mpr ⟨number, contents, rfl, frame, rfl⟩,
    fun other => contents?_of_put inside rfl other⟩

theorem contents?_of_write {bytes : List UInt8}
    (written : pool.write address bytes = .ok after) :
    ∃ contents, pool.contents? address = some contents ∧
      ∀ other, after.contents? other =
        if other = address then some (contents.overwrite 0 bytes)
        else pool.contents? other := by
  obtain ⟨number, contents, rfl, frame, rfl⟩ := write_eq_ok_iff.mp written
  obtain ⟨inside, _⟩ := Array.getElem?_eq_some_iff.mp frame
  exact ⟨contents, contents?_eq_some_iff_frame.mpr ⟨number, rfl, frame⟩,
    fun other => contents?_of_put inside rfl other⟩

theorem total_of_write {bytes : List UInt8}
    (written : pool.write address bytes = .ok after) :
    after.total = pool.total := by
  obtain ⟨_, _, _, _, rfl⟩ := write_eq_ok_iff.mp written
  exact total_put _

theorem total_of_release (released : pool.release address = .ok after) :
    after.total = pool.total := by
  obtain ⟨_, _, _, _, rfl⟩ := release_eq_ok_iff.mp released
  simp [total, put]

theorem total_of_allocate (lent : pool.allocate = (some address, after)) :
    after.total = pool.total := by
  obtain ⟨_, _, _, _, rfl⟩ := allocate_eq_some_iff.mp lent
  simp [total, put]

theorem IsConsistent.write {bytes : List UInt8}
    (consistent : pool.IsConsistent)
    (written : pool.write address bytes = .ok after) : after.IsConsistent := by
  obtain ⟨number, contents, _, frame, rfl⟩ := write_eq_ok_iff.mp written
  refine ⟨consistent.nodup, fun index => ?_⟩
  rw [queue_put, consistent.mem_queue_iff]
  simp only [getElem?_frames_put]
  by_cases same : number = index ∧ index < pool.total
  · obtain ⟨rfl, inside⟩ := same
    simp [inside, frame]
  · simp [same]

theorem IsConsistent.release (consistent : pool.IsConsistent)
    (released : pool.release address = .ok after) : after.IsConsistent := by
  obtain ⟨number, contents, _, frame, rfl⟩ := release_eq_ok_iff.mp released
  obtain ⟨inside, _⟩ := Array.getElem?_eq_some_iff.mp frame
  have notQueued : number ∉ pool.queue := by
    intro queued
    obtain ⟨held, isFree⟩ := (consistent.mem_queue_iff number).mp queued
    cases isFree.symm.trans frame
  constructor
  · rw [List.nodup_append]
    refine ⟨consistent.nodup, by simp, ?_⟩
    rintro index queued other (_ | ⟨_, ⟨⟩⟩) rfl
    exact notQueued queued
  · intro index
    rw [List.mem_append, consistent.mem_queue_iff]
    simp only [getElem?_frames_put, List.mem_singleton]
    by_cases same : number = index
    · subst same
      simp only [total, inside, and_self, ↓reduceIte, Option.some.injEq,
        Frame.mk.injEq, and_true, exists_eq', or_true]
    · simp [same, Ne.symm same]

theorem IsConsistent.allocate (consistent : pool.IsConsistent)
    (lent : pool.allocate = (some address, after)) : after.IsConsistent := by
  obtain ⟨number, queue, front, rfl, rfl⟩ := allocate_eq_some_iff.mp lent
  have queueNodup := consistent.nodup
  rw [front, List.nodup_cons] at queueNodup
  refine ⟨queueNodup.2, fun index => ?_⟩
  have queued := consistent.mem_queue_iff index
  rw [front, List.mem_cons] at queued
  simp only [getElem?_frames_put]
  by_cases same : number = index
  · subst same
    obtain ⟨held, isFree⟩ := queued.mp (.inl rfl)
    obtain ⟨inside, _⟩ := Array.getElem?_eq_some_iff.mp isFree
    simp [total, inside, queueNodup.1]
  · rw [if_neg (fun both => same both.1), ← queued]
    simp [Ne.symm same]

end FramePool

end DemandPaging
