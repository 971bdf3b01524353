import DemandPaging.FramePool

/-!
# What the operations of a frame pool do

The view of a pool is the content of its frames, each named by its address.
Every operation on a frame succeeds exactly when the address is that of a lent
frame (`lent_eq_ok_iff`).
-/

namespace DemandPaging

namespace FramePool

variable {pool after : FramePool} {address number : Nat} {contents : Page}

theorem addressOf_inj {other : Nat} :
    addressOf number = addressOf other ↔ number = other := by
  simp only [addressOf, pageSize]
  omega

/-- What is put in place of a frame is there, and the other frames are as
before. -/
theorem getElem?_frames_put (frame : Frame) (other : Nat) :
    (pool.put number frame).frames[other]? =
      if number = other ∧ other < pool.total then some frame
      else pool.frames[other]? := by
  simp only [put, total, Array.getElem?_setIfInBounds]
  by_cases same : number = other
  · subst same
    by_cases inside : number < pool.frames.size <;> simp [inside]
  · simp [same]

@[simp]
theorem total_put (frame : Frame) :
    (pool.put number frame).total = pool.total := by
  simp [put, total]

@[simp]
theorem queue_put (frame : Frame) :
    (pool.put number frame).queue = pool.queue :=
  rfl

theorem numberOf_eq_ok_iff :
    pool.numberOf address = .ok number ↔
      number < pool.total ∧ addressOf number = address := by
  constructor
  · exact addressOf_of_numberOf
  · rintro ⟨inside, rfl⟩
    exact pool.numberOf_addressOf inside

theorem lent_eq_ok_iff :
    pool.lent address = .ok (number, contents) ↔
      addressOf number = address ∧
        pool.frames[number]? = some ⟨contents, true⟩ := by
  simp only [lent, bind_eq_ok_iff, numberOf_eq_ok_iff]
  constructor
  · rintro ⟨found, ⟨_, named⟩, success⟩
    split at success
    · rename_i held frame
      cases success
      exact ⟨named, frame⟩
    · cases success
  · rintro ⟨named, frame⟩
    obtain ⟨inside, _⟩ := Array.getElem?_eq_some_iff.mp frame
    refine ⟨number, ⟨inside, named⟩, ?_⟩
    rw [frame]
    rfl

theorem read_eq_ok_iff :
    pool.read address = .ok contents ↔
      ∃ number, addressOf number = address ∧
        pool.frames[number]? = some ⟨contents, true⟩ := by
  simp only [read, bind_eq_ok_iff, Prod.exists, lent_eq_ok_iff]
  constructor
  · rintro ⟨number, _, frame, ⟨⟩⟩
    exact ⟨number, frame⟩
  · rintro ⟨number, frame⟩
    exact ⟨number, contents, frame, rfl⟩

/-- Writing overwrites the beginning of a lent frame. -/
theorem write_eq_ok_iff {bytes : List UInt8} :
    pool.write address bytes = .ok after ↔
      ∃ number contents, addressOf number = address ∧
        pool.frames[number]? = some ⟨contents, true⟩ ∧
          after = pool.put number ⟨contents.overwrite 0 bytes, true⟩ := by
  simp only [write, bind_eq_ok_iff, Prod.exists, lent_eq_ok_iff, and_assoc]
  refine exists_congr fun number => exists_congr fun contents =>
    and_congr_right fun _ => and_congr_right fun _ => ?_
  exact ⟨fun success => (Except.ok.inj success).symm,
    fun same => congrArg Except.ok same.symm⟩

/-- A frame that is given back is filled with junk and joins the end of the
queue. -/
theorem release_eq_ok_iff :
    pool.release address = .ok after ↔
      ∃ number contents, addressOf number = address ∧
        pool.frames[number]? = some ⟨contents, true⟩ ∧
          after =
            { pool.put number ⟨Page.filled freeJunk, false⟩ with
              queue := pool.queue ++ [number] } := by
  simp only [release, bind_eq_ok_iff, Prod.exists, lent_eq_ok_iff, and_assoc]
  refine exists_congr fun number => exists_congr fun contents =>
    and_congr_right fun _ => and_congr_right fun _ => ?_
  exact ⟨fun success => (Except.ok.inj success).symm,
    fun same => congrArg Except.ok same.symm⟩

/-- The frame that is lent is the one at the front of the queue. -/
theorem allocate_eq_some_iff :
    pool.allocate = (some address, after) ↔
      ∃ number queue, pool.queue = number :: queue ∧
        address = addressOf number ∧
          after =
            { pool.put number ⟨Page.filled lentJunk, true⟩ with queue } := by
  unfold allocate
  split
  · rename_i isEmpty
    simp [isEmpty]
  · rename_i number queue front
    simp only [front, Prod.mk.injEq, Option.some.injEq, List.cons.injEq]
    constructor
    · rintro ⟨rfl, rfl⟩
      exact ⟨number, queue, ⟨rfl, rfl⟩, rfl, rfl⟩
    · rintro ⟨_, _, ⟨rfl, rfl⟩, rfl, rfl⟩
      exact ⟨rfl, rfl⟩

end FramePool

end DemandPaging
