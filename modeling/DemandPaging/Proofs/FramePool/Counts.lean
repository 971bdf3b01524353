import DemandPaging.Proofs.FramePool.Lending
import DemandPaging.Proofs.Positions

/-!
# How many frames a pool lends

The queue of a consistent pool has each frame that is not lent, so what is not
in the queue is lent, and the view of the pool tells how many frames that are.
-/

namespace DemandPaging

namespace FramePool

variable {pool other : FramePool} {address : Nat}

/-- The addresses of the frames that are lent. -/
def lentFrames (pool : FramePool) : Finset Nat :=
  (positions Frame.isLent pool.frames).image addressOf

theorem mem_lentFrames :
    address ∈ pool.lentFrames ↔
      ∃ contents, pool.contents? address = some contents := by
  simp only [lentFrames, Finset.mem_image, mem_positions,
    contents?_eq_some_iff_frame]
  constructor
  · rintro ⟨number, ⟨⟨contents, isLent⟩, frame, rfl⟩, same⟩
    exact ⟨contents, number, same, frame⟩
  · rintro ⟨contents, number, same, frame⟩
    exact ⟨number, ⟨_, frame, rfl⟩, same⟩

theorem lentFrames_congr
    (same : ∀ address, other.contents? address = pool.contents? address) :
    other.lentFrames = pool.lentFrames := by
  ext address
  simp only [mem_lentFrames, same]

theorem IsConsistent.freeCount_add_card (consistent : pool.IsConsistent) :
    pool.freeCount + pool.lentFrames.card = pool.total := by
  have waiting : pool.queue.toFinset =
      positions (fun frame => !frame.isLent) pool.frames := by
    ext number
    rw [List.mem_toFinset, consistent.mem_queue_iff, mem_positions]
    constructor
    · rintro ⟨contents, frame⟩
      exact ⟨_, frame, rfl⟩
    · rintro ⟨⟨contents, isLent⟩, frame, isFree⟩
      cases isLent with
      | true => cases isFree
      | false => exact ⟨contents, frame⟩
  have free : pool.freeCount =
      pool.frames.countP fun frame => !frame.isLent := by
    rw [← card_positions, ← waiting,
      List.toFinset_card_of_nodup consistent.nodup, freeCount]
  have split : pool.total = pool.frames.countP Frame.isLent +
      pool.frames.countP fun frame => !frame.isLent := by
    rw [total, ← Array.length_toList, ← Array.countP_toList,
      ← Array.countP_toList, List.length_eq_countP_add_countP Frame.isLent]
    simp
  have named : pool.lentFrames.card = pool.frames.countP Frame.isLent := by
    rw [lentFrames, Finset.card_image_of_injective, card_positions]
    exact fun _ _ same => addressOf_inj.mp same
  rw [free, named]
  omega

theorem IsConsistent.lentCount_eq (consistent : pool.IsConsistent) :
    pool.lentCount = pool.lentFrames.card := by
  have whole := consistent.freeCount_add_card
  rw [lentCount]
  omega

end FramePool

end DemandPaging
