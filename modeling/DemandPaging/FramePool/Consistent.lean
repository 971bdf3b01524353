import DemandPaging.FramePool.Lemmas

/-!
# Consistent frame pools

The queue of a pool is a copy of what its frames say: it has each frame that is
not lent, once.
-/

namespace DemandPaging

namespace FramePool

/-- The queue has each frame that is not lent, once. -/
structure IsConsistent (pool : FramePool) : Prop where
  nodup : pool.queue.Nodup
  mem_queue_iff : ∀ number, number ∈ pool.queue ↔
    ∃ contents, pool.frames[number]? = some ⟨contents, false⟩

theorem isConsistent_new (count : Nat) : (new count).IsConsistent where
  nodup := List.nodup_range
  mem_queue_iff := by
    intro number
    simp only [new, List.mem_range, Array.getElem?_replicate,
      Option.ite_none_right_eq_some, Option.some.injEq, Frame.mk.injEq,
      and_true, exists_and_left, exists_eq', and_true]

end FramePool

end DemandPaging
