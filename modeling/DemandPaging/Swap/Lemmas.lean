import DemandPaging.Swap.Space

/-!
# What the operations of a swap space do

The view of the slots is `SwapSpace.isClaimed`.  Claiming and releasing change
it at one slot and leave the file alone; transfers change the file alone.
-/

namespace DemandPaging

namespace SwapSpace

variable {swap after : SwapSpace} {slot : Nat}

theorem isClaimed_iff :
    swap.isClaimed slot = true ↔ swap.used[slot]? = some true := by
  unfold isClaimed
  cases swap.used[slot]? <;> simp

@[simp]
theorem capacity_take : (swap.take slot).capacity = swap.capacity := by
  simp [take, capacity]

theorem isClaimed_take (inside : slot < swap.capacity) (other : Nat) :
    (swap.take slot).isClaimed other =
      if slot = other then true else swap.isClaimed other := by
  unfold isClaimed take
  rw [capacity] at inside
  simp only [Array.getElem?_setIfInBounds]
  by_cases same : slot = other
  · subst same
    simp [inside]
  · simp [same]

/-- The slot that is claimed is the lowest one that was not. -/
theorem claim_eq_some_iff :
    swap.claim = (some slot, after) ↔
      swap.used[slot]? = some false ∧
        (∀ other, other < slot → swap.isClaimed other = true) ∧
          after = swap.take slot := by
  have lowest : swap.used.findIdx? (fun claimed => !claimed) = some slot ↔
      swap.used[slot]? = some false ∧
        ∀ other, other < slot → swap.isClaimed other = true := by
    rw [Array.findIdx?_eq_some_iff_getElem]
    simp only [isClaimed_iff, Array.getElem?_eq_some_iff]
    constructor
    · rintro ⟨inside, isFree, before⟩
      refine ⟨⟨inside, by simpa using isFree⟩, fun other less => ?_⟩
      exact ⟨by omega, by simpa using before other less⟩
    · rintro ⟨⟨inside, isFree⟩, before⟩
      refine ⟨inside, by simpa using isFree, fun other less => ?_⟩
      obtain ⟨_, claimed⟩ := before other less
      simpa using claimed
  rw [← and_assoc, ← lowest, claim]
  split
  · rename_i found same
    rw [same]
    simp only [Prod.mk.injEq, Option.some.injEq]
    constructor
    · rintro ⟨rfl, rfl⟩
      exact ⟨rfl, rfl⟩
    · rintro ⟨rfl, rfl⟩
      exact ⟨rfl, rfl⟩
  · rename_i same
    rw [same]
    simp

theorem claim_eq_none_iff :
    swap.claim = (none, after) ↔
      (∀ slot, slot < swap.capacity → swap.isClaimed slot = true) ∧
        after = swap := by
  have full : swap.used.findIdx? (fun claimed => !claimed) = none ↔
      ∀ slot, slot < swap.capacity → swap.isClaimed slot = true := by
    rw [Array.findIdx?_eq_none_iff]
    simp only [isClaimed_iff, Array.getElem?_eq_some_iff]
    constructor
    · intro claimed slot inside
      refine ⟨inside, ?_⟩
      simpa using claimed _ (Array.getElem_mem inside)
    · intro claimed held member
      obtain ⟨slot, inside, rfl⟩ := Array.mem_iff_getElem.mp member
      obtain ⟨_, isClaimed⟩ := claimed slot inside
      simp [isClaimed]
  rw [← full, claim]
  split
  · rename_i found same
    simp [same]
  · rename_i same
    simp [same, eq_comm]

theorem claimAt_eq_ok_iff :
    swap.claimAt slot = .ok after ↔
      swap.used[slot]? = some false ∧ after = swap.take slot := by
  unfold claimAt
  cases swap.used[slot]? with
  | none => simp
  | some claimed => cases claimed <;> simp [eq_comm]

theorem release_eq_ok_iff :
    swap.release slot = .ok after ↔
      swap.used[slot]? = some true ∧
        after =
          { swap with
            used := swap.used.setIfInBounds slot false
            inUse := swap.inUse - 1 } := by
  unfold release
  cases swap.used[slot]? with
  | none => simp
  | some claimed => cases claimed <;> simp [eq_comm]

end SwapSpace

end DemandPaging
