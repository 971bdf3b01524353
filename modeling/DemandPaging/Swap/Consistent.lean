import DemandPaging.Swap.Lemmas

/-!
# Consistent swap spaces

The counter of a swap space is a copy of what its slots say.
-/

namespace DemandPaging

namespace SwapSpace

/-- The counter is the number of claimed slots. -/
def IsConsistent (swap : SwapSpace) : Prop :=
  swap.inUse = swap.used.count true

theorem isConsistent_over (slots : Nat) (file : SwapFile) :
    (SwapSpace.over slots file).IsConsistent := by
  simp [IsConsistent, SwapSpace.over, Array.count_replicate]

end SwapSpace

end DemandPaging
