import DemandPaging.Proofs.AddressSpace.Ready

/-!
# Spaces side by side

Spaces on one host take their frames from the same pools.  To an operation on
one of them the frames of the others are lent frames that none of its pages is
in, and those it leaves as they are.
-/

namespace DemandPaging

namespace AddressSpace

open Pager (Confined)

variable {state after : Hosted AddressSpace} {other : AddressSpace}
  {number frame : Nat} {contents : Page}

/-- Frames that are lent and not the space's own stay so. -/
def LeavesUnowned (before after : Pager) : Prop :=
  ∀ frame contents, before.Unowned frame contents →
    after.Unowned frame contents

/-- No page of one space is in the frame of a page of the other. -/
def Apart (first second : AddressSpace) : Prop :=
  first.pool = second.pool → ∀ address other,
    (first.table.entryAt address).isValid = true →
      (second.table.entryAt other).isValid = true →
        (first.table.entryAt address).address ≠
          (second.table.entryAt other).address

theorem Apart.symm {first second : AddressSpace}
    (apart : Apart first second) : Apart second first :=
  fun same address other isValid otherValid equal =>
    apart same.symm other address otherValid isValid equal.symm

theorem logicalPage?_of_heldBy {before host : Host}
    (heldBy : (pager ⟨other, before⟩).HeldBy (host.pool other.pool)) :
    logicalPage? ⟨other, host⟩ = logicalPage? ⟨other, before⟩ := by
  funext address
  rw [logicalPage?_eq, logicalPage?_eq]
  exact heldBy.logicalPage? address

namespace Changes

/-- A lent frame that is not the space's own has what it had. -/
theorem keeps_lent (changes : Changes state LeavesUnowned after)
    (lent : (state.host.pool number).contents? frame = some contents)
    (notOwned : number = state.focus.pool →
      ∀ address, (state.focus.table.entryAt address).isValid = true →
        (state.focus.table.entryAt address).address ≠ frame) :
    (after.host.pool number).contents? frame = some contents := by
  by_cases own : number = state.focus.pool
  · subst own
    have still := (changes.parts frame contents ⟨lent, notOwned rfl⟩).1
    change (after.host.pool after.focus.pool).contents? frame = _ at still
    rwa [changes.stays.pool] at still
  · rw [changes.stays.elsewhere number own]
    exact lent

/-- The pages of another space are as they were. -/
theorem heldBy (changes : Changes state Confined after)
    (consistent : (pager after).frames.IsConsistent)
    (otherConsistent : (state.host.pool other.pool).IsConsistent)
    (framed : ∀ address, (other.table.entryAt address).isValid = true →
      ∃ contents, (state.host.pool other.pool).contents?
        (other.table.entryAt address).address = some contents)
    (apart : Apart other state.focus) :
    (pager ⟨other, state.host⟩).HeldBy (after.host.pool other.pool) := by
  have ownPool : (pager after).frames = after.host.pool state.focus.pool :=
    congrArg after.host.pool changes.stays.pool
  constructor
  · by_cases own : other.pool = state.focus.pool
    · have total := changes.parts.shape.total
      rw [ownPool] at total
      rw [own, total, pager, pager, own]
    · rw [changes.stays.elsewhere _ own]
      rfl
  · by_cases own : other.pool = state.focus.pool
    · rw [own, ← ownPool]
      exact consistent
    · rw [changes.stays.elsewhere _ own]
      exact otherConsistent
  · intro address isValid
    obtain ⟨contents, lent⟩ := framed address isValid
    have leaves : Changes state LeavesUnowned after :=
      changes.mono fun confined frame contents =>
        (confined.unowned frame contents).mpr
    refine (leaves.keeps_lent lent fun own second secondValid same => ?_).trans
      lent.symm
    exact apart own address second isValid secondValid same.symm

end Changes

end AddressSpace

end DemandPaging
