import DemandPaging.Fatal

/-!
# Arithmetic of the machine

Addresses, sizes and counters live in 64-bit words.  Sums and products that do
not fit are fatal; nothing wraps.
-/

namespace DemandPaging

namespace Word

/-- One past the greatest word. -/
abbrev limit : Nat := 1 <<< 64

/-- A result that has to fit in a word. -/
def fit (number : Nat) : Except Fatal Nat :=
  if number < limit then .ok number else .error .overflow

/-- The sum of two words. -/
def add (first second : Nat) : Except Fatal Nat :=
  fit (first + second)

/-- The product of two words. -/
def mul (first second : Nat) : Except Fatal Nat :=
  fit (first * second)

/-- The least page boundary at or above `address`.  It is found by way of the
address one page on, so it is fatal in the whole last page of the range, the
page's own base included. -/
def roundUp (address : Nat) : Except Fatal Nat := do
  let _ ← add address pageSize
  return Address.pageCeil address

/-- The address `pages` pages after `address`. -/
def addPages (address pages : Nat) : Except Fatal Nat := do
  add address (← mul pages pageSize)

theorem fit_eq_ok_iff {number result : Nat} :
    fit number = .ok result ↔ number < limit ∧ result = number := by
  unfold fit
  split
  · rename_i fits
    simp only [Except.ok.injEq, fits, true_and, eq_comm]
  · rename_i exceeds
    simp only [reduceCtorEq, exceeds, false_and]

theorem fit_of_le {number : Nat} (large : limit ≤ number) :
    fit number = .error .overflow := by
  rw [fit, if_neg (Nat.not_lt_of_le large)]

theorem add_of_lt {first second : Nat} (fits : first + second < limit) :
    add first second = .ok (first + second) := by
  simp [add, fit, fits]

theorem mul_of_lt {first second : Nat} (fits : first * second < limit) :
    mul first second = .ok (first * second) := by
  simp [mul, fit, fits]

theorem roundUp_of_lt {address : Nat}
    (fits : address + pageSize < limit) :
    roundUp address = .ok (Address.pageCeil address) := by
  rw [roundUp, add_of_lt fits]
  rfl

theorem roundUp_of_le {address : Nat}
    (large : limit ≤ address + pageSize) :
    roundUp address = .error .overflow := by
  rw [roundUp, add, fit_of_le large]
  rfl

-- Comparing a sum with the limit by unfolding it would count to the limit.
attribute [irreducible] fit

end Word

end DemandPaging
