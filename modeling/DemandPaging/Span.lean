import DemandPaging.Address

/-!
# Ranges of bytes, page by page

A range of addresses is cut into runs, each within one page: the first reaches
to the end of its page or of the range, and the rest is cut in the same way
(`runs_of_pos`).
-/

namespace DemandPaging

/-- Consecutive bytes within one page. -/
structure Run where
  address : Nat
  length : Nat
  deriving DecidableEq

namespace Span

/-- The bytes from `address` to the end of its page. -/
def room (address : Nat) : Nat :=
  pageSize - Address.pageOffset address

/-- The bytes of a range that lie in its first page. -/
def first (address length : Nat) : Nat :=
  min (room address) length

/-- The runs of a range, as far as they lie in its first `pages` pages. -/
def runsWithin : (pages : Nat) → (address length : Nat) → List Run
  | 0, _, _ => []
  | pages + 1, address, length =>
    if length = 0 then
      []
    else
      ⟨address, first address length⟩ ::
        runsWithin pages (address + first address length)
          (length - first address length)

/-- The runs of the range of `length` bytes from `address` on. -/
def runs (address length : Nat) : List Run :=
  runsWithin (length / pageSize + 2) address length

theorem room_pos (address : Nat) : 0 < room address := by
  have := Address.pageOffset_lt address
  simp only [room]
  omega

theorem first_le (address length : Nat) : first address length ≤ length :=
  Nat.min_le_right _ _

theorem first_pos (address : Nat) {length : Nat} (pos : 0 < length) :
    0 < first address length :=
  Nat.lt_min.mpr ⟨room_pos address, pos⟩

theorem pageOffset_add_first_le (address length : Nat) :
    Address.pageOffset address + first address length ≤ pageSize := by
  have bounded : first address length ≤ room address := Nat.min_le_left _ _
  have := Address.pageOffset_lt address
  rw [room] at bounded
  omega

theorem pageOffset_add_first {address length : Nat}
    (long : first address length < length) :
    Address.pageOffset (address + first address length) = 0 := by
  have firstEq : first address length = room address := by
    unfold first at *
    omega
  rw [firstEq]
  simp only [room, Address.pageOffset, pageSize]
  omega

/-- A range that begins a page needs no more pages than it has full pages, and
one for the rest. -/
private theorem runsWithin_of_aligned {pages more address length : Nat}
    (aligned : Address.pageOffset address = 0)
    (enough : length / 4096 < pages) (enoughMore : length / 4096 < more) :
    runsWithin pages address length = runsWithin more address length := by
  induction pages generalizing more address length with
  | zero => omega
  | succ pages ih =>
      obtain _ | more := more
      · omega
      rw [runsWithin, runsWithin]
      by_cases none : length = 0
      · rw [if_pos none, if_pos none]
      · rw [if_neg none, if_neg none]
        congr 1
        by_cases long : first address length < length
        · have firstEq : first address length = 4096 := by
            simp only [first, room, aligned, pageSize] at long ⊢
            omega
          refine ih (pageOffset_add_first long) ?_ ?_ <;>
            · rw [firstEq] at long ⊢
              omega
        · have whole : length - first address length = 0 := by omega
          rw [whole]
          cases pages <;> cases more <;> rfl

@[simp]
theorem runs_zero (address : Nat) : runs address 0 = [] :=
  rfl

/-- The first run of a range is followed by the runs of the rest. -/
theorem runs_of_pos {address length : Nat} (pos : 0 < length) :
    runs address length =
      ⟨address, first address length⟩ ::
        runs (address + first address length)
          (length - first address length) := by
  rw [runs, runsWithin, if_neg (by omega)]
  congr 1
  by_cases long : first address length < length
  · have lessPages : (length - first address length) / 4096 ≤ length / 4096 :=
      Nat.div_le_div_right (Nat.sub_le _ _)
    refine runsWithin_of_aligned (pageOffset_add_first long) ?_ ?_ <;>
      · simp only [pageSize]
        omega
  · have whole : length - first address length = 0 := by omega
    rw [whole]
    rfl

end Span

end DemandPaging
