import DemandPaging.Proofs.Replacement.Lineup
import Mathlib.Algebra.Group.Nat.Defs
import Mathlib.Data.List.Lex

/-!
# What a recency remembers

A recency that ages is a history of references.  Each tick moves it down by one
bit and puts the mark that it found in the highest, so the last 64 marks are the
bits of the number, the latest in the highest bit (`testBit_remembered`), above
what the first recency has left.  Of two recencies that began alike the less is
the one whose marks are less, the latest mark counting first
(`remembered_lt_iff`).
-/

namespace DemandPaging

namespace Policy

variable {first recency : Nat} {mark : Bool} {marks others : List Bool}

theorem aged_lt (bounded : recency < Word.limit) :
    aged recency mark < Word.limit := by
  simp only [aged, Word.limit] at *
  cases mark <;> simp <;> omega

/-- A recency after ticks that found the page marked as `marks` says, the mark
of the last tick first. -/
def remembered (first : Nat) : (marks : List Bool) → Nat
  | [] => first
  | mark :: earlier => aged (remembered first earlier) mark

theorem remembered_append (first : Nat) (later earlier : List Bool) :
    remembered first (later ++ earlier) =
      remembered (remembered first earlier) later := by
  induction later with
  | nil => rfl
  | cons mark later ih =>
      rw [List.cons_append, remembered, remembered, ih]

theorem remembered_lt (bounded : first < Word.limit) (marks : List Bool) :
    remembered first marks < Word.limit := by
  induction marks with
  | nil => exact bounded
  | cons mark marks ih => exact aged_lt ih

theorem testBit_aged (bounded : recency < Word.limit) (bit : Nat) :
    (aged recency mark).testBit bit =
      if bit = 63 then mark else recency.testBit (bit + 1) := by
  have half : recency / 2 < 2 ^ 63 := by
    simp only [Word.limit] at bounded
    omega
  rw [Nat.testBit_succ, aged]
  cases mark with
  | false =>
      rw [if_neg Bool.false_ne_true, Nat.add_zero]
      split
      · rename_i highest
        rw [highest]
        exact Nat.testBit_lt_two_pow half
      · rfl
  | true =>
      rw [if_pos rfl, Nat.add_comm, Nat.one_shiftLeft]
      obtain below | rfl | above := Nat.lt_trichotomy bit 63
      · rw [Nat.testBit_two_pow_add_gt below, if_neg (Nat.ne_of_lt below)]
      · rw [Nat.testBit_two_pow_add_eq, if_pos rfl,
          Nat.testBit_lt_two_pow half]
        rfl
      · have wide : 2 ^ 64 ≤ 2 ^ bit := Nat.pow_le_pow_right (by decide) above
        rw [if_neg (Nat.ne_of_gt above), Nat.testBit_lt_two_pow (by omega),
          Nat.testBit_lt_two_pow (by omega)]

/-- The bits of a recency are those of the first one, as many places lower as
there were ticks, and above them the marks that the last 64 ticks found. -/
theorem testBit_remembered (bounded : first < Word.limit) (bit : Nat) :
    (remembered first marks).testBit bit = true ↔
      (first >>> marks.length).testBit bit = true ∨
        ∃ age < 64, bit = 63 - age ∧ marks[age]? = some true := by
  induction marks generalizing bit with
  | nil => simp [remembered]
  | cons mark marks ih =>
      rw [remembered, testBit_aged (remembered_lt bounded marks)]
      by_cases highest : bit = 63
      · subst highest
        have gone : (first >>> (mark :: marks).length).testBit 63 = false := by
          rw [Nat.testBit_shiftRight, List.length_cons]
          have wide : 2 ^ 64 ≤ 2 ^ (marks.length + 1 + 63) :=
            Nat.pow_le_pow_right (by decide) (by omega)
          exact Nat.testBit_lt_two_pow (Nat.lt_of_lt_of_le bounded wide)
        rw [if_pos rfl, gone]
        constructor
        · rintro rfl
          exact .inr ⟨0, by decide, rfl, rfl⟩
        · rintro (impossible | ⟨age, _, same, found⟩)
          · cases impossible
          · obtain rfl : age = 0 := by omega
            exact Option.some.inj found
      · rw [if_neg highest, ih, Nat.testBit_shiftRight, Nat.testBit_shiftRight,
          List.length_cons, Nat.add_right_comm, Nat.add_assoc]
        refine or_congr_right ⟨?_, ?_⟩
        · rintro ⟨age, recent, same, found⟩
          exact ⟨age + 1, by omega, by omega, found⟩
        · rintro ⟨age, recent, same, found⟩
          cases age with
          | zero => exact absurd same highest
          | succ age => exact ⟨age, by omega, by omega, found⟩

/-- The `count + 1` highest bits are the mark and the `count` highest bits of
before. -/
theorem aged_div {count : Nat} (fits : count < 64) :
    aged recency mark / 2 ^ (63 - count) =
      recency / 2 ^ (64 - count) + if mark then 2 ^ count else 0 := by
  have split : 2 ^ 63 = 2 ^ count * 2 ^ (63 - count) := by
    rw [← Nat.pow_add]
    congr 1
    omega
  have halves : recency / 2 / 2 ^ (63 - count) =
      recency / 2 ^ (64 - count) := by
    rw [Nat.div_div_eq_div_mul, ← Nat.pow_succ']
    congr 2
    omega
  rw [aged, ← halves]
  cases mark with
  | false => rfl
  | true =>
      rw [if_pos rfl, if_pos rfl, Nat.one_shiftLeft, split,
        Nat.add_mul_div_right _ _ (Nat.two_pow_pos _)]

theorem div_lt_two_pow (bounded : recency < Word.limit) {count : Nat}
    (fits : count ≤ 64) : recency / 2 ^ (64 - count) < 2 ^ count := by
  rw [Nat.div_lt_iff_lt_mul (Nat.two_pow_pos _), ← Nat.pow_add,
    Nat.add_sub_cancel' fits]
  exact bounded

/-- The `count` highest bits of two recencies that began alike compare as the
last `count` marks do. -/
theorem remembered_div_cases (bounded : first < Word.limit)
    (same : marks.length = others.length) {count : Nat} (fits : count ≤ 64) :
    (remembered first marks / 2 ^ (64 - count) <
        remembered first others / 2 ^ (64 - count) ↔
      marks.take count < others.take count) ∧
    (remembered first marks / 2 ^ (64 - count) =
        remembered first others / 2 ^ (64 - count) ↔
      marks.take count = others.take count) := by
  induction marks generalizing others count with
  | nil =>
      obtain rfl := List.eq_nil_of_length_eq_zero same.symm
      simp
  | cons mark marks ih =>
      cases others with
      | nil => cases same
      | cons other others =>
          cases count with
          | zero =>
              have none : ∀ history,
                  remembered first history / 2 ^ 64 = 0 := fun history =>
                Nat.div_eq_of_lt (remembered_lt bounded history)
              rw [Nat.sub_zero, none, none, List.take_zero, List.take_zero]
              exact ⟨iff_of_false (Nat.lt_irrefl 0) (List.lt_irrefl []),
                iff_of_true rfl rfl⟩
          | succ count =>
              obtain ⟨less, equal⟩ :=
                ih (Nat.succ.inj same) (Nat.le_of_succ_le fits)
              have below : ∀ history,
                  remembered first history / 2 ^ (64 - count) < 2 ^ count :=
                fun history => div_lt_two_pow (remembered_lt bounded history)
                  (Nat.le_of_succ_le fits)
              have belowMarks := below marks
              have belowOthers := below others
              rw [remembered, remembered, Nat.sub_add_eq, Nat.sub_right_comm,
                aged_div fits, aged_div fits, List.take_succ_cons,
                List.take_succ_cons, List.cons_lt_cons_iff, List.cons.injEq,
                ← less, ← equal]
              generalize remembered first marks / 2 ^ (64 - count) = low
                at belowMarks ⊢
              generalize remembered first others / 2 ^ (64 - count) = otherLow
                at belowOthers ⊢
              cases mark <;> cases other <;> simp [Bool.lt_iff] <;> omega

/-- Of two recencies that began alike the one whose marks are less is less, the
last mark counting first. -/
theorem remembered_lt_iff (bounded : first < Word.limit)
    (same : marks.length = others.length) :
    remembered first marks < remembered first others ↔
      marks.take 64 < others.take 64 := by
  have less := (remembered_div_cases bounded same (Nat.le_refl 64)).1
  rwa [Nat.sub_self, Nat.pow_zero, Nat.div_one, Nat.div_one] at less

theorem remembered_eq_iff (bounded : first < Word.limit)
    (same : marks.length = others.length) :
    remembered first marks = remembered first others ↔
      marks.take 64 = others.take 64 := by
  have equal := (remembered_div_cases bounded same (Nat.le_refl 64)).2
  rwa [Nat.sub_self, Nat.pow_zero, Nat.div_one, Nat.div_one] at equal

/-- LAPA compares the numbers of set bits first, and then as NFUA does. -/
theorem prefers_lapa_iff {page other : ResidentPage}
    (bounded : page.recency < Word.limit)
    (otherBounded : other.recency < Word.limit) :
    lapa.Prefers page other ↔
      setBits page.recency < setBits other.recency ∨
        setBits page.recency = setBits other.recency ∧
          page.Precedes other := by
  simp only [Prefers, rank, ResidentPage.Precedes, Word.limit] at *
  omega

end Policy

end DemandPaging
