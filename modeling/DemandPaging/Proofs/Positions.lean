import Mathlib.Combinatorics.Enumerative.DoubleCounting
import Mathlib.Data.List.FinRange

/-!
# Positions in an array

How many values of an array are of a kind is how many positions hold one, so
numbers of values are compared by sending positions to positions.
-/

namespace DemandPaging

variable {Value : Type}

/-- The positions of an array that hold a value of a kind. -/
def positions (kind : Value → Bool) (values : Array Value) : Finset Nat :=
  (Finset.range values.size).filter fun position =>
    (values[position]?).any kind

variable {kind : Value → Bool} {values : Array Value} {position : Nat}

theorem mem_positions :
    position ∈ positions kind values ↔
      ∃ value, values[position]? = some value ∧ kind value = true := by
  rw [positions, Finset.mem_filter, Finset.mem_range, Option.any_eq_true]
  constructor
  · exact fun both => both.2
  · rintro ⟨value, found, isKind⟩
    obtain ⟨inside, _⟩ := Array.getElem?_eq_some_iff.mp found
    exact ⟨inside, value, found, isKind⟩

theorem card_positions (kind : Value → Bool) (values : Array Value) :
    (positions kind values).card = values.countP kind := by
  have asList : positions kind values =
      ((List.range values.size).filter fun position =>
        (values[position]?).any kind).toFinset := by
    ext position
    simp [positions]
  have whole : (List.range values.size).map (fun position =>
      values[position]?) = values.toList.map some := by
    apply List.ext_getElem
    · simp
    · intro position _ inside
      rw [List.length_map, Array.length_toList] at inside
      simp [inside]
  have counted := congrArg (List.countP (Option.any kind)) whole
  rw [List.countP_map, List.countP_map] at counted
  rw [asList, List.toFinset_card_of_nodup (List.nodup_range.filter _),
    ← List.countP_eq_length_filter, ← Array.countP_toList]
  exact counted

theorem count_eq_countP (used : Array Bool) :
    used.count true = used.countP id := by
  rw [Array.count_eq_countP]
  apply Array.countP_congr
  intro isUsed _
  cases isUsed <;> simp

/-- There are no more values of a kind than targets if the position of each is
sent to a target, and no two to the same. -/
theorem countP_le_card {targets : Finset Nat} (sends : Nat → Nat → Prop)
    (sent : ∀ position ∈ positions kind values,
      ∃ target ∈ targets, sends position target)
    (injective : ∀ first second target,
      sends first target → sends second target → first = second) :
    values.countP kind ≤ targets.card := by
  rw [← card_positions]
  apply Finset.card_le_card_of_forall_subsingleton sends sent
  intro target _ first isFirst second isSecond
  exact injective first second target isFirst.2 isSecond.2

end DemandPaging
