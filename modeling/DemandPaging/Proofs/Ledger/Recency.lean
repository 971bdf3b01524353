import DemandPaging.Proofs.Ledger.Counts
import DemandPaging.Replacement

/-!
# Recencies and the clock

A replacement policy writes to a ledger only what it ranks pages by: recencies
and the clock.  `Ledger.Reranks` is the relation of such a change; it leaves
every page where it is.
-/

namespace DemandPaging

namespace Ledger

variable {ledger before middle after : Ledger} {handle ticks more : Nat}

/-- Only recencies and the clock changed, and the clock by at most `ticks`. -/
structure Reranks (before after : Ledger) (ticks : Nat) : Prop where
  isConsistent : after.IsConsistent
  index : after.index = before.index
  residence : ∀ handle : Nat, (after.places[handle]?).map Tracked.residence =
    (before.places[handle]?).map Tracked.residence
  maxResident : after.maxResident = before.maxResident
  capacity : after.capacity = before.capacity
  residentCount : after.residentCount = before.residentCount
  swappedCount : after.swappedCount = before.swappedCount
  generation_le : after.generation ≤ before.generation + ticks

namespace Reranks

theorem refl (consistent : ledger.IsConsistent) :
    ledger.Reranks ledger 0 where
  isConsistent := consistent
  index := rfl
  residence _ := rfl
  maxResident := rfl
  capacity := rfl
  residentCount := rfl
  swappedCount := rfl
  generation_le := Nat.le_refl _

theorem trans (first : before.Reranks middle ticks)
    (second : middle.Reranks after more) :
    before.Reranks after (ticks + more) where
  isConsistent := second.isConsistent
  index := second.index.trans first.index
  residence handle := (second.residence handle).trans (first.residence handle)
  maxResident := second.maxResident.trans first.maxResident
  capacity := second.capacity.trans first.capacity
  residentCount := second.residentCount.trans first.residentCount
  swappedCount := second.swappedCount.trans first.swappedCount
  generation_le := by
    have firstLe := first.generation_le
    have secondLe := second.generation_le
    omega

theorem mono (reranks : before.Reranks after ticks) (le : ticks ≤ more) :
    before.Reranks after more :=
  { reranks with
    generation_le :=
      Nat.le_trans reranks.generation_le (Nat.add_le_add_left le _) }

theorem find? (reranks : before.Reranks after ticks) (page : Nat) :
    after.find? page = before.find? page := by
  rw [Ledger.find?, reranks.index, Ledger.find?]

theorem place (reranks : before.Reranks after ticks) {tracked : Tracked}
    (held : before.places[handle]? = some tracked) :
    ∃ recency, after.places[handle]? =
      some ⟨tracked.residence, recency⟩ := by
  have same := reranks.residence handle
  rw [held] at same
  obtain ⟨⟨residence, recency⟩, found, rfl⟩ := Option.map_eq_some_iff.mp same
  exact ⟨recency, found⟩

theorem residenceOf? (reranks : before.Reranks after ticks) (page : Nat) :
    after.residenceOf? page = before.residenceOf? page := by
  rw [Ledger.residenceOf?, Ledger.residenceOf?, reranks.find?]
  cases before.find? page with
  | none => rfl
  | some handle =>
      have same := reranks.residence handle
      rw [Option.map_eq_bind, Option.map_eq_bind] at same
      exact same

end Reranks

/-- A place gets another recency. -/
theorem setRecency_of_place (consistent : ledger.IsConsistent)
    {tracked : Tracked} (held : ledger.places[handle]? = some tracked)
    (recency : Nat) :
    ∃ after, ledger.setRecency handle recency = .ok after ∧
      ledger.Reranks after 0 ∧ after.generation = ledger.generation := by
  have puts := puts_recency consistent held recency
  refine ⟨_, setRecency_eq_ok_iff.mpr ⟨tracked, held, rfl⟩, ?_, rfl⟩
  exact {
    isConsistent := puts.isConsistent consistent
    index := rfl
    residence := by
      intro other
      rw [puts.getElem?_places]
      by_cases same : handle = other
      · rw [if_pos same, ← same, held]
        rfl
      · rw [if_neg same]
    maxResident := rfl
    capacity := puts.capacity
    residentCount := rfl
    swappedCount := rfl
    generation_le := Nat.le_refl _ }

/-- The clock advances by one, unless that leaves the range of a word. -/
theorem advanceClock_cases (consistent : ledger.IsConsistent) :
    (ledger.advanceClock = .error .overflow ∧
        Word.limit ≤ ledger.generation + 1) ∨
      ∃ after, ledger.advanceClock = .ok (ledger.generation + 1, after) ∧
        ledger.Reranks after 1 := by
  by_cases fits : ledger.generation + 1 < Word.limit
  · right
    refine ⟨_, advanceClock_eq_ok_iff.mpr ⟨fits, rfl, rfl⟩, ?_⟩
    exact {
      isConsistent := ⟨consistent.find?_eq_some_iff,
        consistent.residentCount_eq, consistent.swappedCount_eq⟩
      index := rfl
      residence := fun _ => rfl
      maxResident := rfl
      capacity := rfl
      residentCount := rfl
      swappedCount := rfl
      generation_le := Nat.le_refl _ }
  · left
    refine ⟨?_, Nat.le_of_not_lt fits⟩
    rw [advanceClock, Word.add, Word.fit, if_neg fits]
    rfl

end Ledger

namespace Policy

variable {ledger : Ledger} {handle : Nat} {tracked : Tracked}

/-- A page that just became resident gets its first recency, unless the clock
has to advance beyond the range of a word. -/
theorem onLoad_cases (policy : Policy) (consistent : ledger.IsConsistent)
    (held : ledger.places[handle]? = some tracked) :
    (policy = scfifo ∧ Word.limit ≤ ledger.generation + 1 ∧
        policy.onLoad ledger handle = .error .overflow) ∨
      ∃ after, policy.onLoad ledger handle = .ok after ∧
        ledger.Reranks after 1 := by
  cases policy with
  | noPaging =>
      exact .inr ⟨ledger, rfl, (Ledger.Reranks.refl consistent).mono (by omega)⟩
  | nfua =>
      obtain ⟨after, success, reranks, _⟩ :=
        Ledger.setRecency_of_place consistent held 0
      exact .inr ⟨after, success, reranks.mono (by omega)⟩
  | lapa =>
      obtain ⟨after, success, reranks, _⟩ :=
        Ledger.setRecency_of_place consistent held (Word.limit - 1)
      exact .inr ⟨after, success, reranks.mono (by omega)⟩
  | scfifo =>
      obtain ⟨overflow, tooLate⟩ | ⟨clocked, advanced, clockReranks⟩ :=
        Ledger.advanceClock_cases consistent
      · refine .inl ⟨rfl, tooLate, ?_⟩
        rw [onLoad, overflow]
        rfl
      · obtain ⟨recency, clockedHeld⟩ := clockReranks.place held
        obtain ⟨after, success, reranks, _⟩ := Ledger.setRecency_of_place
          clockReranks.isConsistent clockedHeld (ledger.generation + 1)
        refine .inr ⟨after, ?_, clockReranks.trans reranks⟩
        rw [onLoad, advanced]
        exact success

end Policy

end DemandPaging
