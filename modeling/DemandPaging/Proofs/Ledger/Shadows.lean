import DemandPaging.Proofs.Ledger.Residences
import DemandPaging.Proofs.Positions

/-!
# Ledgers that shadow another

While a fork takes over pages, the child's ledger has a part of what the
parent's has, place for place.  Such a ledger has the next page's place unused
and has room for a resident page, so no page is refused.
-/

namespace DemandPaging

theorem Tracked.isFree_of_isResident {tracked : Tracked}
    (isResident : tracked.isResident = true) : tracked.isFree = false := by
  rw [Tracked.isResident] at isResident
  rw [Tracked.isFree]
  cases residence : tracked.residence with
  | free => rw [residence] at isResident; cases isResident
  | resident _ | swapped _ _ => rfl

namespace Ledger

variable {ledger : Ledger} {handle : Nat}

/-- Every place that is taken holds what the same place of `parent` holds. -/
def Shadows (ledger parent : Ledger) : Prop :=
  ∀ (handle : Nat) (tracked : Tracked),
    ledger.places[handle]? = some tracked → tracked.isFree = false →
      parent.places[handle]? = some tracked

namespace Shadows

variable {parent : Ledger} {page : Nat} {new : Tracked}

/-- The place of a page that is not yet tracked is unused. -/
theorem exists_unused (shadows : ledger.Shadows parent)
    (consistent : ledger.IsConsistent)
    (capacity : ledger.capacity = parent.capacity)
    (place : parent.places[handle]? = some new) (tracks : new.Tracks page)
    (missing : ledger.find? page = none) :
    ∃ old, ledger.places[handle]? = some old ∧ old.residence = .free := by
  obtain ⟨inside, _⟩ := Array.getElem?_eq_some_iff.mp place
  rw [← Ledger.capacity, ← capacity, Ledger.capacity] at inside
  have held : ledger.places[handle]? = some ledger.places[handle] :=
    Array.getElem?_eq_getElem inside
  refine ⟨_, held, ?_⟩
  by_contra isTaken
  have notFree : ledger.places[handle].isFree = false := by
    rw [Tracked.isFree]
    cases residence : ledger.places[handle].residence with
    | free => exact absurd residence isTaken
    | resident _ | swapped _ _ => rfl
  have same := shadows handle _ held notFree
  rw [place] at same
  rw [← Option.some.inj same] at held
  cases missing.symm.trans (consistent.find?_iff.mpr ⟨new, held, tracks⟩)

/-- As long as a resident page of the parent is not tracked, fewer pages are
resident than in the parent. -/
theorem residentCount_lt (shadows : ledger.Shadows parent)
    (consistent : ledger.IsConsistent)
    (parentConsistent : parent.IsConsistent)
    (place : parent.places[handle]? = some new)
    (resident : new.residence = .resident page)
    (missing : ledger.find? page = none) :
    ledger.residentCount < parent.residentCount := by
  rw [consistent.residentCount_eq, parentConsistent.residentCount_eq,
    ← card_positions, ← card_positions]
  have isResident : new.isResident = true := by
    rw [Tracked.isResident, resident]
    rfl
  refine Finset.card_lt_card (Finset.ssubset_iff_subset_ne.mpr
    ⟨fun other member => ?_, fun same => ?_⟩)
  · obtain ⟨tracked, held, isKind⟩ := mem_positions.mp member
    exact mem_positions.mpr ⟨tracked,
      shadows other tracked held (Tracked.isFree_of_isResident isKind), isKind⟩
  · have member := mem_positions.mpr ⟨new, place, isResident⟩
    rw [← same] at member
    obtain ⟨tracked, held, isKind⟩ := mem_positions.mp member
    have samePlace :=
      shadows handle tracked held (Tracked.isFree_of_isResident isKind)
    rw [place] at samePlace
    rw [← Option.some.inj samePlace] at held
    cases missing.symm.trans (consistent.find?_iff.mpr
      ⟨new, held, (Tracked.tracks_of_resident resident).mpr rfl⟩)

/-- A page of the parent can be taken over at its place. -/
theorem exists_adopt (shadows : ledger.Shadows parent)
    (consistent : ledger.IsConsistent)
    (parentConsistent : parent.IsConsistent)
    (capacity : ledger.capacity = parent.capacity)
    (ceiling : parent.residentCount ≤ ledger.maxResident)
    (found : parent.find? page = some handle)
    (place : parent.places[handle]? = some new)
    (missing : ledger.find? page = none) :
    ∃ after, ledger.adopt handle new = .ok after := by
  obtain ⟨same, samePlace, tracks⟩ := parentConsistent.find?_iff.mp found
  cases place.symm.trans samePlace
  have address : new.address = page := tracks.2
  have unused := shadows.exists_unused consistent capacity place tracks missing
  cases residence : new.residence with
  | free =>
      rw [Tracked.Tracks, Tracked.isFree, residence] at tracks
      cases tracks.1
  | resident held =>
      obtain rfl : held = page := by
        rw [Tracked.address, residence] at address
        exact address
      have room := shadows.residentCount_lt consistent parentConsistent place
        residence missing
      exact ⟨_, adopt_eq_ok_iff.mpr ⟨unused, address ▸ missing,
        .inl ⟨held, residence, Nat.lt_of_lt_of_le room ceiling, rfl⟩⟩⟩
  | swapped held slot =>
      exact ⟨_, adopt_eq_ok_iff.mpr ⟨unused, address ▸ missing,
        .inr ⟨held, slot, residence, rfl⟩⟩⟩

end Shadows

end Ledger

end DemandPaging
