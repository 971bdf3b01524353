import DemandPaging.Ledger.Consistent

/-!
# Where a ledger has each page

The view of a consistent ledger is `Ledger.residenceOf?`: where the page at an
address is.  Every transition of a ledger puts one page into one place, so one
statement says what it does to consistency and to the view
(`Puts.isConsistent`, `Puts.residenceOf?`); the transitions are its cases.
-/

namespace DemandPaging

namespace Tracked

/-- Does the place track the page at `page`? -/
def Tracks (tracked : Tracked) (page : Nat) : Prop :=
  tracked.isFree = false ∧ tracked.address = page

theorem not_tracks_of_residence {tracked : Tracked} {page : Nat}
    (unused : tracked.residence = .free) : ¬tracked.Tracks page := by
  simp [Tracks, isFree, unused, Residence.isFree]

theorem tracks_of_resident {tracked : Tracked} {page other : Nat}
    (resident : tracked.residence = .resident page) :
    tracked.Tracks other ↔ other = page := by
  simp [Tracks, isFree, address, resident, Residence.isFree,
    Residence.address, eq_comm]

theorem tracks_of_swapped {tracked : Tracked} {page slot other : Nat}
    (swapped : tracked.residence = .swapped page slot) :
    tracked.Tracks other ↔ other = page := by
  simp [Tracks, isFree, address, swapped, Residence.isFree,
    Residence.address, eq_comm]

theorem tracks_resident (page recency other : Nat) :
    Tracked.Tracks ⟨.resident page, recency⟩ other ↔ other = page :=
  tracks_of_resident rfl

theorem tracks_swapped (page slot recency other : Nat) :
    Tracked.Tracks ⟨.swapped page slot, recency⟩ other ↔ other = page :=
  tracks_of_swapped rfl

end Tracked

namespace Ledger

variable {ledger after : Ledger} {handle page slot : Nat}
  {old new tracked : Tracked} {residence : Residence}

/-- Where the page at `page` is, if the ledger tracks it. -/
def residenceOf? (ledger : Ledger) (page : Nat) : Option Residence := do
  let handle ← ledger.find? page
  let tracked ← ledger.places[handle]?
  return tracked.residence

theorem IsConsistent.find?_iff (consistent : ledger.IsConsistent) :
    ledger.find? page = some handle ↔
      ∃ tracked, ledger.places[handle]? = some tracked ∧
        tracked.Tracks page :=
  consistent.find?_eq_some_iff page handle

/-- A page is where the place that tracks it says. -/
theorem IsConsistent.residenceOf?_eq_some_iff
    (consistent : ledger.IsConsistent) :
    ledger.residenceOf? page = some residence ↔
      ∃ (handle : Nat) (tracked : Tracked),
        ledger.places[handle]? = some tracked ∧
          tracked.Tracks page ∧ tracked.residence = residence := by
  simp only [residenceOf?, Option.bind_eq_bind, Option.bind_eq_some_iff,
    consistent.find?_iff]
  constructor
  · rintro ⟨handle, ⟨tracked, found, tracks⟩, _, same, ⟨⟩⟩
    cases found.symm.trans same
    exact ⟨handle, tracked, found, tracks, rfl⟩
  · rintro ⟨handle, tracked, found, tracks, rfl⟩
    exact ⟨handle, ⟨tracked, found, tracks⟩, tracked, found, rfl⟩

theorem IsConsistent.residenceOf?_eq_none_iff
    (consistent : ledger.IsConsistent) :
    ledger.residenceOf? page = none ↔ ledger.find? page = none := by
  constructor
  · intro untracked
    cases found : ledger.find? page with
    | none => rfl
    | some handle =>
        obtain ⟨tracked, place, tracks⟩ := consistent.find?_iff.mp found
        have known := consistent.residenceOf?_eq_some_iff.mpr
          ⟨handle, tracked, place, tracks, rfl⟩
        cases untracked.symm.trans known
  · intro missing
    simp [residenceOf?, missing]

/-- A page that is somewhere has a place. -/
theorem IsConsistent.find?_of_residenceOf? (consistent : ledger.IsConsistent)
    (known : ledger.residenceOf? page = some residence) :
    ∃ (handle : Nat) (tracked : Tracked), ledger.find? page = some handle ∧
      ledger.places[handle]? = some tracked ∧
        tracked.residence = residence := by
  obtain ⟨handle, tracked, place, tracks, same⟩ :=
    consistent.residenceOf?_eq_some_iff.mp known
  exact ⟨handle, tracked, consistent.find?_iff.mpr ⟨tracked, place, tracks⟩,
    place, same⟩

theorem IsConsistent.address_of_residenceOf?
    (consistent : ledger.IsConsistent)
    (known : ledger.residenceOf? page = some residence) :
    residence.isFree = false ∧ residence.address = page := by
  obtain ⟨_, _, _, tracks, rfl⟩ :=
    consistent.residenceOf?_eq_some_iff.mp known
  exact tracks

theorem IsConsistent.resident_or_swapped
    (consistent : ledger.IsConsistent)
    (known : ledger.residenceOf? page = some residence) :
    residence = .resident page ∨ ∃ slot, residence = .swapped page slot := by
  obtain ⟨taken, address⟩ := consistent.address_of_residenceOf? known
  cases residence with
  | free => cases taken
  | resident other =>
      obtain rfl : other = page := address
      exact .inl rfl
  | swapped other slot =>
      obtain rfl : other = page := address
      exact .inr ⟨slot, rfl⟩

/-- A page whose place has a slot is in it. -/
theorem IsConsistent.eq_swapped_of_slot?
    (consistent : ledger.IsConsistent)
    (known : ledger.residenceOf? page = some residence)
    (hasSlot : residence.slot? = some slot) :
    residence = .swapped page slot := by
  obtain rfl | ⟨_, rfl⟩ := consistent.resident_or_swapped known
  · cases hasSlot
  · cases hasSlot
    rfl

/-- A resident place makes its page resident. -/
theorem IsConsistent.residenceOf?_of_resident
    (consistent : ledger.IsConsistent)
    (place : ledger.places[handle]? = some tracked)
    (resident : tracked.residence = .resident page) :
    ledger.residenceOf? page = some (.resident page) :=
  consistent.residenceOf?_eq_some_iff.mpr
    ⟨handle, tracked, place, (Tracked.tracks_of_resident resident).mpr rfl,
      resident⟩

/-- A place in swap puts its page there. -/
theorem IsConsistent.residenceOf?_of_swapped
    (consistent : ledger.IsConsistent)
    (place : ledger.places[handle]? = some tracked)
    (swapped : tracked.residence = .swapped page slot) :
    ledger.residenceOf? page = some (.swapped page slot) :=
  consistent.residenceOf?_eq_some_iff.mpr
    ⟨handle, tracked, place, (Tracked.tracks_of_swapped swapped).mpr rfl,
      swapped⟩

/-- Putting a page into a place changes the number of places of a kind by what
was there and what is. -/
theorem countP_put (kind : Tracked → Bool) (new : Tracked)
    (place : ledger.places[handle]? = some old) :
    (ledger.put handle new).places.countP kind + (kind old).toNat =
      ledger.places.countP kind + (kind new).toNat := by
  obtain ⟨inside, held⟩ := Array.getElem?_eq_some_iff.mp place
  have atLeast := Array.boole_getElem_le_countP (p := kind) inside
  have counted := Array.countP_set (p := kind) (a := new) inside
  rw [held] at atLeast counted
  rw [put, Array.setIfInBounds_def, dif_pos inside, counted]
  cases isOld : kind old <;> cases isNew : kind new <;>
    simp only [isOld, Bool.toNat_true, Bool.toNat_false, ↓reduceIte,
      Bool.false_eq_true] at atLeast ⊢ <;> omega

/-- What is left of a consistent ledger after one place changed, with index
and counters changed to match. -/
structure Puts (ledger : Ledger) (handle : Nat) (old new : Tracked)
    (after : Ledger) : Prop where
  held : ledger.places[handle]? = some old
  places : after.places = (ledger.put handle new).places
  find?_new : ∀ page, new.Tracks page → after.find? page = some handle
  find?_old : ∀ page, old.Tracks page → ¬new.Tracks page →
    after.find? page = none
  find?_other : ∀ page, ¬old.Tracks page → ¬new.Tracks page →
    after.find? page = ledger.find? page
  fresh : ∀ page, new.Tracks page → ¬old.Tracks page →
    ledger.find? page = none
  residentCount : after.residentCount + old.isResident.toNat =
    ledger.residentCount + new.isResident.toNat
  swappedCount : after.swappedCount + old.isSwapped.toNat =
    ledger.swappedCount + new.isSwapped.toNat

namespace Puts

/-- The place that changed holds what was put there, and the others are as
before. -/
theorem getElem?_places (puts : ledger.Puts handle old new after)
    (other : Nat) :
    after.places[other]? =
      if handle = other then some new else ledger.places[other]? := by
  obtain ⟨inside, _⟩ := Array.getElem?_eq_some_iff.mp puts.held
  rw [puts.places, getElem?_places_put]
  by_cases same : handle = other
  · subst same
    rw [if_pos ⟨rfl, inside⟩, if_pos rfl]
  · rw [if_neg (fun both => same both.1), if_neg same]

theorem isConsistent (puts : ledger.Puts handle old new after)
    (consistent : ledger.IsConsistent) : after.IsConsistent := by
  refine ⟨fun page other => ?_, ?_, ?_⟩
  · change after.find? page = some other ↔
      ∃ tracked, after.places[other]? = some tracked ∧ tracked.Tracks page
    rw [puts.getElem?_places]
    by_cases isNew : new.Tracks page
    · rw [puts.find?_new page isNew, Option.some.injEq]
      constructor
      · rintro rfl
        exact ⟨new, if_pos rfl, isNew⟩
      · rintro ⟨tracked, place, tracks⟩
        by_cases same : handle = other
        · exact same
        · rw [if_neg same] at place
          have found := consistent.find?_iff.mpr ⟨tracked, place, tracks⟩
          by_cases isOld : old.Tracks page
          · have foundOld := consistent.find?_iff.mpr ⟨old, puts.held, isOld⟩
            exact Option.some.inj (foundOld.symm.trans found)
          · cases (puts.fresh page isNew isOld).symm.trans found
    · have elsewhere : ∀ tracked, (if handle = other then some new
          else ledger.places[other]?) = some tracked → tracked.Tracks page →
          handle ≠ other ∧ ledger.places[other]? = some tracked := by
        intro tracked place tracks
        by_cases same : handle = other
        · rw [if_pos same] at place
          cases place
          exact absurd tracks isNew
        · rw [if_neg same] at place
          exact ⟨same, place⟩
      by_cases isOld : old.Tracks page
      · rw [puts.find?_old page isOld isNew]
        constructor
        · exact fun found => nomatch found
        · rintro ⟨tracked, place, tracks⟩
          obtain ⟨different, place⟩ := elsewhere tracked place tracks
          have found := consistent.find?_iff.mpr ⟨tracked, place, tracks⟩
          have foundOld := consistent.find?_iff.mpr ⟨old, puts.held, isOld⟩
          exact absurd (Option.some.inj (foundOld.symm.trans found)) different
      · rw [puts.find?_other page isOld isNew, consistent.find?_iff]
        constructor
        · rintro ⟨tracked, place, tracks⟩
          refine ⟨tracked, ?_, tracks⟩
          rw [if_neg]
          · exact place
          · rintro rfl
            cases puts.held.symm.trans place
            exact isOld tracks
        · rintro ⟨tracked, place, tracks⟩
          exact ⟨tracked, (elsewhere tracked place tracks).2, tracks⟩
  · have counted := countP_put Tracked.isResident new puts.held
    have moved := puts.residentCount
    rw [consistent.residentCount_eq] at moved
    rw [puts.places]
    omega
  · have counted := countP_put Tracked.isSwapped new puts.held
    have moved := puts.swappedCount
    rw [consistent.swappedCount_eq] at moved
    rw [puts.places]
    omega

/-- The page that was put is where its place says, the one that it replaced is
nowhere, and the others are where they were. -/
theorem residenceOf? (puts : ledger.Puts handle old new after)
    (consistent : ledger.IsConsistent) (page : Nat)
    [Decidable (new.Tracks page)] [Decidable (old.Tracks page)] :
    after.residenceOf? page =
      if new.Tracks page then some new.residence
      else if old.Tracks page then none
      else ledger.residenceOf? page := by
  by_cases isNew : new.Tracks page
  · rw [if_pos isNew, Ledger.residenceOf?, puts.find?_new page isNew]
    simp [puts.getElem?_places]
  · rw [if_neg isNew]
    by_cases isOld : old.Tracks page
    · rw [if_pos isOld, Ledger.residenceOf?, puts.find?_old page isOld isNew]
      rfl
    · rw [if_neg isOld, Ledger.residenceOf?, Ledger.residenceOf?,
        puts.find?_other page isOld isNew]
      cases found : ledger.find? page with
      | none => rfl
      | some other =>
          obtain ⟨tracked, place, tracks⟩ := consistent.find?_iff.mp found
          have different : handle ≠ other := by
            rintro rfl
            cases puts.held.symm.trans place
            exact isOld tracks
          simp [puts.getElem?_places, different]

theorem capacity (puts : ledger.Puts handle old new after) :
    after.capacity = ledger.capacity := by
  rw [Ledger.capacity, puts.places]
  exact capacity_put

/-- A place that goes on tracking the same page. -/
theorem of_same_page (consistent : ledger.IsConsistent)
    (held : ledger.places[handle]? = some old)
    (places : after.places = (ledger.put handle new).places)
    (same : ∀ page, new.Tracks page ↔ old.Tracks page)
    (index : after.index = ledger.index)
    (residentCount : after.residentCount + old.isResident.toNat =
      ledger.residentCount + new.isResident.toNat)
    (swappedCount : after.swappedCount + old.isSwapped.toNat =
      ledger.swappedCount + new.isSwapped.toNat) :
    ledger.Puts handle old new after where
  held := held
  places := places
  find?_new page isNew := by
    rw [find?, index]
    exact consistent.find?_iff.mpr ⟨old, held, (same page).mp isNew⟩
  find?_old page isOld notNew := absurd ((same page).mpr isOld) notNew
  find?_other page _ _ := by rw [find?, index, find?]
  fresh page isNew notOld := absurd ((same page).mp isNew) notOld
  residentCount := residentCount
  swappedCount := swappedCount

/-- A place that begins to track a page. -/
theorem of_insert (held : ledger.places[handle]? = some old)
    (unused : old.residence = .free)
    (places : after.places = (ledger.put handle new).places)
    (tracks : ∀ other, new.Tracks other ↔ other = page)
    (missing : ledger.find? page = none)
    (index : after.index = ledger.index.insert page handle)
    (residentCount : after.residentCount =
      ledger.residentCount + new.isResident.toNat)
    (swappedCount : after.swappedCount =
      ledger.swappedCount + new.isSwapped.toNat) :
    ledger.Puts handle old new after where
  held := held
  places := places
  find?_new other isNew := by
    obtain rfl := (tracks other).mp isNew
    rw [find?, index, Std.TreeMap.getElem?_insert_self]
  find?_old other isOld _ := absurd isOld (Tracked.not_tracks_of_residence unused)
  find?_other other _ notNew := by
    have different : page ≠ other := fun same =>
      notNew ((tracks other).mpr same.symm)
    rw [find?, index, Std.TreeMap.getElem?_insert, if_neg]
    · rfl
    · simpa using different
  fresh other isNew _ := by
    obtain rfl := (tracks other).mp isNew
    exact missing
  residentCount := by
    have before : old.isResident = false := by
      rw [Tracked.isResident, unused]
      rfl
    rw [residentCount, before]
    rfl
  swappedCount := by
    have before : old.isSwapped = false := by
      rw [Tracked.isSwapped, unused]
      rfl
    rw [swappedCount, before]
    rfl

/-- A place that stops tracking a page. -/
theorem of_erase (held : ledger.places[handle]? = some old)
    (places : after.places = (ledger.put handle Tracked.unused).places)
    (tracks : ∀ other, old.Tracks other ↔ other = page)
    (index : after.index = ledger.index.erase page)
    (residentCount : after.residentCount + old.isResident.toNat =
      ledger.residentCount)
    (swappedCount : after.swappedCount + old.isSwapped.toNat =
      ledger.swappedCount) :
    ledger.Puts handle old Tracked.unused after where
  held := held
  places := places
  find?_new other isNew :=
    absurd isNew (Tracked.not_tracks_of_residence rfl)
  find?_old other isOld _ := by
    obtain rfl := (tracks other).mp isOld
    rw [find?, index, Std.TreeMap.getElem?_erase_self]
  find?_other other notOld _ := by
    have different : page ≠ other := fun same =>
      notOld ((tracks other).mpr same.symm)
    rw [find?, index, Std.TreeMap.getElem?_erase, if_neg]
    · rfl
    · simpa using different
  fresh other isNew _ := absurd isNew (Tracked.not_tracks_of_residence rfl)
  residentCount := residentCount
  swappedCount := swappedCount

end Puts

theorem IsConsistent.residentCount_pos (consistent : ledger.IsConsistent)
    (place : ledger.places[handle]? = some tracked)
    (resident : tracked.residence = .resident page) :
    0 < ledger.residentCount := by
  rw [consistent.residentCount_eq, Array.countP_pos_iff]
  exact ⟨tracked, Array.mem_of_getElem? place, by
    simp [Tracked.isResident, resident, Residence.isResident]⟩

theorem IsConsistent.swappedCount_pos (consistent : ledger.IsConsistent)
    (place : ledger.places[handle]? = some tracked)
    (swapped : tracked.residence = .swapped page slot) :
    0 < ledger.swappedCount := by
  rw [consistent.swappedCount_eq, Array.countP_pos_iff]
  exact ⟨tracked, Array.mem_of_getElem? place, by
    simp [Tracked.isSwapped, swapped, Residence.isSwapped]⟩

theorem puts_resident_of_free (held : ledger.places[handle]? = some old)
    (unused : old.residence = .free) (missing : ledger.find? page = none) :
    ledger.Puts handle old { old with residence := .resident page }
      { ledger.put handle { old with residence := .resident page } with
        residentCount := ledger.residentCount + 1
        index := ledger.index.insert page handle } :=
  Puts.of_insert held unused rfl (fun _ => Tracked.tracks_of_resident rfl)
    missing rfl rfl rfl

theorem puts_resident_of_swapped (consistent : ledger.IsConsistent)
    (held : ledger.places[handle]? = some old)
    (swapped : old.residence = .swapped page slot) :
    ledger.Puts handle old { old with residence := .resident page }
      { ledger.put handle { old with residence := .resident page } with
        residentCount := ledger.residentCount + 1
        swappedCount := ledger.swappedCount - 1 } := by
  have positive := consistent.swappedCount_pos held swapped
  refine Puts.of_same_page consistent held rfl (fun other => ?_) rfl ?_ ?_
  · rw [Tracked.tracks_of_resident rfl, Tracked.tracks_of_swapped swapped]
  · rw [Tracked.isResident, swapped]
    rfl
  · rw [Tracked.isSwapped, swapped]
    exact Nat.sub_add_cancel positive

theorem puts_swapped (consistent : ledger.IsConsistent)
    (held : ledger.places[handle]? = some old)
    (resident : old.residence = .resident page) :
    ledger.Puts handle old { old with residence := .swapped page slot }
      { ledger.put handle { old with residence := .swapped page slot } with
        residentCount := ledger.residentCount - 1
        swappedCount := ledger.swappedCount + 1 } := by
  have positive := consistent.residentCount_pos held resident
  refine Puts.of_same_page consistent held rfl (fun other => ?_) rfl ?_ ?_
  · rw [Tracked.tracks_of_resident resident, Tracked.tracks_of_swapped rfl]
  · rw [Tracked.isResident, resident]
    exact Nat.sub_add_cancel positive
  · rw [Tracked.isSwapped, resident]
    rfl

theorem puts_recency (consistent : ledger.IsConsistent)
    (held : ledger.places[handle]? = some old) (recency : Nat) :
    ledger.Puts handle old { old with recency }
      (ledger.put handle { old with recency }) :=
  Puts.of_same_page consistent held rfl (fun _ => Iff.rfl) rfl rfl rfl

/-- A page that is released from memory. -/
theorem puts_unused_of_resident (consistent : ledger.IsConsistent)
    (held : ledger.places[handle]? = some old)
    (resident : old.residence = .resident page) :
    ledger.Puts handle old Tracked.unused
      { ledger.put handle Tracked.unused with
        index := ledger.index.erase page
        residentCount := ledger.residentCount - 1 } := by
  have positive := consistent.residentCount_pos held resident
  refine Puts.of_erase held rfl
    (fun _ => Tracked.tracks_of_resident resident) rfl ?_ ?_
  · rw [Tracked.isResident, resident]
    exact Nat.sub_add_cancel positive
  · rw [Tracked.isSwapped, resident]
    rfl

/-- A page that is released from swap. -/
theorem puts_unused_of_swapped (consistent : ledger.IsConsistent)
    (held : ledger.places[handle]? = some old)
    (swapped : old.residence = .swapped page slot) :
    ledger.Puts handle old Tracked.unused
      { ledger.put handle Tracked.unused with
        index := ledger.index.erase page
        swappedCount := ledger.swappedCount - 1 } := by
  have positive := consistent.swappedCount_pos held swapped
  refine Puts.of_erase held rfl
    (fun _ => Tracked.tracks_of_swapped swapped) rfl ?_ ?_
  · rw [Tracked.isResident, swapped]
    rfl
  · rw [Tracked.isSwapped, swapped]
    exact Nat.sub_add_cancel positive

/-- What is tracked at a place can be released from it. -/
theorem IsConsistent.release_of_tracks (consistent : ledger.IsConsistent)
    (held : ledger.places[handle]? = some old) (tracks : old.Tracks page) :
    ∃ after, ledger.release handle = .ok (old, after) ∧
      ledger.Puts handle old Tracked.unused after ∧
        after.maxResident = ledger.maxResident ∧
          after.residentCount ≤ ledger.residentCount ∧
            after.generation = ledger.generation := by
  obtain ⟨taken, address⟩ := tracks
  cases residence : old.residence with
  | free =>
      rw [Tracked.isFree, residence] at taken
      cases taken
  | resident other =>
      exact ⟨_, release_eq_ok_iff.mpr ⟨held, .inl ⟨other, residence, rfl⟩⟩,
        puts_unused_of_resident consistent held residence, rfl,
        Nat.sub_le _ _, rfl⟩
  | swapped other slot =>
      exact ⟨_,
        release_eq_ok_iff.mpr ⟨held, .inr ⟨other, slot, residence, rfl⟩⟩,
        puts_unused_of_swapped consistent held residence, rfl, Nat.le_refl _,
        rfl⟩

/-- A page in memory that is adopted. -/
theorem puts_adopted_of_resident (held : ledger.places[handle]? = some old)
    (unused : old.residence = .free)
    (resident : new.residence = .resident page)
    (missing : ledger.find? page = none) :
    ledger.Puts handle old new
      { ledger.put handle new with
        index := ledger.index.insert page handle
        residentCount := ledger.residentCount + 1 } := by
  refine Puts.of_insert held unused rfl
    (fun _ => Tracked.tracks_of_resident resident) missing rfl ?_ ?_
  · rw [Tracked.isResident, resident]
    rfl
  · rw [Tracked.isSwapped, resident]
    rfl

/-- A page in swap that is adopted. -/
theorem puts_adopted_of_swapped (held : ledger.places[handle]? = some old)
    (unused : old.residence = .free)
    (swapped : new.residence = .swapped page slot)
    (missing : ledger.find? page = none) :
    ledger.Puts handle old new
      { ledger.put handle new with
        index := ledger.index.insert page handle
        swappedCount := ledger.swappedCount + 1 } := by
  refine Puts.of_insert held unused rfl
    (fun _ => Tracked.tracks_of_swapped swapped) missing rfl ?_ ?_
  · rw [Tracked.isResident, swapped]
    rfl
  · rw [Tracked.isSwapped, swapped]
    rfl

theorem puts_of_adopt (adopted : ledger.adopt handle new = .ok after) :
    ∃ old, old.residence = .free ∧ ledger.Puts handle old new after := by
  obtain ⟨⟨old, held, unused⟩, missing, kinds⟩ := adopt_eq_ok_iff.mp adopted
  refine ⟨old, unused, ?_⟩
  obtain ⟨page, resident, _, rfl⟩ | ⟨page, slot, swapped, rfl⟩ := kinds
  · rw [Tracked.address, resident] at missing
    exact puts_adopted_of_resident held unused resident missing
  · rw [Tracked.address, swapped] at missing
    exact puts_adopted_of_swapped held unused swapped missing

end Ledger

end DemandPaging
