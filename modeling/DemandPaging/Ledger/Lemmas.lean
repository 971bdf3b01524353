import DemandPaging.Ledger

/-!
# What the operations of a ledger do

The view of a ledger is the content of its places.  For each transition there
is one statement: when it succeeds, and what it leaves.
-/

namespace DemandPaging

namespace Ledger

variable {ledger after : Ledger} {page : Tracked} {handle address slot : Nat}

/-- A new ledger has as many unused places as pages may be tracked. -/
theorem new_eq_ok_iff {maxResident maxSwap : Nat} :
    Ledger.new maxResident maxSwap = .ok ledger ↔
      maxResident + maxSwap < Word.limit ∧
        ledger =
          { places := Array.replicate (maxResident + maxSwap) Tracked.unused
            index := ∅
            maxResident
            residentCount := 0
            swappedCount := 0
            generation := 0 } := by
  simp only [Ledger.new, bind_eq_ok_iff, Word.add, Word.fit_eq_ok_iff]
  constructor
  · rintro ⟨_, ⟨fits, rfl⟩, ⟨⟩⟩
    exact ⟨fits, rfl⟩
  · rintro ⟨fits, rfl⟩
    exact ⟨_, ⟨fits, rfl⟩, rfl⟩

theorem get_eq_ok_iff :
    ledger.get handle = .ok page ↔ ledger.places[handle]? = some page := by
  unfold get
  split <;> simp_all

@[simp]
theorem capacity_put :
    (ledger.put handle page).capacity = ledger.capacity := by
  simp [put, capacity]

theorem getElem?_places_put (other : Nat) :
    (ledger.put handle page).places[other]? =
      if handle = other ∧ other < ledger.capacity then some page
      else ledger.places[other]? := by
  simp only [put, capacity, Array.getElem?_setIfInBounds]
  by_cases same : handle = other
  · subst same
    by_cases inside : handle < ledger.places.size <;> simp [inside]
  · simp [same]

theorem mem_residents_iff {resident : ResidentPage} :
    resident ∈ ledger.residents ↔
      ledger.places[resident.handle]? =
        some ⟨.resident resident.address, resident.recency⟩ := by
  obtain ⟨handle, address, recency⟩ := resident
  simp only [residents, List.mem_filterMap, Prod.exists,
    List.mem_zipIdx_iff_getElem?, Array.getElem?_toList]
  constructor
  · rintro ⟨⟨residence, held⟩, place, found, selected⟩
    cases residence with
    | free => cases selected
    | resident page => cases selected; exact found
    | swapped page slot => cases selected
  · exact fun found => ⟨_, _, found, rfl⟩

/-- The place that is reserved is the first one that is unused. -/
theorem reserve_eq_some_iff :
    ledger.reserve = some handle ↔
      (∃ page, ledger.places[handle]? = some page ∧ page.isFree = true) ∧
        ∀ other page, other < handle → ledger.places[other]? = some page →
          page.isFree = false := by
  rw [reserve, Array.findIdx?_eq_some_iff_getElem]
  constructor
  · rintro ⟨inside, isFree, before⟩
    refine ⟨⟨_, Array.getElem?_eq_getElem inside, isFree⟩, ?_⟩
    intro other page less found
    obtain ⟨_, rfl⟩ := Array.getElem?_eq_some_iff.mp found
    simpa using before other less
  · rintro ⟨⟨page, found, isFree⟩, before⟩
    obtain ⟨inside, rfl⟩ := Array.getElem?_eq_some_iff.mp found
    refine ⟨inside, isFree, fun other less => ?_⟩
    simpa using before other _ less (Array.getElem?_eq_getElem _)

theorem reserve_eq_none_iff :
    ledger.reserve = none ↔
      ∀ (handle : Nat) (page : Tracked),
        ledger.places[handle]? = some page → page.isFree = false := by
  rw [reserve, Array.findIdx?_eq_none_iff]
  constructor
  · intro taken handle page found
    exact taken page (Array.mem_of_getElem? found)
  · intro taken page member
    obtain ⟨handle, found⟩ := Array.getElem?_of_mem member
    exact taken handle page found

/-- A page becomes resident if the ceiling allows it, and either its place was
unused and the address was not tracked, or its place held that very page in
swap. -/
theorem markResident_eq_ok_iff :
    ledger.markResident handle address = .ok after ↔
      ledger.residentCount < ledger.maxResident ∧
        ∃ page, ledger.places[handle]? = some page ∧
          ((page.residence = .free ∧ ledger.find? address = none ∧
              after =
                { ledger.put handle { page with
                    residence := .resident address } with
                  residentCount := ledger.residentCount + 1
                  index := ledger.index.insert address handle }) ∨
            ∃ slot, page.residence = .swapped address slot ∧
              after =
                { ledger.put handle { page with
                    residence := .resident address } with
                  residentCount := ledger.residentCount + 1
                  swappedCount := ledger.swappedCount - 1 }) := by
  simp only [markResident, bind_eq_ok_iff, ensure_eq_ok_iff, exists_const,
    get_eq_ok_iff]
  refine and_congr_right fun _ => exists_congr fun page =>
    and_congr_right fun _ => ?_
  obtain ⟨residence, recency⟩ := page
  cases residence with
  | free =>
      cases found : ledger.find? address with
      | some other => simp [throw, throwThe, MonadExceptOf.throw]
      | none => simp [pure, Except.pure, eq_comm]
  | resident held => simp [throw, throwThe, MonadExceptOf.throw]
  | swapped held slot =>
      simp only [bind_eq_ok_iff, ensure_eq_ok_iff, exists_const]
      by_cases same : held = address
      · subst same
        simp [pure, Except.pure, eq_comm]
      · simp [same]

/-- A page goes to swap from the place where it is resident. -/
theorem markSwapped_eq_ok_iff :
    ledger.markSwapped handle address slot = .ok after ↔
      ∃ page, ledger.places[handle]? = some page ∧
        page.residence = .resident address ∧
          after =
            { ledger.put handle { page with
                residence := .swapped address slot } with
              residentCount := ledger.residentCount - 1
              swappedCount := ledger.swappedCount + 1 } := by
  simp only [markSwapped, bind_eq_ok_iff, get_eq_ok_iff, ensure_eq_ok_iff,
    exists_const]
  refine exists_congr fun page => and_congr_right fun _ =>
    and_congr_right fun _ => ?_
  simp [pure, Except.pure, eq_comm]

/-- A page is released from either state, and nothing else is. -/
theorem release_eq_ok_iff {released : Tracked} :
    ledger.release handle = .ok (released, after) ↔
      ledger.places[handle]? = some released ∧
        ((∃ address, released.residence = .resident address ∧
            after =
              { ledger.put handle Tracked.unused with
                index := ledger.index.erase address
                residentCount := ledger.residentCount - 1 }) ∨
          ∃ address slot, released.residence = .swapped address slot ∧
            after =
              { ledger.put handle Tracked.unused with
                index := ledger.index.erase address
                swappedCount := ledger.swappedCount - 1 }) := by
  simp only [release, bind_eq_ok_iff, get_eq_ok_iff]
  constructor
  · rintro ⟨page, found, success⟩
    obtain ⟨residence, recency⟩ := page
    cases residence with
    | free => cases success
    | resident address =>
        cases success
        exact ⟨found, .inl ⟨address, rfl, rfl⟩⟩
    | swapped address slot =>
        cases success
        exact ⟨found, .inr ⟨address, slot, rfl, rfl⟩⟩
  · rintro ⟨found, state⟩
    refine ⟨released, found, ?_⟩
    obtain ⟨residence, recency⟩ := released
    obtain ⟨address, same, rfl⟩ | ⟨address, slot, same, rfl⟩ := state
    · cases same
      rfl
    · cases same
      rfl

/-- A tracked page is adopted into an unused place if its address is not
tracked, and a resident one only below the ceiling. -/
theorem adopt_eq_ok_iff :
    ledger.adopt handle page = .ok after ↔
      (∃ place, ledger.places[handle]? = some place ∧
          place.residence = .free) ∧
        ledger.find? page.address = none ∧
        ((∃ address, page.residence = .resident address ∧
            ledger.residentCount < ledger.maxResident ∧
            after =
              { ledger.put handle page with
                index := ledger.index.insert address handle
                residentCount := ledger.residentCount + 1 }) ∨
          ∃ address slot, page.residence = .swapped address slot ∧
            after =
              { ledger.put handle page with
                index := ledger.index.insert address handle
                swappedCount := ledger.swappedCount + 1 }) := by
  obtain ⟨residence, recency⟩ := page
  simp only [adopt, bind_eq_ok_iff, get_eq_ok_iff, ensure_eq_ok_iff,
    exists_const]
  cases residence with
  | free => simp [throw, throwThe, MonadExceptOf.throw]
  | resident address =>
      simp only [bind_eq_ok_iff, ensure_eq_ok_iff, exists_const,
        Tracked.address, Residence.address, pure, Except.pure,
        Except.ok.injEq, Residence.resident.injEq, reduceCtorEq, false_and,
        or_false, exists_eq_left']
      grind
  | swapped address slot =>
      simp only [bind_eq_ok_iff, ensure_eq_ok_iff, exists_const,
        Tracked.address, Residence.address, pure, Except.pure,
        Except.ok.injEq, Residence.swapped.injEq, reduceCtorEq, false_and,
        false_or]
      grind

theorem setRecency_eq_ok_iff {recency : Nat} :
    ledger.setRecency handle recency = .ok after ↔
      ∃ page, ledger.places[handle]? = some page ∧
        after = ledger.put handle { page with recency } := by
  simp only [setRecency, bind_eq_ok_iff, get_eq_ok_iff, pure, Except.pure,
    Except.ok.injEq]
  exact exists_congr fun _ => and_congr_right fun _ => eq_comm

theorem advanceClock_eq_ok_iff {now : Nat} :
    ledger.advanceClock = .ok (now, after) ↔
      ledger.generation + 1 < Word.limit ∧ now = ledger.generation + 1 ∧
        after = { ledger with generation := ledger.generation + 1 } := by
  simp only [advanceClock, bind_eq_ok_iff, Word.add, Word.fit_eq_ok_iff, pure,
    Except.pure, Except.ok.injEq, Prod.mk.injEq]
  constructor
  · rintro ⟨_, ⟨fits, rfl⟩, rfl, rfl⟩
    exact ⟨fits, rfl, rfl⟩
  · rintro ⟨fits, rfl, rfl⟩
    exact ⟨_, ⟨fits, rfl⟩, rfl, rfl⟩

end Ledger

end DemandPaging
