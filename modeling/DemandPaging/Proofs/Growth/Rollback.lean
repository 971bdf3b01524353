import DemandPaging.Proofs.Growth.Filling

/-!
# Memory that could not grow

If a page cannot be added, those that were added before it go again.  What is
left differs from what there was in one way only: pages that were in memory may
have left it for the new ones, and have not come back.  Each of them has a slot
now, and its frame is free.
-/

namespace DemandPaging

namespace AddressSpace

variable {origin state after : Hosted AddressSpace}
  {start stop added old new : Nat} {permissions : Flags}
  {error : PagingError}

theorem Shortage.kind (short : Shortage state error) :
    error = .outOfMemory ∨
      error = .tooManyPages state.focus.ledger.capacity ∨
        ∃ failure, error = .swapTransfer failure := by
  cases short with
  | noFrame _ | noTable _ => exact .inl rfl
  | noPlace _ _ _ => exact .inr (.inl rfl)
  | noTransfer _ _ failure => exact .inr (.inr ⟨failure, rfl⟩)

/-- In a well-formed space under paging every page in swap has a slot, and there
are no other claimed slots. -/
theorem WellFormed.swappedCount_eq_inUse (wellFormed : WellFormed state)
    (isPaging : state.focus.isPaging = true) :
    state.focus.ledger.swappedCount = state.focus.swap.inUse :=
  ((wellFormed.nearlyFormed isPaging).sound_backed nofun).swappedCount_eq_inUse

/-- Memory ends at `stop` as before.  Each page has the place that it had; it is
where it was, or it left memory for swap, and as many did as there are more free
frames and more claimed slots. -/
structure RollsBack (before : Hosted AddressSpace) (stop : Nat)
    (after : Hosted AddressSpace) : Prop where
  wellFormed : WellFormed after
  setting : SameSetting before after
  covers : Covers after.focus stop
  untracked : before.focus.isPaging = true →
    ∀ page, stop ≤ page → after.focus.ledger.find? page = none
  find? : ∀ page,
    after.focus.ledger.find? page = before.focus.ledger.find? page
  recedes : before.focus.ledger.Recedes after.focus.ledger
  freeCount : (after.host.pool before.focus.pool).freeCount =
    (before.host.pool before.focus.pool).freeCount +
      (before.focus.ledger.departed after.focus.ledger).card
  inUse : after.focus.swap.inUse = before.focus.swap.inUse +
    (before.focus.ledger.departed after.focus.ledger).card
  residentCount : after.focus.ledger.residentCount +
    (before.focus.ledger.departed after.focus.ledger).card =
      before.focus.ledger.residentCount
  swappedCount : after.focus.ledger.swappedCount =
    before.focus.ledger.swappedCount +
      (before.focus.ledger.departed after.focus.ledger).card

namespace Grown

variable (grown : Grown origin start added added state)

include grown

theorem ends (ends : Ends origin start) : Ends state start where
  wellFormed := grown.wellFormed
  aligned := ends.aligned
  isPresent address := by
    rw [grown.isPresent]
    omega

theorem recedes (ends : Ends origin start) :
    origin.focus.ledger.Recedes state.focus.ledger := by
  intro handle
  cases isPaging : origin.focus.isPaging with
  | false => exact .inl ((grown.plain isPaging).1 handle)
  | true =>
      obtain recedes | ⟨_, residence, known, taken, high⟩ :=
        grown.places isPaging handle
      · exact recedes
      · have below := (grown.ends ends).address_lt
          (grown.setting.isPaging.trans isPaging) known taken
        omega

theorem rollsBack (ends : Ends origin start) :
    RollsBack origin start state := by
  have consistent := ends.wellFormed.ledger
  have isConsistent := grown.wellFormed.ledger
  have recedes := grown.recedes ends
  have resident := consistent.residentCount_add_card isConsistent recedes
  have swapped := consistent.swappedCount_eq_add_card isConsistent recedes
  have frames : (pager state).frames =
      state.host.pool origin.focus.pool :=
    congrArg state.host.pool grown.setting.pool
  have given : (pager state).frames.freeCount =
      (pager origin).frames.freeCount +
        (origin.focus.ledger.departed state.focus.ledger).card := by
    cases isPaging : origin.focus.isPaging with
    | true =>
        have balance := grown.tracked isPaging
        omega
    | false =>
        obtain ⟨_, count, _, balance⟩ := grown.plain isPaging
        omega
  rw [frames] at given
  exact {
    wellFormed := grown.wellFormed
    setting := grown.setting
    covers := (covers_iff ends.aligned).mpr (grown.ends ends).isPresent
    untracked := by
      intro isPaging page high
      refine Option.eq_none_iff_forall_ne_some.mpr fun handle found => ?_
      obtain ⟨tracked, place, taken, located⟩ :=
        isConsistent.find?_iff.mp found
      have below := (grown.ends ends).address_lt
        (grown.setting.isPaging.trans isPaging)
        (Ledger.residenceAt?_of_place place) taken
      change tracked.residence.address = page at located
      omega
    find? := consistent.find?_of_recedes isConsistent recedes
    recedes := recedes
    freeCount := given
    inUse := by
      cases isPaging : origin.focus.isPaging with
      | true =>
          have before := ends.wellFormed.swappedCount_eq_inUse isPaging
          have now := grown.wellFormed.swappedCount_eq_inUse
            (grown.setting.isPaging.trans isPaging)
          omega
      | false =>
          obtain ⟨_, count, swap, _⟩ := grown.plain isPaging
          rw [swap]
          omega
    residentCount := resident
    swappedCount := swapped }

end Grown

theorem Filled.ends (filled : Filled origin start added state)
    (ends : Ends origin start) :
    Ends state (start + added * pageSize) where
  wellFormed := filled.wellFormed
  aligned := Address.pageBase_add_mul ends.aligned added
  isPresent address := by
    rw [filled.isPresent]
    simp only [pageSize]
    omega

/-- What the theorems on growth rely on: a well-formed space whose leaves are
those of its first `old` bytes. -/
theorem WellFormed.ends (wellFormed : WellFormed state)
    (covers : Covers state.focus (Address.pageCeil old)) :
    Ends state (Address.pageCeil old) :=
  have aligned := Address.pageBase_eq_self_iff.mpr
    (Address.isPageAligned_pageCeil old)
  ⟨wellFormed, aligned, (covers_iff aligned).mp covers⟩

/-- Memory grows, or it stays as large as it was and no page is lost: pages that
left memory on the way have moved to swap, and nothing else has happened to any
page.  The run ends only if the clock of the queue runs out. -/
theorem grows_or_rolls_back (wellFormed : WellFormed state)
    (covers : Covers state.focus (Address.pageCeil old)) (le : old ≤ new)
    (inside : new ≤ addressLimit) (isClear : permissions.pagedOut = false) :
    ((grow old new permissions).run state).Meets
      (RunsLate state (grownPages old new * ((pager state).turns + 1)))
      (fun size after => size = new ∧ WellFormed after ∧
        Covers after.focus (Address.pageCeil new))
      (fun error after =>
        (error = .outOfMemory ∨
          error = .tooManyPages state.focus.ledger.capacity ∨
            ∃ failure, error = .swapTransfer failure) ∧
        RollsBack state (Address.pageCeil old) after) := by
  have ends := wellFormed.ends covers
  refine (filled_grow ends le inside isClear).mono ?_ ?_
  · rintro _ after ⟨rfl, filled⟩
    have grown := filled.ends ends
    rw [pageCeil_add_grownPages le] at grown
    exact ⟨rfl, grown.wellFormed,
      (covers_iff grown.aligned).mpr grown.isPresent⟩
  · rintro error after ⟨fewer, middle, _, filled, short, grown⟩
    have kind := short.kind
    rw [filled.setting.capacity] at kind
    exact ⟨kind, grown.rollsBack ends⟩

theorem covers_aging : Covers agingSpace (Address.pageCeil 0) := by
  have start : Address.pageCeil 0 = 0 := by decide
  intro page
  rw [start, agingSpace, freshSpace, PageTable.leaves_new]
  refine iff_of_false ?_ ?_
  · rintro ⟨_, impossible⟩
    cases impossible
  · rintro ⟨_, below⟩
    exact absurd below (Nat.not_lt_zero page)

/-- A space of one page that has room for one page in memory and one in swap
cannot grow by three pages. -/
theorem grows_or_rolls_back_of_one_page : ∃ state : Hosted AddressSpace,
    WellFormed state ∧ Covers state.focus (Address.pageCeil pageSize) ∧
    pageSize ≤ 4 * pageSize ∧ 4 * pageSize ≤ addressLimit ∧
    ({} : Flags).pagedOut = false ∧
    ∃ error after, (grow pageSize (4 * pageSize) {}).run state =
        .failed error after ∧
      RollsBack state (Address.pageCeil pageSize) after := by
  have evaluated : (grow 0 pageSize {}).leadsTo
      (fun grown => grown.focus.isPaging &&
        (grown.focus.config.policy == .nfua &&
          (grown.focus.ledger.trackedCount == 1 &&
            grown.focus.ledger.capacity == 2)))
      ⟨agingSpace, agingHost⟩ = true := by
    decide +kernel
  obtain ⟨_, state, grows, computed⟩ := Action.exists_of_leadsTo evaluated
  simp only [Bool.and_eq_true, beq_iff_eq] at computed
  obtain ⟨isPaging, policy, trackedCount, capacity⟩ := computed
  have first := grows_or_rolls_back isTidy_aging.wellFormed covers_aging
    (Nat.zero_le pageSize) (by decide) (rfl : ({} : Flags).pagedOut = false)
  rw [grows] at first
  obtain ⟨_, wellFormed, covers⟩ := first
  have le : pageSize ≤ 4 * pageSize := by decide
  have second := grows_or_rolls_back wellFormed covers le (by decide)
    (rfl : ({} : Flags).pagedOut = false)
  have fills := filled_grow (wellFormed.ends covers) le (by decide)
    (rfl : ({} : Flags).pagedOut = false)
  refine ⟨state, wellFormed, covers, le, by decide, rfl, ?_⟩
  cases ends : (grow pageSize (4 * pageSize) {}).run state with
  | failed error after =>
      rw [ends] at second
      exact ⟨error, after, rfl, second.2⟩
  | done _ after =>
      -- Four pages are more than the ledger has places for.
      rw [ends] at fills
      have filled := fills.2
      have count := filled.trackedCount isPaging
      have fits := filled.wellFormed.ledger.trackedCount_le
      rw [filled.setting.capacity] at fits
      have three : grownPages pageSize (4 * pageSize) = 3 := by decide
      omega
  | fatal cause =>
      rw [ends] at second
      obtain ⟨_, isQueue, _⟩ := second
      cases policy.symm.trans isQueue

end AddressSpace

end DemandPaging
