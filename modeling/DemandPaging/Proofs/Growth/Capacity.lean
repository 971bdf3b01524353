import DemandPaging.Proofs.Growth.Rollback

/-!
# How much memory may grow

A page that is added takes its frame before the page that leaves for it gives
one back, so memory that is full still needs one free frame to grow, and never
more than one.  Places are never given back, so there have to be as many as
there are new pages.  With a page table that may grow and a swap file that
completes its transfers nothing else can be short: memory grows exactly if there
are the frames and the places, and what it costs can be told beforehand.
-/

namespace DemandPaging

namespace AddressSpace

variable {origin state : Hosted AddressSpace}
  {start added total old new : Nat} {permissions : Flags}
  {error : PagingError}

/-- The frames that it takes to add `count` pages: one for each, but under
paging no more than are needed to fill memory up, and one. -/
def framesFor (space : AddressSpace) (count : Nat) : Nat :=
  if space.isPaging then
    min count (space.ledger.maxResident - space.ledger.residentCount + 1)
  else
    count

/-- There are frames for `count` more pages and, under paging, places. -/
structure HasRoomFor (state : Hosted AddressSpace) (count : Nat) : Prop where
  frames : state.focus.framesFor count ≤ (pager state).frames.freeCount
  places : state.focus.isPaging = true →
    state.focus.ledger.trackedCount + count ≤ state.focus.ledger.capacity

/-- Why `count` pages that there is no room for cannot be added.  It is for want
of a place if there are frames for all pages up to the one that has none. -/
def refusal (state : Hosted AddressSpace) (count : Nat) : PagingError :=
  if state.focus.isPaging = true ∧
      min (state.focus.framesFor count) (state.focus.ledger.capacity -
        state.focus.ledger.trackedCount + 1) ≤
          (pager state).frames.freeCount then
    .tooManyPages state.focus.ledger.capacity
  else
    .outOfMemory

/-- What `count` pages more cost under paging: the pages in excess of what
memory may have leave it. -/
structure Costs (before : Hosted AddressSpace) (count : Nat)
    (after : Hosted AddressSpace) : Prop where
  evictions : after.focus.stats.evictions = before.focus.stats.evictions +
    (before.focus.ledger.residentCount + count -
      before.focus.ledger.maxResident)
  residentCount : after.focus.ledger.residentCount =
    min (before.focus.ledger.residentCount + count)
      before.focus.ledger.maxResident
  trackedCount : after.focus.ledger.trackedCount =
    before.focus.ledger.trackedCount + count

theorem framesFor_of_isPaging {space : AddressSpace}
    (isPaging : space.isPaging = true) (count : Nat) :
    space.framesFor count = min count
      (space.ledger.maxResident - space.ledger.residentCount + 1) :=
  if_pos isPaging

theorem framesFor_of_not_isPaging {space : AddressSpace}
    (notPaging : space.isPaging = false) (count : Nat) :
    space.framesFor count = count :=
  if_neg (Bool.eq_false_iff.mp notPaging)

namespace Filled

variable (filled : Filled origin start added state)

include filled

theorem hasRoomFor : HasRoomFor origin added where
  frames := by
    cases isPaging : origin.focus.isPaging with
    | true =>
        rw [framesFor_of_isPaging isPaging]
        exact filled.hadFrames isPaging
    | false =>
        obtain ⟨_, _, _, balance⟩ := filled.plain isPaging
        rw [framesFor_of_not_isPaging isPaging]
        omega
  places isPaging := by
    have count := filled.trackedCount isPaging
    have fits := filled.wellFormed.ledger.trackedCount_le
    rw [filled.setting.capacity] at fits
    omega

theorem costs (isPaging : origin.focus.isPaging = true) :
    Costs origin added state where
  evictions := filled.evictions isPaging
  residentCount := filled.residentCount isPaging
  trackedCount := filled.trackedCount isPaging

theorem refuses_of_noFrame (ends : Ends origin start)
    (noneFree : (pager state).frames.freeCount = 0) (less : added < total) :
    ¬HasRoomFor origin total ∧ refusal origin total = .outOfMemory := by
  cases isPaging : origin.focus.isPaging with
  | false =>
      obtain ⟨_, _, _, balance⟩ := filled.plain isPaging
      constructor
      · intro room
        have enough := room.frames
        rw [framesFor_of_not_isPaging isPaging] at enough
        omega
      · exact if_neg fun both =>
          Bool.false_ne_true (isPaging.symm.trans both.1)
  | true =>
      have ceiling := ends.wellFormed.residentCount_le isPaging
      have balance := filled.tracked isPaging
      have resident := filled.residentCount isPaging
      have fits := filled.hasRoomFor.places isPaging
      have count : (pager origin).frames.freeCount =
          min added (origin.focus.ledger.maxResident -
            origin.focus.ledger.residentCount) := by
        omega
      constructor
      · intro room
        have enough := room.frames
        rw [framesFor_of_isPaging isPaging] at enough
        omega
      · refine if_neg fun both => ?_
        have enough := both.2
        rw [framesFor_of_isPaging isPaging] at enough
        omega

/-- Where no place is left for the next page, but a frame is, there are too few
places. -/
theorem refuses_of_noPlace (ends : Ends origin start)
    (isPaging : origin.focus.isPaging = true)
    (hasFrame : 0 < (pager state).frames.freeCount)
    (isFull : state.focus.ledger.isFull = true) (less : added < total) :
    ¬HasRoomFor origin total ∧
      refusal origin total = .tooManyPages origin.focus.ledger.capacity := by
  have ceiling := ends.wellFormed.residentCount_le isPaging
  have balance := filled.tracked isPaging
  have resident := filled.residentCount isPaging
  have count : origin.focus.ledger.trackedCount + added =
      origin.focus.ledger.capacity := by
    rw [← filled.trackedCount isPaging, ← filled.setting.capacity]
    exact beq_iff_eq.mp isFull
  constructor
  · intro room
    have places := room.places isPaging
    omega
  · refine if_pos ⟨isPaging, ?_⟩
    rw [framesFor_of_isPaging isPaging]
    omega

/-- With a page table that may grow and transfers that are done, there was no
room for the next page. -/
theorem refuses (ends : Ends origin start)
    (unbudgeted : origin.focus.table.budget = none)
    (transfers : origin.focus.swap.IsReliable ∨
      ∀ failure, error ≠ .swapTransfer failure)
    (short : Shortage state error) (less : added < total) :
    ¬HasRoomFor origin total ∧ error = refusal origin total := by
  cases short with
  | noFrame noneFree =>
      obtain ⟨noRoom, refused⟩ :=
        filled.refuses_of_noFrame ends noneFree less
      exact ⟨noRoom, refused.symm⟩
  | noTable budget => exact absurd (filled.budget.trans unbudgeted) budget
  | noPlace hasFrame isPaging isFull =>
      obtain ⟨noRoom, refused⟩ := filled.refuses_of_noPlace ends
        (filled.setting.isPaging.symm.trans isPaging) hasFrame isFull less
      rw [filled.setting.capacity]
      exact ⟨noRoom, refused.symm⟩
  | noTransfer _ unreliable failure =>
      obtain reliable | completes := transfers
      · exact absurd (filled.isReliable reliable) unreliable
      · exact absurd rfl (completes failure)

end Filled

/-- Memory over a page table without a budget, with a swap file that completes
the transfers of the run, grows exactly if there is room; what it costs and what
it is refused with can be told beforehand.  The run ends only if the clock of
the queue runs out. -/
theorem grows_if_there_is_room (wellFormed : WellFormed state)
    (covers : Covers state.focus (Address.pageCeil old)) (le : old ≤ new)
    (inside : new ≤ addressLimit) (isClear : permissions.pagedOut = false)
    (unbudgeted : state.focus.table.budget = none)
    (transfers : state.focus.swap.IsReliable ∨ ∀ failure after,
      (grow old new permissions).run state ≠
        .failed (.swapTransfer failure) after) :
    ((grow old new permissions).run state).Meets
      (RunsLate state (grownPages old new * ((pager state).turns + 1)))
      (fun size after => size = new ∧
        HasRoomFor state (grownPages old new) ∧
        (state.focus.isPaging = true →
          Costs state (grownPages old new) after))
      (fun error _ => ¬HasRoomFor state (grownPages old new) ∧
        error = refusal state (grownPages old new)) := by
  have ends := wellFormed.ends covers
  have meets := filled_grow ends le inside isClear
  cases run : (grow old new permissions).run state with
  | done size after =>
      rw [run] at meets
      obtain ⟨whole, filled⟩ := meets
      exact ⟨whole, filled.hasRoomFor, filled.costs⟩
  | failed error after =>
      rw [run] at meets
      obtain ⟨fewer, middle, less, filled, short, _⟩ := meets
      refine filled.refuses ends unbudgeted (transfers.imp_right ?_) short less
      rintro completes failure rfl
      exact completes failure after run
  | fatal cause =>
      rw [run] at meets
      exact meets

/-- A new space for one page in memory and one in swap can grow by two pages, at
the cost of an eviction, but not by three. -/
theorem grows_if_there_is_room_of_new :
    (∃ after, (grow 0 (2 * pageSize) {}).run ⟨agingSpace, agingHost⟩ =
        .done (2 * pageSize) after ∧
      Costs ⟨agingSpace, agingHost⟩ 2 after) ∧
    ∃ after, (grow 0 (3 * pageSize) {}).run ⟨agingSpace, agingHost⟩ =
      .failed (.tooManyPages 2) after := by
  have reliable : agingSpace.swap.IsReliable :=
    ⟨rfl, Nat.le_of_eq (Array.size_replicate ..).symm⟩
  have neverLate : ∀ time cause,
      ¬RunsLate ⟨agingSpace, agingHost⟩ time cause := by
    rintro time cause ⟨_, policy, _⟩
    cases policy
  have grows (new : Nat) (inside : new ≤ addressLimit) :=
    grows_if_there_is_room isTidy_aging.wellFormed covers_aging
      (Nat.zero_le new) inside (rfl : ({} : Flags).pagedOut = false) rfl
      (.inl reliable)
  constructor
  · have two := grows (2 * pageSize) (by decide)
    have room : HasRoomFor ⟨agingSpace, agingHost⟩ 2 :=
      ⟨by decide, fun _ => by decide⟩
    cases ends : (grow 0 (2 * pageSize) {}).run ⟨agingSpace, agingHost⟩ with
    | done size after =>
        rw [ends] at two
        obtain ⟨rfl, _, costs⟩ := two
        exact ⟨after, rfl, costs rfl⟩
    | failed error after =>
        rw [ends] at two
        exact absurd room two.1
    | fatal cause =>
        rw [ends] at two
        exact absurd two (neverLate _ cause)
  · have three := grows (3 * pageSize) (by decide)
    have noRoom : ¬HasRoomFor ⟨agingSpace, agingHost⟩ 3 := fun room =>
      absurd (room.places rfl) (by decide)
    cases ends : (grow 0 (3 * pageSize) {}).run ⟨agingSpace, agingHost⟩ with
    | done size after =>
        rw [ends] at three
        exact absurd three.2.1 noRoom
    | failed error after =>
        rw [ends] at three
        obtain ⟨_, rfl⟩ := three
        exact ⟨after, rfl⟩
    | fatal cause =>
        rw [ends] at three
        exact absurd three (neverLate _ cause)

end AddressSpace

end DemandPaging
