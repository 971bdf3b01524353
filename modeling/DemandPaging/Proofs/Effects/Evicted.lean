import DemandPaging.Proofs.Effects.Paging
import DemandPaging.Proofs.Replacement.Aging

/-!
# What an eviction does

An eviction takes one page from its frame to the lowest free slot and leaves
every other page where it is, or it fails with the error of the transfer and
leaves everything where it is.  In both cases the pages that were spared on the
way to the choice have had their second chance.
-/

namespace DemandPaging

namespace AddressSpace

variable {state before after : Hosted AddressSpace} {spared : List Nat}
  {handle page frame slot : Nat} {error : PagingError}

/-- What no operation on the pages of a space changes: how it was made, and the
pools of other spaces. -/
structure SameSetting (before after : Hosted AddressSpace) : Prop where
  pool : after.focus.pool = before.focus.pool
  config : after.focus.config = before.focus.config
  isPaging : after.focus.isPaging = before.focus.isPaging
  maxResident :
    after.focus.ledger.maxResident = before.focus.ledger.maxResident
  capacity : after.focus.ledger.capacity = before.focus.ledger.capacity
  slots : after.focus.swap.capacity = before.focus.swap.capacity
  elsewhere : ∀ number, number ≠ before.focus.pool →
    after.host.pool number = before.host.pool number

theorem SameSetting.refl (state : Hosted AddressSpace) :
    SameSetting state state :=
  ⟨rfl, rfl, rfl, rfl, rfl, rfl, fun _ _ => rfl⟩

theorem Stays.setting (stays : Stays before after)
    (shape : (pager before).SameShape (pager after)) :
    SameSetting before after where
  pool := stays.pool
  config := shape.config
  isPaging := shape.isPaging
  maxResident := shape.maxResident
  capacity := shape.ledgerCapacity
  slots := shape.swapCapacity
  elsewhere := stays.elsewhere

theorem Becomes.setting {parts : Pager}
    (becomes : Becomes before parts after)
    (shape : (pager before).SameShape parts) : SameSetting before after :=
  becomes.stays.setting (becomes.parts ▸ shape)

/-- The policy chose the page at `page`, at the place `handle`, and spared the
pages `spared`. -/
structure Chooses (before : Hosted AddressSpace) (spared : List Nat)
    (handle page : Nat) : Prop where
  chosen : ∃ ledger table, before.focus.config.policy.select
    before.focus.ledger before.focus.table =
      .ok (⟨handle, spared⟩, ledger, table)
  spares : before.focus.config.policy ≠ .scfifo → spared = []
  resident : before.focus.ledger.residenceAt? handle =
    some (.resident page)
  queued : ∀ other ∈ spared, ∃ place,
    before.focus.ledger.residenceAt? place = some (.resident other)

/-- The slot is the lowest that is not claimed. -/
structure IsLowestFree (swap : SwapSpace) (slot : Nat) : Prop where
  inside : slot < swap.capacity
  isFree : swap.isClaimed slot = false
  lowest : ∀ lower, lower < slot → swap.isClaimed lower = true

/-- The page at `page` left the frame `frame` for the slot `slot`, after the
pages `spared` had a second chance.  It keeps its place `handle`. -/
structure Evicts (before after : Hosted AddressSpace) (spared : List Nat)
    (handle page frame slot : Nat) : Prop where
  chooses : Chooses before spared handle page
  lowest : IsLowestFree before.focus.swap slot
  setting : SameSetting before after
  residence : ∀ other, after.focus.ledger.residenceAt? other =
    if other = handle then some (.swapped page slot)
    else before.focus.ledger.residenceAt? other
  place : ∀ other, other ≠ handle →
    (∀ queued ∈ spared, before.focus.ledger.residenceAt? other ≠
      some (.resident queued)) →
        after.focus.ledger.places[other]? =
          before.focus.ledger.places[other]?
  find? : ∀ other,
    after.focus.ledger.find? other = before.focus.ledger.find? other
  residentCount : after.focus.ledger.residentCount + 1 =
    before.focus.ledger.residentCount
  swappedCount : after.focus.ledger.swappedCount =
    before.focus.ledger.swappedCount + 1
  generation : after.focus.ledger.generation =
    before.focus.ledger.generation + spared.length
  mapped : ∃ entry, before.focus.table.get? page = some entry ∧
    entry.isValid = true ∧ entry.address = frame
  entry : ∀ address, after.focus.table.get? address =
    (before.focus.table.get? address).map fun entry =>
      if Address.pageBase address = page then
        Entry.pagedOut (afterChances spared address entry).flags
      else afterChances spared address entry
  isClaimed : ∀ other, after.focus.swap.isClaimed other =
    if other = slot then true else before.focus.swap.isClaimed other
  inUse : after.focus.swap.inUse = before.focus.swap.inUse + 1
  stored : ∃ bytes, bytes.length = pageSize ∧
    frameBytes? before frame = some bytes ∧
      after.focus.slotBytes? slot = some bytes
  slotBytes? : ∀ other, other ≠ slot →
    after.focus.slotBytes? other = before.focus.slotBytes? other
  frameBytes? : ∀ other, AddressSpace.frameBytes? after other =
    if other = frame then none else AddressSpace.frameBytes? before other
  freeCount : (after.host.pool before.focus.pool).freeCount =
    (before.host.pool before.focus.pool).freeCount + 1
  stats : after.focus.stats = { before.focus.stats with
    secondChances := before.focus.stats.secondChances + spared.length
    evictions := before.focus.stats.evictions + 1 }

/-- Swap did not take the page: the pages `spared` have had their second chance,
the failed transfer is counted, and that is all that happened. -/
structure Refuses (before after : Hosted AddressSpace)
    (spared : List Nat) (handle page : Nat) (error : PagingError) : Prop where
  error : ∃ failure, error = .swapTransfer failure
  chooses : Chooses before spared handle page
  chances : Chances spared before.focus.ledger before.focus.table
    after.focus.ledger after.focus.table
  setting : SameSetting before after
  swap : after.focus.swap = before.focus.swap
  pools : after.host.pools = before.host.pools
  stats : after.focus.stats = { before.focus.stats with
    secondChances := before.focus.stats.secondChances + spared.length
    swapErrors := before.focus.stats.swapErrors + 1 }

section Views

variable {spare : Option Nat} (candidate : Candidate state spare)
  (departure : Departure state spare)
  (consistent : state.focus.ledger.IsConsistent)
  (aligned : state.focus.ledger.IsAligned)

include consistent aligned

theorem Candidate.chooses : Chooses state candidate.victim.spared
    candidate.victim.handle candidate.page where
  chosen := ⟨_, _, candidate.selects⟩
  spares := spared_eq_nil_of_select candidate.selects
  resident := candidate.handle_known consistent aligned
  queued :=
    (chances_of_select consistent aligned candidate.selects).resident

theorem Candidate.setting_refused : SameSetting state candidate.refused := by
  have ranks :=
    (chances_of_select consistent aligned candidate.selects).ranks
  exact ⟨rfl, rfl, rfl, ranks.maxResident, ranks.capacity, rfl,
    fun _ _ => rfl⟩

theorem Departure.setting_after : SameSetting state departure.after := by
  have ranks :=
    (chances_of_select consistent aligned departure.selects).ranks
  refine ⟨rfl, rfl, rfl, ranks.maxResident, ?_, ?_,
    fun _ => departure.pool_after_of_ne⟩
  · exact (Ledger.capacity_put ..).trans ranks.capacity
  · have targets := departure.targets
    change departure.target.capacity = _
    cases spare with
    | some given => rw [targets.2]
    | none =>
        obtain ⟨_, _, taken⟩ := SwapSpace.claim_eq_some_iff.mp targets
        rw [taken, SwapSpace.capacity_take]

theorem Departure.residentCount_after :
    departure.after.focus.ledger.residentCount + 1 =
      state.focus.ledger.residentCount := by
  have ranks :=
    (chances_of_select consistent aligned departure.selects).ranks
  rw [← ranks.residentCount]
  exact Nat.sub_add_cancel
    (ranks.isConsistent.residentCount_pos departure.place rfl)

end Views

theorem isLowestFree_of_claim {swap target : SwapSpace}
    (claims : swap.claim = (some slot, target)) :
    IsLowestFree swap slot := by
  obtain ⟨isFree, lowest, _⟩ := SwapSpace.claim_eq_some_iff.mp claims
  obtain ⟨inside, _⟩ := Array.getElem?_eq_some_iff.mp isFree
  exact ⟨inside, SwapSpace.isClaimed_of_free isFree, lowest⟩

/-- A departure to a claimed slot is an eviction. -/
theorem Departure.evicts (departure : Departure state none)
    (consistent : state.focus.ledger.IsConsistent)
    (aligned : state.focus.ledger.IsAligned) :
    Evicts state departure.after departure.victim.spared
      departure.victim.handle departure.page departure.entry.address
      departure.slot := by
  have chances := chances_of_select consistent aligned departure.selects
  have claims : state.focus.swap.claim =
      (some departure.slot, departure.target) := departure.targets
  obtain ⟨isFree, _, taken⟩ := SwapSpace.claim_eq_some_iff.mp claims
  obtain ⟨entry, held, _, same⟩ :=
    departure.entry_before consistent aligned
  exact {
    chooses := departure.toCandidate.chooses consistent aligned
    lowest := isLowestFree_of_claim claims
    setting := departure.setting_after consistent aligned
    residence := departure.residenceAt?_after consistent aligned
    place := fun other different unspared =>
      (departure.place_after different).trans (chances.place other unspared)
    find? := chances.ranks.find?
    residentCount := departure.residentCount_after consistent aligned
    swappedCount :=
      congrArg (· + 1) chances.ranks.swappedCount
    generation := chances.generation
    mapped := ⟨entry, held,
      same.isValid.symm.trans departure.canLeave.isValid,
      same.address.symm⟩
    entry := departure.get?_after consistent aligned
    isClaimed := by
      intro other
      change departure.target.isClaimed other = _
      rw [taken]
      exact SwapSpace.isClaimed_take_of_free isFree other
    inUse := by
      change departure.target.inUse = _
      rw [taken]
      rfl
    stored := ⟨departure.contents.toList, Vector.length_toList ..,
      departure.frameBytes?_page,
      (departure.slotBytes?_after _).trans (if_pos rfl)⟩
    slotBytes? := fun other different =>
      (departure.slotBytes?_after other).trans (if_neg different)
    frameBytes? := departure.frameBytes?_after
    freeCount := departure.freeCount_after
    stats := rfl }

/-- A candidate that stays is refused. -/
theorem Candidate.refuses {spare : Option Nat}
    (candidate : Candidate state spare)
    (consistent : state.focus.ledger.IsConsistent)
    (aligned : state.focus.ledger.IsAligned)
    (failed : ∃ failure, error = .swapTransfer failure) :
    Refuses state candidate.refused candidate.victim.spared
      candidate.victim.handle candidate.page error where
  error := failed
  chooses := candidate.chooses consistent aligned
  chances := chances_of_select consistent aligned candidate.selects
  setting := candidate.setting_refused consistent aligned
  swap := rfl
  pools := rfl
  stats := rfl

theorem Evicts.of_resembles
    (evicts : Evicts state before spared handle page frame slot)
    (same : Resembles before after) :
    Evicts state after spared handle page frame slot := by
  obtain ⟨focus, host⟩ := after
  obtain ⟨pools, transfers, events⟩ := host
  obtain rfl : focus = before.focus := same.focus
  obtain rfl : pools = before.host.pools := same.pools
  exact { evicts with setting := { evicts.setting with } }

theorem Refuses.of_resembles
    (refuses : Refuses state before spared handle page error)
    (same : Resembles before after) :
    Refuses state after spared handle page error := by
  obtain ⟨focus, host⟩ := after
  obtain ⟨pools, transfers, events⟩ := host
  obtain rfl : focus = before.focus := same.focus
  obtain rfl : pools = before.host.pools := same.pools
  exact { refuses with setting := { refuses.setting with } }

/-- An eviction from a well-formed space with a page in memory and a free slot
takes the page that the policy chose to the lowest free slot, or fails for the
transfer alone and undoes its claim and nothing else.  It ends the run only if
the clock of the queue runs out. -/
theorem evicts_or_refuses (wellFormed : WellFormed state)
    (isPaging : state.focus.isPaging = true)
    (occupied : 0 < state.focus.ledger.residentCount)
    (room : 0 < state.focus.swap.freeSlots) :
    (evict.run state).Meets
      (RunsLate state state.focus.ledger.residentCount)
      (fun handle after => ∃ spared page frame slot,
        Evicts state after spared handle page frame slot)
      (fun error after => ∃ spared handle page,
        Refuses state after spared handle page error) := by
  have formed := wellFormed.isFormed
  have aligned := formed.isAligned isPaging
  refine ((resembles_evictInto (.refl state) none).mono ?_ ?_).mono_fatal ?_
  · rintro _ after ⟨departure, rfl, same⟩
    exact ⟨_, _, _, _, (departure.evicts wellFormed.ledger
      aligned).of_resembles same⟩
  · rintro error after ⟨candidate, failure, same⟩
    exact ⟨_, _, _, (candidate.refuses wellFormed.ledger aligned
      failure).of_resembles same⟩
  · intro cause ends
    obtain late | ⟨_, _, isSome, _⟩ := formed.runsLate_of_evictionEnds
      isPaging occupied (fun _ => Nat.ne_of_gt room) ends
    · exact late
    · cases isSome

theorem evicts_or_refuses_of_first_page : ∃ state : Hosted AddressSpace,
    WellFormed state ∧ state.focus.isPaging = true ∧
    0 < state.focus.ledger.residentCount ∧
    0 < state.focus.swap.freeSlots ∧
      ∃ handle after, evict.run state = .done handle after ∧
        ∃ spared page frame slot,
          Evicts state after spared handle page frame slot := by
  obtain ⟨_, touched, first⟩ := exists_firstTouched
  have wellFormed := first.isTidy.wellFormed
  have occupied : 0 < touched.focus.ledger.residentCount :=
    first.residentCount ▸ Nat.one_pos
  have room := Nat.pos_of_ne_zero first.freeSlots
  have meets :=
    evicts_or_refuses wellFormed first.isPaging occupied room
  have completes := completes_evict first.isReliable
  rw [Action.Completes] at completes
  cases evicts : evict.run touched with
  | failed _ _ =>
      rw [evicts] at completes
      exact completes.elim
  | fatal _ =>
      rw [evicts] at meets
      have aging := first.aging
      rw [meets.2.1] at aging
      cases aging
  | done handle after =>
      rw [evicts] at meets
      exact ⟨touched, wellFormed, first.isPaging, occupied, room, handle,
        after, evicts, meets⟩

end AddressSpace

end DemandPaging
