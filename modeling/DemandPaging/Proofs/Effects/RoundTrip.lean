import DemandPaging.Proofs.Entry.Registers
import DemandPaging.Proofs.Growth.Receding
import DemandPaging.Proofs.Mapping.Tracking
import DemandPaging.Proofs.UserCopy.Progress

/-!
# A page that leaves and comes back

A page that leaves memory frees what it takes to bring it back: a frame, and
room in memory.  So it comes back without another one having to leave, in a
frame with its bytes, to its place and to the flags that it was chosen with
(`RoundTrip`).  It only has to be read, and a clock that advances needs the
time.
-/

namespace DemandPaging

namespace AddressSpace

variable {state evicted returned after : Hosted AddressSpace}
  {spared : List Nat} {handle page slot frame newFrame address : Nat}

/-- The page at `page`, which the policy chose at the place `handle`, has the
flags that it was chosen with, and the bytes that it had. -/
def IsRestored (before returned : Hosted AddressSpace) (handle page : Nat) :
    Prop :=
  ∃ spared ledger table chosen now bytes,
    before.focus.config.policy.select before.focus.ledger
        before.focus.table = .ok (⟨handle, spared⟩, ledger, table) ∧
      table.get? page = some chosen ∧
      returned.focus.table.get? page = some now ∧
      now.flags = chosen.flags ∧ bytes.length = pageSize ∧
      frameBytes? before chosen.address = some bytes ∧
      frameBytes? returned now.address = some bytes

/-- The page at `page` left memory and came back to its place `handle`.  It has
the flags that it was chosen with and the bytes that it had.  Every page is
where it was, and as many pages, slots and frames are in use.  What is not about
this page is as it was once the page had left, and no page left for it. -/
structure RoundTrip (before evicted returned : Hosted AddressSpace)
    (handle page : Nat) : Prop where
  setting : SameSetting before returned
  resident : returned.focus.ledger.residenceAt? handle =
    some (.resident page)
  isRestored : IsRestored before returned handle page
  residence : ∀ place, returned.focus.ledger.residenceAt? place =
    before.focus.ledger.residenceAt? place
  find? : ∀ other,
    returned.focus.ledger.find? other = before.focus.ledger.find? other
  residentCount : returned.focus.ledger.residentCount =
    before.focus.ledger.residentCount
  swappedCount : returned.focus.ledger.swappedCount =
    before.focus.ledger.swappedCount
  isClaimed : ∀ number, returned.focus.swap.isClaimed number =
    before.focus.swap.isClaimed number
  inUse : returned.focus.swap.inUse = before.focus.swap.inUse
  freeCount : (returned.host.pool before.focus.pool).freeCount =
    (before.host.pool before.focus.pool).freeCount
  place : ∀ other, other ≠ handle →
    returned.focus.ledger.places[other]? =
      evicted.focus.ledger.places[other]?
  entry : ∀ address, Address.pageBase address ≠ page →
    returned.focus.table.get? address = evicted.focus.table.get? address
  logicalPage? : logicalPage? returned = AddressSpace.logicalPage? evicted
  sameMemory : AddressSpace.logicalPage? returned =
    AddressSpace.logicalPage? before
  stats : returned.focus.stats = { evicted.focus.stats with
    pageIns := evicted.focus.stats.pageIns + 1 }

section Moves

variable (evicts : Evicts state evicted spared handle page frame slot)
  (returns : Returns evicted returned handle page slot newFrame)
  (alone : ReturnsAlone evicted returned handle page slot newFrame)

include evicts returns alone

theorem Evicts.residenceAt?_returned (place : Nat) :
    returned.focus.ledger.residenceAt? place =
      state.focus.ledger.residenceAt? place := by
  by_cases here : place = handle
  · rw [here, returns.residence, evicts.chooses.resident]
  · rw [Ledger.residenceAt?, alone.place place here]
    exact (evicts.residence place).trans (if_neg here)

omit returns in
theorem Evicts.isClaimed_returned (number : Nat) :
    returned.focus.swap.isClaimed number =
      state.focus.swap.isClaimed number := by
  rw [alone.isClaimed, evicts.isClaimed]
  by_cases here : number = slot
  · rw [if_pos here, here, evicts.lowest.isFree]
  · rw [if_neg here, if_neg here]

omit alone in
theorem Evicts.isRestored_returned (formed : IsFormed state)
    (isPaging : state.focus.isPaging = true)
    (inFrame : ((pager returned).entryAt page).address = newFrame) :
    IsRestored state returned handle page := by
  obtain ⟨ledger, table, selects⟩ := evicts.chooses.chosen
  have aligned := formed.isAligned isPaging
  have chances := chances_of_select formed.ledger aligned selects
  obtain ⟨entry, found, isValid, atFrame⟩ := evicts.mapped
  have marks := sameButMarks_afterChances spared page entry
  have held : (pager state).entryAt page = entry :=
    PageTable.entryAt_of_get? found
  have notPagedOut : entry.isPagedOut = false := by
    rw [← held]
    exact formed.exclusive (held ▸ isValid)
  have chosen := chances.entry page
  rw [found] at chosen
  -- The page left with the flags that it was chosen with.
  have left := evicts.entry page
  rw [found, Option.map_some,
    if_pos (aligned _ _ evicts.chooses.resident)] at left
  obtain ⟨_, gone, _, _, now⟩ := returns.entry
  cases gone.symm.trans left
  have lent := PageTable.entryAt_of_get? now
  obtain ⟨bytes, length, stored, arrived⟩ := returns.bytes
  obtain ⟨_, _, wasInFrame, inSlot⟩ := evicts.stored
  cases inSlot.symm.trans stored
  refine ⟨spared, ledger, table, _, _, bytes, selects, chosen, now,
    Entry.flags_resident_pagedOut (marks.isValid.trans isValid)
      (marks.isPagedOut.trans notPagedOut) newFrame, length, ?_, ?_⟩
  · rw [marks.address, atFrame]
    exact wasInFrame
  · have atNew : ((pager returned).entryAt page).address = _ :=
      congrArg Entry.address lent
    rw [← atNew, inFrame]
    exact arrived

/-- Where no other page moves, to leave and to come back is a round trip. -/
theorem Evicts.roundTrip (formed : IsFormed state)
    (isPaging : state.focus.isPaging = true)
    (isConsistent : returned.focus.ledger.IsConsistent)
    (inFrame : ((pager returned).entryAt page).address = newFrame)
    (left : view? evicted = view? state)
    (cameBack : view? returned = view? evicted) :
    RoundTrip state evicted returned handle page := by
  have residence := evicts.residenceAt?_returned returns alone
  have recedes : state.focus.ledger.Recedes returned.focus.ledger :=
    fun place => .inl (residence place)
  exact {
    setting := evicts.setting.trans returns.setting
    resident := returns.residence
    isRestored := evicts.isRestored_returned returns formed isPaging inFrame
    residence := residence
    find? := formed.ledger.find?_of_recedes isConsistent recedes
    residentCount := formed.ledger.residentCount_congr isConsistent
      fun place _ => by rw [residence place]
    swappedCount := formed.ledger.swappedCount_congr isConsistent
      fun place _ _ => by rw [residence place]
    isClaimed := evicts.isClaimed_returned alone
    inUse := Nat.succ.inj (alone.inUse.trans evicts.inUse)
    freeCount := by
      have less := alone.freeCount
      rw [evicts.setting.pool, evicts.freeCount] at less
      exact Nat.succ.inj less
    place := alone.place
    entry := alone.entry
    logicalPage? := logicalPage?_eq_of_view? cameBack
    sameMemory := logicalPage?_eq_of_view? (cameBack.trans left)
    stats := alone.stats }

end Moves

/-- A page in swap comes back where there is a frame for it and room in memory,
if its slot can be read and the clock of the queue can advance. -/
theorem exists_pageReturn (formed : IsFormed state)
    (isPaging : state.focus.isPaging = true)
    (known : state.focus.ledger.residenceAt? handle =
      some (.swapped page slot))
    (notFull : state.focus.ledger.isResidentFull = false)
    (free : (pager state).frames.queue ≠ [])
    (near : slot * pageSize < Word.limit)
    (canLoad : (deviceOf state).CanLoad slot)
    (clock : state.focus.config.policy = .scfifo →
      state.focus.ledger.generation + 1 < Word.limit) :
    ∃ after, (pageInFrom handle slot page).run state = .done () after ∧
      ∃ back : PageReturn state handle slot page,
        Resembles back.after after := by
  have unsettled : ∀ (arrival : Arrival state slot)
      (roomy : Hosted AddressSpace) (cause : Fatal),
        Room arrival.landed slot roomy →
          settle roomy.focus.config.policy roomy.focus.ledger handle page =
            .error cause → False := by
    intro arrival roomy cause room refused
    have hasRoom := room.hasRoom (formed.landed arrival) isPaging known
    obtain ⟨tracked, place, swapped⟩ :=
      Option.map_eq_some_iff.mp hasRoom.known
    obtain ⟨policy, late, _⟩ | ⟨_, settles⟩ :=
      settle_cases roomy.focus.config.policy hasRoom.isConsistent
        hasRoom.room place (.inr ⟨slot, swapped⟩)
    · cases room with
      | vacant _ _ => exact Nat.not_le.mpr (clock policy) late
      | exchanged full | handedOver full => cases notFull.symm.trans full
    · cases settles.symm.trans refused
  have returns : ((pageInFrom handle slot page).run state).Meets
      (fun _ => False) _ _ :=
    resembles_pageInFrom formed.pool
      (claimed_of_swapped formed isPaging known)
      (fun large => Nat.not_le.mpr near large)
      (fun _ _ _ full => by cases notFull.symm.trans full) unsettled
  have completes : (pageInFrom handle slot page).Completes state :=
    completes_pageInFrom canLoad free notFull
  obtain ⟨_, after, ran, back, _⟩ := Outcome.Meets.exists_done
    ((returns.and completes).mono_failed
      fun _ _ both => both.2)
  exact ⟨after, ran, back⟩

/-- An eviction makes room in memory and frees a frame. -/
theorem Evicts.vacates (evicts : Evicts state evicted spared handle page frame
      slot)
    (ceiling : state.focus.ledger.residentCount ≤
      state.focus.ledger.maxResident) :
    evicted.focus.ledger.isResidentFull = false ∧
      (pager evicted).frames.queue ≠ [] := by
  have fewer := evicts.residentCount
  have sameCeiling := evicts.setting.maxResident
  refine ⟨beq_eq_false_iff_ne.mpr (by omega), fun isEmpty => ?_⟩
  have more := evicts.freeCount
  rw [← evicts.setting.pool, FramePool.freeCount] at more
  change (pager evicted).frames.queue.length = _ at more
  rw [isEmpty] at more
  cases more

/-- A page that an eviction took out of memory comes back at once, and no page
leaves for it, if its slot can be read and the clock of the queue can
advance. -/
theorem evict_then_pageIn_round_trips (wellFormed : WellFormed state)
    (isPaging : state.focus.isPaging = true)
    (evicts : evict.run state = .done handle evicted)
    (chosen : state.focus.ledger.residenceAt? handle =
      some (.resident (Address.pageBase address)))
    (reads : evicted.focus.swap.isMetered = true →
      evicted.host.transfers.reads ≠ some 0)
    (clock : evicted.focus.config.policy = .scfifo →
      evicted.focus.ledger.generation + 1 < Word.limit) :
    ∃ returned, (pageIn address).run evicted = .done () returned ∧
      RoundTrip state evicted returned handle (Address.pageBase address) := by
  have nearly := wellFormed.nearlyFormed isPaging
  have meets : (evict.run state).Meets (EvictionEnds state none) _ _ :=
    resembles_evictInto (.refl state) none
  rw [evicts] at meets
  obtain ⟨departure, rfl, same⟩ := meets
  have leaves := (departure.evicts wellFormed.ledger
    nearly.isAligned).of_resembles same
  have samePage : departure.page = Address.pageBase address :=
    Residence.resident.inj
      (Option.some.inj (leaves.chooses.resident.symm.trans chosen))
  rw [samePage] at leaves
  -- What the eviction leaves is well-formed and has room for the page.
  have formed := ((departure.nearlyFormed nearly).of_resembles
    same).wellFormed.isFormed
  have stillPaging := leaves.setting.isPaging.trans isPaging
  have known := (leaves.residence departure.victim.handle).trans (if_pos rfl)
  obtain ⟨notFull, free⟩ := leaves.vacates
    (wellFormed.agrees.tracks isPaging).residentCount_le
  obtain ⟨bytes, _, _, stored⟩ := leaves.stored
  obtain ⟨returned, ran, back, like⟩ := exists_pageReturn formed stillPaging
    known notFull free
    (wellFormed.isFormed.offset_lt_of_claim isPaging departure.targets)
    (SwapDevice.canLoad_of_contents? stored reads) clock
  -- There was room, so the page came back alone.
  have alone := (back.moves formed stillPaging known).resolve_right
    fun ⟨_, _, _, _, _, exchanges⟩ => by
      exact beq_eq_false_iff_ne.mp notFull exchanges.full
  have replaces := back.replaces_of_alone formed stillPaging known alone
  have inFrame := replaces.address_page formed
  have consistent := (back.regular formed stillPaging known).ledger
  have sameView := replaces.view? formed stillPaging
  have gone : view? evicted = view? state := by
    rw [view?, same.pager]
    exact departure.view? nearly
  refine ⟨returned, (run_pageIn_of_swapped formed stillPaging known).trans ran,
    leaves.roundTrip
      ((back.returns formed stillPaging known).of_resembles like)
      (alone.of_resembles like) wellFormed.isFormed isPaging ?_ ?_ gone ?_⟩
  · rwa [like.focus]
  · rwa [like.pager]
  · rw [view?, like.pager]
    exact sameView

/-- The handle that an eviction gives is that of a page in memory. -/
theorem exists_page_of_evict (wellFormed : WellFormed state)
    (isPaging : state.focus.isPaging = true)
    (evicts : evict.run state = .done handle evicted) :
    ∃ page, Address.pageBase page = page ∧
      state.focus.ledger.residenceAt? handle = some (.resident page) := by
  have aligned := wellFormed.isFormed.isAligned isPaging
  have meets : (evict.run state).Meets (EvictionEnds state none) _ _ :=
    resembles_evictInto (.refl state) none
  rw [evicts] at meets
  obtain ⟨departure, rfl, _⟩ := meets
  have known := departure.handle_known wellFormed.ledger aligned
  exact ⟨_, aligned _ _ known, known⟩

theorem evict_then_pageIn_round_trips_of_first_page :
    ∃ (state evicted returned : Hosted AddressSpace) (handle page : Nat),
      WellFormed state ∧ state.focus.isPaging = true ∧
        evict.run state = .done handle evicted ∧
        state.focus.ledger.residenceAt? handle =
          some (.resident (Address.pageBase page)) ∧
        (pageIn page).run evicted = .done () returned ∧
          RoundTrip state evicted returned handle (Address.pageBase page) := by
  obtain ⟨_, touched, first⟩ := exists_firstTouched
  have wellFormed := first.isTidy.wellFormed
  have admissible : Request.evict.Admissible touched :=
    ⟨first.residentCount ▸ Nat.one_pos, first.freeSlots⟩
  obtain ⟨evicted, ⟨_, evicts⟩, tidied⟩ := first.isTidy.exists_does admissible
    first.aging (Action.meets_map (completes_evict first.isReliable))
  have left := evicted_evict first.isTidy.toIsCoherent
  rw [Request.action, Action.run_map] at evicts
  cases ran : evict.run touched with
  | failed _ _ => rw [ran] at evicts; cases evicts
  | fatal _ => rw [ran] at evicts; cases evicts
  | done handle after =>
      rw [ran] at evicts left
      cases evicts
      obtain ⟨page, aligned, known⟩ :=
        exists_page_of_evict wellFormed first.isPaging ran
      rw [← aligned] at known
      have config : evicted.focus.config = touched.focus.config :=
        tidied.changes.parts.shape.config
      have unmetered := (left.isReliable first.isReliable).unmetered
      obtain ⟨returned, returns, roundTrip⟩ := evict_then_pageIn_round_trips
        wellFormed first.isPaging ran known
        (fun isMetered => by cases unmetered.symm.trans isMetered)
        (fun policy => by
          have aging := first.aging
          rw [← config, policy] at aging
          cases aging)
      exact ⟨touched, evicted, returned, handle, page, wellFormed,
        first.isPaging, ran, known, returns, roundTrip⟩

end AddressSpace

end DemandPaging
