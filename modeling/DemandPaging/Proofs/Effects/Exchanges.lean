import DemandPaging.Proofs.Effects.Returns

/-!
# What a page that came back shows

The page that comes back shows at its place, in its entry and in its frame.
The slots show which one was given up and which one was claimed, if another page
left (`Relocates`).  A page-in that failed shows nowhere but in the second
chances that were given on the way.
-/

namespace DemandPaging

namespace AddressSpace

variable {state before middle after roomy : Hosted AddressSpace}
  {handle slot page frame : Nat} {spare : Option Nat}

theorem SameSetting.trans (first : SameSetting before middle)
    (second : SameSetting middle after) : SameSetting before after where
  pool := second.pool.trans first.pool
  config := second.config.trans first.config
  isPaging := second.isPaging.trans first.isPaging
  maxResident := second.maxResident.trans first.maxResident
  capacity := second.capacity.trans first.capacity
  slots := second.slots.trans first.slots
  elsewhere number other := by
    rw [second.elsewhere number (first.pool.symm ▸ other),
      first.elsewhere number other]

theorem setting_withFrames (state : Hosted AddressSpace)
    (frames : FramePool) : SameSetting state (withFrames state frames) := by
  refine ⟨rfl, rfl, rfl, rfl, rfl, rfl, fun number other => ?_⟩
  exact (Host.pool_setPool _ _ _ _).trans
    (if_neg fun both => other both.1.symm)

/-- The slots once the slot `slot` was given up and the slot `target` was
claimed.  They are the same only if no other was free. -/
structure Relocates (before after : SwapSpace) (slot target : Nat) :
    Prop where
  handedOver : target = slot ↔ before.freeSlots = 0
  lowest : before.freeSlots ≠ 0 → IsLowestFree before target
  isClaimed : ∀ number, after.isClaimed number =
    if number = target then true
    else if number = slot then false
    else before.isClaimed number
  inUse : after.inUse = before.inUse
  capacity : after.capacity = before.capacity

theorem relocates_of_handedOver (departure : Departure state (some slot))
    (claimed : state.focus.swap.isClaimed slot = true)
    (noSlot : state.focus.swap.freeSlots = 0) :
    Relocates state.focus.swap departure.after.focus.swap slot
      departure.slot := by
  obtain ⟨same, sameSlots⟩ := departure.targets
  have claims : ∀ number, departure.after.focus.swap.isClaimed number =
      state.focus.swap.isClaimed number := fun number => by
    change departure.target.isClaimed number = _
    rw [sameSlots]
  refine ⟨iff_of_true same noSlot, fun hasSlot => absurd noSlot hasSlot,
    fun number => ?_, ?_, ?_⟩
  · rw [claims, same]
    by_cases here : number = slot
    · rw [if_pos here, here, claimed]
    · rw [if_neg here, if_neg here]
  · change departure.target.inUse = _
    rw [sameSlots]
  · change departure.target.capacity = _
    rw [sameSlots]

theorem relocates_of_exchanged {swap : SwapSpace}
    (departure : Departure state none)
    (consistent : state.focus.swap.IsConsistent)
    (claimed : state.focus.swap.isClaimed slot = true)
    (hasSlot : state.focus.swap.freeSlots ≠ 0)
    (released : departure.after.focus.swap.release slot = .ok swap) :
    Relocates state.focus.swap swap slot departure.slot ∧
      swap.file = departure.file := by
  have lowest := isLowestFree_of_claim departure.targets
  obtain ⟨isFree, _, taken⟩ :=
    SwapSpace.claim_eq_some_iff.mp departure.targets
  have different : departure.slot ≠ slot := by
    intro same
    cases claimed.symm.trans (same ▸ lowest.isFree)
  have stillConsistent : departure.after.focus.swap.IsConsistent := by
    change departure.target.inUse = departure.target.used.count true
    rw [taken]
    exact consistent.take isFree
  obtain ⟨given, success, _, capacity, file, count, shown⟩ :=
    SwapSpace.release_of_isClaimed stillConsistent
      (departure.isClaimed_after claimed)
  cases success.symm.trans released
  refine ⟨⟨iff_of_false different hasSlot, fun _ => lowest,
    fun number => ?_, ?_, ?_⟩, file⟩
  · rw [shown]
    change (if _ then _ else departure.target.isClaimed number) = _
    rw [taken, SwapSpace.isClaimed_take_of_free isFree]
    by_cases here : number = departure.slot
    · rw [if_pos here, if_neg (here ▸ different), if_pos here]
    · rw [if_neg here, if_neg here]
  · change _ = departure.target.inUse at count
    rw [taken] at count
    exact Nat.succ.inj count
  · rw [capacity]
    change departure.target.capacity = _
    rw [taken, SwapSpace.capacity_take]

theorem setting_room (room : Room state slot roomy)
    (formed : IsFormed state)
    (isPaging : state.focus.isPaging = true) : SameSetting state roomy := by
  have consistent := formed.ledger
  have aligned := formed.isAligned isPaging
  have givenUp : ∀ {before after : SwapSpace},
      before.release slot = .ok after → after.capacity = before.capacity := by
    intro before after released
    obtain ⟨_, rfl⟩ := SwapSpace.release_eq_ok_iff.mp released
    exact Array.size_setIfInBounds
  cases room with
  | vacant _ released =>
      exact ⟨rfl, rfl, rfl, rfl, rfl, givenUp released, fun _ _ => rfl⟩
  | exchanged _ _ departure released =>
      have setting := departure.setting_after consistent aligned
      exact { setting with
        slots := (givenUp released).trans setting.slots }
  | handedOver _ _ departure =>
      exact departure.setting_after consistent aligned

section Entries

variable (formed : IsFormed state)
  (isPaging : state.focus.isPaging = true)
  (known : state.focus.ledger.residenceAt? handle = some (.swapped page slot))

include formed isPaging known

theorem entry_of_swapped : Address.pageBase page = page ∧
    ∃ entry, state.focus.table.get? page = some entry ∧
      entry.isValid = false ∧ entry.isPagedOut = true := by
  obtain ⟨_, place, swapped⟩ := Option.map_eq_some_iff.mp known
  obtain ⟨aligned, notValid, isPagedOut⟩ := formed.tracked isPaging
    (formed.ledger.residenceOf?_of_swapped place swapped)
  exact ⟨aligned, _, PageTable.get?_of_isPresent
    (Bool.or_eq_true_iff.mpr (.inr isPagedOut)), notValid, isPagedOut⟩

theorem claimed_of_swapped : state.focus.swap.isClaimed slot = true := by
  obtain ⟨tracked, place, swapped⟩ := Option.map_eq_some_iff.mp known
  exact ((formed.agrees.tracks isPaging).isClaimed_iff slot).mpr
    ⟨page, handle, tracked, place, swapped⟩

theorem Departure.get?_swapped (departure : Departure state spare) :
    departure.after.focus.table.get? page =
      state.focus.table.get? page := by
  have consistent := formed.ledger
  have aligned := formed.isAligned isPaging
  have chances := chances_of_select consistent aligned departure.selects
  obtain ⟨boundary, _⟩ := entry_of_swapped formed isPaging known
  -- A page that has a place in memory is not this one.
  have notResident : ∀ place, state.focus.ledger.residenceAt? place ≠
      some (.resident page) := by
    intro place resident
    obtain ⟨_, held, swapped⟩ := Option.map_eq_some_iff.mp known
    have inSwap := consistent.residenceOf?_of_swapped held swapped
    cases inSwap.symm.trans (residenceOf?_of_residenceAt? consistent resident)
  have otherPage : page ≠ departure.page := by
    rintro same
    exact notResident _
      (same ▸ departure.handle_known consistent aligned)
  have unspared : page ∉ departure.victim.spared := by
    intro member
    obtain ⟨place, resident⟩ := chances.resident page member
    exact notResident place resident
  have unchanged : (fun entry : Entry =>
      if Address.pageBase page = departure.page then
        Entry.pagedOut
          (afterChances departure.victim.spared page entry).flags
      else afterChances departure.victim.spared page entry) = id := by
    funext entry
    rw [boundary, if_neg otherPage, afterChances, boundary, if_neg unspared]
    rfl
  rw [departure.get?_after consistent aligned, unchanged, Option.map_id]
  rfl

end Entries

/-- The page that leaves had its frame before the other one was taken. -/
theorem Departure.address_ne {arrival : Arrival state slot}
    (departure : Departure arrival.landed spare)
    (formed : IsFormed state)
    (isPaging : state.focus.isPaging = true) :
    departure.entry.address ≠ arrival.frame := by
  have landed := formed.landed arrival
  obtain ⟨fresh, _⟩ := frameBytes?_landed formed arrival
  obtain ⟨entry, found, _, marks⟩ :=
    departure.entry_before landed.ledger (landed.isAligned isPaging)
  have here : (pager state).entryAt departure.page = entry :=
    PageTable.entryAt_of_get? found
  have isValid : ((pager state).entryAt departure.page).isValid = true := by
    rw [here, ← marks.isValid]
    exact departure.canLeave.isValid
  obtain ⟨contents, lent⟩ :=
    formed.isCopyable.framed departure.page isValid
  have held : frameBytes? state departure.entry.address =
      some contents.toList := by
    rw [here, ← marks.address] at lent
    rw [frameBytes?_eq]
    exact congrArg (Option.map Vector.toList) lent
  intro same
  cases (same ▸ held).symm.trans fresh

/-- The frame that was taken holds the bytes of the slot. -/
theorem PageReturn.frameBytes?_frame
    (back : PageReturn state handle slot page)
    (formed : IsFormed state)
    (isPaging : state.focus.isPaging = true) :
    frameBytes? back.after back.frame = some back.bytes := by
  obtain ⟨_, held, _⟩ := frameBytes?_landed formed back.toArrival
  have leaves : ∀ {spare : Option Nat}
      (departure : Departure back.landed spare),
        frameBytes? departure.after back.frame =
          frameBytes? back.landed back.frame := by
    intro spare departure
    rw [departure.frameBytes?_after, if_neg
      (departure.address_ne formed isPaging).symm]
  have stays : frameBytes? back.roomy back.frame =
      frameBytes? back.landed back.frame := by
    have room := back.room
    generalize back.roomy = roomy at room ⊢
    cases room with
    | vacant _ _ => rfl
    | exchanged _ _ departure _ => exact leaves departure
    | handedOver _ _ departure => exact leaves departure
  exact stays.trans held

namespace PageReturn

variable (back : PageReturn state handle slot page)
  (formed : IsFormed state)
  (isPaging : state.focus.isPaging = true)
  (known : state.focus.ledger.residenceAt? handle = some (.swapped page slot))

include formed isPaging known

theorem settled : ∃ old,
    Settled back.roomy.focus.ledger handle page old back.ledger :=
  settled_of_settle (back.room.hasRoom (formed.landed back.toArrival)
    isPaging known).isConsistent back.settles

theorem setting : SameSetting state back.after := by
  obtain ⟨_, settled⟩ := back.settled formed isPaging known
  have landed := setting_withFrames state back.frames
  have made := setting_room back.room (formed.landed back.toArrival)
    isPaging
  have settling : SameSetting back.roomy back.after :=
    ⟨rfl, rfl, rfl, settled.maxResident, settled.capacity, rfl,
      fun _ _ => rfl⟩
  exact landed.trans (made.trans settling)

theorem residenceAt?_after (other : Nat) :
    back.after.focus.ledger.residenceAt? other =
      if other = handle then some (.resident page)
      else back.roomy.focus.ledger.residenceAt? other := by
  obtain ⟨_, settled⟩ := back.settled formed isPaging known
  exact settled.residence other

theorem find?_after : back.after.focus.ledger.find? page = some handle := by
  obtain ⟨_, settled⟩ := back.settled formed isPaging known
  have here := (settled.residence handle).trans (if_pos rfl)
  obtain ⟨tracked, place, resident⟩ := Option.map_eq_some_iff.mp here
  refine (settled.isConsistent.find?_eq_some_iff page handle).mpr
    ⟨tracked, place, ?_, ?_⟩
  · rw [Tracked.isFree, resident]
    rfl
  · rw [Tracked.address, resident]
    rfl

theorem get?_page : ∃ entry, state.focus.table.get? page = some entry ∧
    entry.isValid = false ∧ entry.isPagedOut = true ∧
      back.after.focus.table.get? page =
        some (Entry.resident back.frame entry.flags) := by
  obtain ⟨_, entry, found, notValid, isPagedOut⟩ :=
    entry_of_swapped formed isPaging known
  have landed := formed.landed back.toArrival
  have stays : back.roomy.focus.table.get? page =
      state.focus.table.get? page := by
    have room := back.room
    generalize back.roomy = roomy at room ⊢
    cases room with
    | vacant _ _ => rfl
    | exchanged _ _ departure _ =>
        exact departure.get?_swapped landed isPaging known
    | handedOver _ _ departure =>
        exact departure.get?_swapped landed isPaging known
  refine ⟨entry, found, notValid, isPagedOut, ?_⟩
  change (back.roomy.focus.table.update page _).get? page = _
  rw [PageTable.get?_update, if_pos rfl, stays, found]
  rfl

theorem get?_elsewhere {address : Nat}
    (elsewhere : Address.pageBase address ≠ page) :
    back.after.focus.table.get? address =
      back.roomy.focus.table.get? address := by
  obtain ⟨boundary, _⟩ := entry_of_swapped formed isPaging known
  refine (PageTable.get?_update _ _ _ _).trans (if_neg fun same => ?_)
  exact elsewhere ((PageTable.pageNumber_eq_iff.mp same).trans boundary)

theorem returns : Returns state back.after handle page slot back.frame where
  setting := back.setting formed isPaging known
  known := known
  residence := (back.residenceAt?_after formed isPaging known handle).trans
    (if_pos rfl)
  find? := back.find?_after formed isPaging known
  lends := ⟨back.borrowed, back.takes⟩
  fresh := (frameBytes?_landed formed back.toArrival).1
  bytes := ⟨back.bytes, back.length_bytes, back.holds,
    back.frameBytes?_frame formed isPaging⟩
  entry := back.get?_page formed isPaging known

/-- Where there was room no other page moves. -/
theorem returnsAlone {arrival : Arrival state slot} {swap : SwapSpace}
    {ledger : Ledger}
    (notFull : state.focus.ledger.isResidentFull = false)
    (released : state.focus.swap.release slot = .ok swap)
    (settles : settle state.focus.config.policy state.focus.ledger handle
      page = .ok ledger) :
    ReturnsAlone state
      (PageReturn.after ⟨arrival, _, .vacant notFull released, ledger, settles⟩)
        handle page slot arrival.frame := by
  let back : PageReturn state handle slot page :=
    ⟨arrival, _, .vacant notFull released, ledger, settles⟩
  obtain ⟨_, settled⟩ := back.settled formed isPaging known
  obtain ⟨given, success, _, _, file, count, shown⟩ :=
    SwapSpace.release_of_isClaimed formed.swap
      (claimed_of_swapped formed isPaging known)
  cases success.symm.trans released
  obtain ⟨_, _, stays⟩ := frameBytes?_landed formed arrival
  exact {
    room := settled.room
    place := settled.places
    entry := fun _ => back.get?_elsewhere formed isPaging known
    isClaimed := shown
    inUse := count
    slotBytes? := fun other => by
      change swap.contents? other = state.focus.swap.contents? other
      rw [SwapSpace.contents?, file, SwapSpace.contents?]
    frameBytes? := stays
    freeCount := by
      change (arrival.landed.host.pool state.focus.pool).freeCount + 1 = _
      rw [arrival.pool_landed]
      exact arrival.freeCount_frames
    stats := rfl }

/-- Where memory was full another page left. -/
theorem exchanges {arrival : Arrival state slot} {swap : SwapSpace}
    {ledger : Ledger} (departure : Departure arrival.landed spare)
    (full : state.focus.ledger.isResidentFull = true)
    (relocates : Relocates state.focus.swap swap slot departure.slot)
    (file : swap.file = departure.file)
    (room : Room arrival.landed slot
      (withSpace departure.after fun space => { space with swap }))
    (settles : settle state.focus.config.policy departure.after.focus.ledger
      handle page = .ok ledger) :
    Exchanges state (PageReturn.after ⟨arrival, _, room, ledger, settles⟩)
      handle page slot arrival.frame departure.victim.spared
      departure.victim.handle departure.page departure.entry.address
      departure.slot := by
  let back : PageReturn state handle slot page :=
    ⟨arrival, _, room, ledger, settles⟩
  have landed := formed.landed arrival
  have consistent := landed.ledger
  have aligned := landed.isAligned isPaging
  have chooses := departure.toCandidate.chooses consistent aligned
  obtain ⟨entry, found, _, same⟩ := departure.entry_before consistent aligned
  obtain ⟨_, _, stays⟩ := frameBytes?_landed formed arrival
  have slots : ∀ number, back.after.focus.slotBytes? number =
      departure.after.focus.slotBytes? number := fun number => by
    change swap.contents? number = _
    rw [SwapSpace.contents?, file]
    rfl
  exact {
    full := beq_iff_eq.mp full
    chooses := { chooses with }
    different := (departure.handle_ne consistent aligned known).symm
    handedOver := relocates.handedOver
    lowest := relocates.lowest
    residence := fun place elsewhere => by
      rw [back.residenceAt?_after formed isPaging known, if_neg elsewhere]
      exact departure.residenceAt?_after consistent aligned place
    mapped := ⟨entry, found,
      same.isValid.symm.trans departure.canLeave.isValid, same.address.symm⟩
    entry := fun address elsewhere => by
      rw [back.get?_elsewhere formed isPaging known elsewhere]
      exact departure.get?_after consistent aligned address
    isClaimed := relocates.isClaimed
    inUse := relocates.inUse
    stored := ⟨departure.contents.toList, Vector.length_toList ..,
      (stays _ (departure.address_ne formed isPaging)).symm.trans
        departure.frameBytes?_page,
      (slots _).trans ((departure.slotBytes?_after _).trans (if_pos rfl))⟩
    slotBytes? := fun number elsewhere => by
      rw [slots, departure.slotBytes?_after, if_neg elsewhere]
      rfl
    frameBytes? := fun number elsewhere => by
      refine (departure.frameBytes?_after number).trans ?_
      rw [stays number elsewhere]
    freeCount := by
      refine departure.freeCount_after.trans ?_
      change (arrival.landed.host.pool state.focus.pool).freeCount + 1 = _
      rw [arrival.pool_landed]
      exact arrival.freeCount_frames
    stats := rfl }

/-- Beside the page that comes back no page moves, or one other. -/
theorem moves :
    ReturnsAlone state back.after handle page slot back.frame ∨
      ∃ spared other otherPage otherFrame target,
        Exchanges state back.after handle page slot back.frame spared other
          otherPage otherFrame target := by
  have claimed := claimed_of_swapped formed isPaging known
  obtain ⟨arrival, roomy, room, ledger, settles⟩ := back
  have landed := formed.landed arrival
  cases room with
  | vacant notFull released =>
      exact .inl (returnsAlone formed isPaging known notFull released
        settles)
  | exchanged full hasSlot departure released =>
      obtain ⟨relocates, file⟩ := relocates_of_exchanged departure
        landed.swap claimed hasSlot released
      exact .inr ⟨_, _, _, _, _, exchanges formed isPaging known departure
        full relocates file (.exchanged full hasSlot departure released)
        settles⟩
  | handedOver full noSlot departure =>
      exact .inr ⟨_, _, _, _, _, exchanges formed isPaging known departure
        full (relocates_of_handedOver departure claimed noSlot) rfl
        (.handedOver full noSlot departure) settles⟩

end PageReturn

/-- A pool that took back the frame that it lent lends what it lent before. -/
theorem contents?_of_returned {pool borrowed frames : FramePool}
    (fresh : pool.contents? frame = none)
    (shown : ∀ number, number ≠ frame →
      borrowed.contents? number = pool.contents? number)
    (released : borrowed.release frame = .ok frames) (number : Nat) :
    frames.contents? number = pool.contents? number := by
  rw [FramePool.contents?_of_release released]
  by_cases here : number = frame
  · rw [if_pos here, here, fresh]
  · rw [if_neg here, shown number here]

theorem frameBytes?_withFrames {frames : FramePool} (served : IsServed state)
    (same : ∀ number, frames.contents? number =
      (state.host.pool state.focus.pool).contents? number) (number : Nat) :
    frameBytes? (withFrames state frames) number =
      frameBytes? state number := by
  rw [frameBytes?_eq, frameBytes?_eq]
  change (((withFrames state frames).host.pool
    state.focus.pool).contents? number).map _ = _
  rw [pool_withFrames served, same]

/-- A page that could not be read leaves no trace. -/
theorem undoes_of_unread (formed : IsFormed state)
    {borrowed frames : FramePool}
    (takes : (state.host.pool state.focus.pool).allocate =
      (some frame, borrowed))
    (released : borrowed.release frame = .ok frames) :
    Undoes state (withSpace (withFrames state frames) fun space => { space with
      stats := { space.stats with
        swapErrors := space.stats.swapErrors + 1 } }) [] := by
  have served := isServed_of_allocate takes
  obtain ⟨fresh, shown⟩ := FramePool.contents?_allocate formed.pool takes
  have same := contents?_of_returned fresh
    (fun number elsewhere => (shown number).trans (if_neg elsewhere)) released
  refine ⟨{ setting_withFrames state frames with }, fun _ => rfl,
    .nil formed.ledger _, rfl, frameBytes?_withFrames served same, ?_, rfl⟩
  change ((withFrames state frames).host.pool
    state.focus.pool).freeCount = _
  rw [pool_withFrames served, FramePool.freeCount_of_release released]
  exact FramePool.freeCount_of_allocate takes

/-- If the page that was to make room could not be written, nothing but second
chances shows. -/
theorem undoes_of_refused (formed : IsFormed state)
    (isPaging : state.focus.isPaging = true) {frames : FramePool}
    (arrival : Arrival state slot)
    (candidate : Candidate arrival.landed spare)
    (released : arrival.frames.release arrival.frame = .ok frames) :
    Undoes state (withFrames candidate.refused frames)
      candidate.victim.spared := by
  have chances := chances_of_select formed.ledger (formed.isAligned isPaging)
    candidate.selects
  obtain ⟨fresh, _, shown⟩ := arrival.contents?_frames formed.pool
  have same := contents?_of_returned fresh shown released
  have sameHost : (withFrames candidate.refused frames).host =
      (withFrames state frames).host := by
    have twice := congrArg Hosted.host
      (withFrames_withFrames state arrival.frames frames)
    exact twice
  refine ⟨⟨rfl, rfl, rfl, chances.ranks.maxResident, chances.ranks.capacity,
    rfl, ?_⟩, spared_eq_nil_of_select candidate.selects, chances, rfl, ?_, ?_,
    rfl⟩
  · intro number other
    rw [sameHost]
    exact (setting_withFrames state frames).elsewhere number other
  · intro number
    have shows := frameBytes?_withFrames arrival.isServed same number
    rw [frameBytes?] at shows ⊢
    rw [sameHost]
    exact shows
  · rw [sameHost, pool_withFrames arrival.isServed,
      FramePool.freeCount_of_release released]
    exact arrival.freeCount_frames

theorem undoes_of_unreturned {left : Hosted AddressSpace}
    (formed : IsFormed state) (isPaging : state.focus.isPaging = true)
    (unreturned : Unreturned state slot left) :
    ∃ spared, Undoes state left spared := by
  cases unreturned with
  | unread takes released => exact ⟨[], undoes_of_unread formed takes released⟩
  | refused arrival candidate released =>
      exact ⟨_, undoes_of_refused formed isPaging arrival candidate released⟩

theorem Returns.of_resembles
    (returns : Returns state before handle page slot frame)
    (same : Resembles before after) :
    Returns state after handle page slot frame := by
  obtain ⟨focus, host⟩ := after
  obtain ⟨pools, transfers, events⟩ := host
  obtain rfl : focus = before.focus := same.focus
  obtain rfl : pools = before.host.pools := same.pools
  exact { returns with setting := { returns.setting with } }

theorem ReturnsAlone.of_resembles
    (alone : ReturnsAlone state before handle page slot frame)
    (same : Resembles before after) :
    ReturnsAlone state after handle page slot frame := by
  obtain ⟨focus, host⟩ := after
  obtain ⟨pools, transfers, events⟩ := host
  obtain rfl : focus = before.focus := same.focus
  obtain rfl : pools = before.host.pools := same.pools
  exact { alone with }

theorem Exchanges.of_resembles {spared : List Nat}
    {other otherPage otherFrame target : Nat}
    (exchanges : Exchanges state before handle page slot frame spared other
      otherPage otherFrame target)
    (same : Resembles before after) :
    Exchanges state after handle page slot frame spared other otherPage
      otherFrame target := by
  obtain ⟨focus, host⟩ := after
  obtain ⟨pools, transfers, events⟩ := host
  obtain rfl : focus = before.focus := same.focus
  obtain rfl : pools = before.host.pools := same.pools
  exact { exchanges with }

theorem Undoes.of_resembles {spared : List Nat}
    (undoes : Undoes state before spared) (same : Resembles before after) :
    Undoes state after spared := by
  obtain ⟨focus, host⟩ := after
  obtain ⟨pools, transfers, events⟩ := host
  obtain rfl : focus = before.focus := same.focus
  obtain rfl : pools = before.host.pools := same.pools
  exact { undoes with setting := { undoes.setting with } }

end AddressSpace

end DemandPaging
