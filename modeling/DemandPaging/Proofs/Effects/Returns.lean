import DemandPaging.Proofs.Effects.Evicted
import DemandPaging.Proofs.Effects.PageIn

/-!
# What a page-in does

A page that is in swap comes back to its place, in a new frame with the bytes
of its slot.  Either there was room and no other page moves (`ReturnsAlone`), or
exactly one other page leaves, to the slot that is given up if there is no
other (`Exchanges`).  If a transfer fails every page stays where it is
(`Undoes`).
-/

namespace DemandPaging

namespace AddressSpace

variable {state before after roomy : Hosted AddressSpace}
  {spared : List Nat}
  {handle slot page frame other otherPage otherFrame target : Nat}

/-- The page at `page` came back from the slot `slot` to its place `handle`, in
the frame `frame`. -/
structure Returns (before after : Hosted AddressSpace)
    (handle page slot frame : Nat) : Prop where
  setting : SameSetting before after
  known : before.focus.ledger.residenceAt? handle = some (.swapped page slot)
  residence : after.focus.ledger.residenceAt? handle = some (.resident page)
  find? : after.focus.ledger.find? page = some handle
  lends : ∃ frames, (before.host.pool before.focus.pool).allocate =
    (some frame, frames)
  fresh : frameBytes? before frame = none
  bytes : ∃ bytes, bytes.length = pageSize ∧
    before.focus.slotBytes? slot = some bytes ∧
      frameBytes? after frame = some bytes
  entry : ∃ entry, before.focus.table.get? page = some entry ∧
    entry.isValid = false ∧ entry.isPagedOut = true ∧
      after.focus.table.get? page = some (Entry.resident frame entry.flags)

/-- There was room for the page, and no other page moved. -/
structure ReturnsAlone (before after : Hosted AddressSpace)
    (handle page slot frame : Nat) : Prop where
  room : before.focus.ledger.residentCount < before.focus.ledger.maxResident
  place : ∀ other, other ≠ handle →
    after.focus.ledger.places[other]? = before.focus.ledger.places[other]?
  entry : ∀ address, Address.pageBase address ≠ page →
    after.focus.table.get? address = before.focus.table.get? address
  isClaimed : ∀ other, after.focus.swap.isClaimed other =
    if other = slot then false else before.focus.swap.isClaimed other
  inUse : after.focus.swap.inUse + 1 = before.focus.swap.inUse
  slotBytes? : ∀ other,
    after.focus.slotBytes? other = before.focus.slotBytes? other
  frameBytes? : ∀ other, other ≠ frame →
    frameBytes? after other = AddressSpace.frameBytes? before other
  freeCount : (after.host.pool before.focus.pool).freeCount + 1 =
    (before.host.pool before.focus.pool).freeCount
  stats : after.focus.stats = { before.focus.stats with
    pageIns := before.focus.stats.pageIns + 1 }

/-- Memory was full, and the page at `otherPage`, at the place `other`, left
the frame `otherFrame` for the slot `target`, after the pages `spared` had a
second chance.  No further page moved. -/
structure Exchanges (before after : Hosted AddressSpace)
    (handle page slot frame : Nat) (spared : List Nat)
    (other otherPage otherFrame target : Nat) : Prop where
  full : before.focus.ledger.residentCount = before.focus.ledger.maxResident
  chooses : Chooses before spared other otherPage
  different : other ≠ handle
  handedOver : target = slot ↔ before.focus.swap.freeSlots = 0
  lowest : before.focus.swap.freeSlots ≠ 0 →
    IsLowestFree before.focus.swap target
  residence : ∀ place, place ≠ handle →
    after.focus.ledger.residenceAt? place =
      if place = other then some (.swapped otherPage target)
      else before.focus.ledger.residenceAt? place
  mapped : ∃ entry, before.focus.table.get? otherPage = some entry ∧
    entry.isValid = true ∧ entry.address = otherFrame
  entry : ∀ address, Address.pageBase address ≠ page →
    after.focus.table.get? address =
      (before.focus.table.get? address).map fun entry =>
        if Address.pageBase address = otherPage then
          Entry.pagedOut (afterChances spared address entry).flags
        else afterChances spared address entry
  isClaimed : ∀ number, after.focus.swap.isClaimed number =
    if number = target then true
    else if number = slot then false
    else before.focus.swap.isClaimed number
  inUse : after.focus.swap.inUse = before.focus.swap.inUse
  stored : ∃ bytes, bytes.length = pageSize ∧
    frameBytes? before otherFrame = some bytes ∧
      after.focus.slotBytes? target = some bytes
  slotBytes? : ∀ number, number ≠ target →
    after.focus.slotBytes? number = before.focus.slotBytes? number
  frameBytes? : ∀ number, number ≠ frame →
    AddressSpace.frameBytes? after number =
      if number = otherFrame then none
      else AddressSpace.frameBytes? before number
  freeCount : (after.host.pool before.focus.pool).freeCount =
    (before.host.pool before.focus.pool).freeCount
  stats : after.focus.stats = { before.focus.stats with
    secondChances := before.focus.stats.secondChances + spared.length
    evictions := before.focus.stats.evictions + 1
    pageIns := before.focus.stats.pageIns + 1 }

/-- A transfer failed.  The pages `spared` have had their second chance, the
failure is counted, and that is all that happened. -/
structure Undoes (before after : Hosted AddressSpace) (spared : List Nat) :
    Prop where
  setting : SameSetting before after
  spares : before.focus.config.policy ≠ .scfifo → spared = []
  chances : Chances spared before.focus.ledger before.focus.table
    after.focus.ledger after.focus.table
  swap : after.focus.swap = before.focus.swap
  frameBytes? : ∀ number,
    frameBytes? after number = AddressSpace.frameBytes? before number
  freeCount : (after.host.pool before.focus.pool).freeCount =
    (before.host.pool before.focus.pool).freeCount
  stats : after.focus.stats = { before.focus.stats with
    secondChances := before.focus.stats.secondChances + spared.length
    swapErrors := before.focus.stats.swapErrors + 1 }

section Landing

variable (formed : IsFormed state) (arrival : Arrival state slot)

include formed

theorem IsFormed.landed : IsFormed arrival.landed := by
  have consistent := formed.pool.allocate arrival.takes
  obtain ⟨fresh, _, shown⟩ := arrival.contents?_frames formed.pool
  refine formed.withFrames ⟨?_, consistent.write arrival.writes,
    fun address isValid => shown _ fun same => ?_⟩
  · exact (FramePool.total_of_write arrival.writes).trans
      (FramePool.total_of_allocate arrival.takes)
  · obtain ⟨contents, lent⟩ := formed.isCopyable.framed address isValid
    have held : (state.host.pool state.focus.pool).contents? arrival.frame =
        some contents := same ▸ lent
    cases fresh.symm.trans held

theorem frameBytes?_landed :
    frameBytes? state arrival.frame = none ∧
      frameBytes? arrival.landed arrival.frame = some arrival.bytes ∧
        ∀ other, other ≠ arrival.frame →
          frameBytes? arrival.landed other = frameBytes? state other := by
  obtain ⟨fresh, ⟨contents, same, held⟩, shown⟩ :=
    arrival.contents?_frames formed.pool
  have holder : ∀ number, frameBytes? arrival.landed number =
      (arrival.frames.contents? number).map Vector.toList := by
    intro number
    rw [frameBytes?_eq]
    change ((arrival.landed.host.pool state.focus.pool).contents? _).map _ = _
    rw [arrival.pool_landed]
  refine ⟨?_, ?_, fun other different => ?_⟩
  · rw [frameBytes?_eq, fresh]
    rfl
  · rw [holder, held, ← same]
    rfl
  · rw [holder, shown other different, frameBytes?_eq]

end Landing

/-- There is room for the page at `page`, which is still in its slot. -/
structure HasRoom (state : Hosted AddressSpace) (handle page slot : Nat)
    (roomy : Hosted AddressSpace) : Prop where
  config : roomy.focus.config = state.focus.config
  isConsistent : roomy.focus.ledger.IsConsistent
  known : roomy.focus.ledger.residenceAt? handle = some (.swapped page slot)
  room : roomy.focus.ledger.residentCount < roomy.focus.ledger.maxResident
  generation_le : roomy.focus.ledger.generation ≤
    state.focus.ledger.generation + state.focus.ledger.residentCount

theorem Departure.isConsistent_after {spare : Option Nat}
    (departure : Departure state spare)
    (consistent : state.focus.ledger.IsConsistent)
    (aligned : state.focus.ledger.IsAligned) :
    departure.after.focus.ledger.IsConsistent := by
  have chances := chances_of_select consistent aligned departure.selects
  have known := chances.ranks.isConsistent
  exact (Ledger.puts_swapped known departure.place rfl).isConsistent known

/-- The page that leaves is not the one that comes back. -/
theorem Departure.handle_ne {spare : Option Nat}
    (departure : Departure state spare)
    (consistent : state.focus.ledger.IsConsistent)
    (aligned : state.focus.ledger.IsAligned)
    (known : state.focus.ledger.residenceAt? handle =
      some (.swapped page slot)) : handle ≠ departure.victim.handle := by
  rintro rfl
  cases known.symm.trans (departure.handle_known consistent aligned)

theorem Departure.hasRoom {spare : Option Nat}
    (departure : Departure state spare) (formed : IsFormed state)
    (isPaging : state.focus.isPaging = true)
    (known : state.focus.ledger.residenceAt? handle =
      some (.swapped page slot)) :
    HasRoom state handle page slot departure.after := by
  have consistent := formed.ledger
  have aligned := formed.isAligned isPaging
  have chances := chances_of_select consistent aligned departure.selects
  have setting := departure.setting_after consistent aligned
  have ceiling := (formed.agrees.tracks isPaging).residentCount_le
  have count := departure.residentCount_after consistent aligned
  refine ⟨rfl, departure.isConsistent_after consistent aligned, ?_, ?_, ?_⟩
  · rw [departure.residenceAt?_after consistent aligned,
      if_neg (departure.handle_ne consistent aligned known), known]
  · rw [setting.maxResident]
    omega
  · change departure.ledger.generation ≤ _
    rw [chances.generation]
    exact Nat.add_le_add_left (chances.length_le consistent) _

theorem Room.hasRoom (room : Room state slot roomy)
    (formed : IsFormed state)
    (isPaging : state.focus.isPaging = true)
    (known : state.focus.ledger.residenceAt? handle =
      some (.swapped page slot)) :
    HasRoom state handle page slot roomy := by
  cases room with
  | vacant notFull _ =>
      have ceiling := (formed.agrees.tracks isPaging).residentCount_le
      have different := beq_eq_false_iff_ne.mp notFull
      exact ⟨rfl, formed.ledger, known,
        Nat.lt_of_le_of_ne ceiling different, Nat.le_add_right _ _⟩
  | exchanged _ _ departure _ =>
      have hasRoom := departure.hasRoom formed isPaging known
      exact { hasRoom with }
  | handedOver _ _ departure =>
      exact departure.hasRoom formed isPaging known

end AddressSpace

end DemandPaging
