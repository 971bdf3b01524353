import DemandPaging.AddressSpace.Memory
import DemandPaging.Proofs.Effects.Eviction

/-!
# What a departure shows

A page that left memory shows in one place, one entry, one slot and one frame.
Everything else is as the choice of the page left it, and that is what the
second chances make of it.
-/

namespace DemandPaging

namespace FramePool

variable {pool after : FramePool} {address : Nat} {contents : Page}

theorem freeCount_of_release (released : pool.release address = .ok after) :
    after.freeCount = pool.freeCount + 1 := by
  obtain ⟨_, _, _, _, rfl⟩ := release_eq_ok_iff.mp released
  exact List.length_append

theorem freeCount_of_allocate
    (lent : pool.allocate = (some address, after)) :
    after.freeCount + 1 = pool.freeCount := by
  obtain ⟨_, _, front, _, rfl⟩ := allocate_eq_some_iff.mp lent
  rw [freeCount, freeCount, front]
  rfl

theorem freeCount_of_write {bytes : List UInt8}
    (written : pool.write address bytes = .ok after) :
    after.freeCount = pool.freeCount := by
  obtain ⟨_, _, _, _, rfl⟩ := write_eq_ok_iff.mp written
  rfl

theorem contents?_of_release (released : pool.release address = .ok after)
    (other : Nat) :
    after.contents? other =
      if other = address then none else pool.contents? other := by
  obtain ⟨number, contents, atAddress, frame, _⟩ :=
    release_eq_ok_iff.mp released
  obtain ⟨_, success, shown⟩ := release_of_contents?
    (contents?_eq_some_iff_frame.mpr ⟨number, atAddress, frame⟩)
  cases success.symm.trans released
  exact shown other

end FramePool

namespace AddressSpace

variable {state : Hosted AddressSpace} {spare : Option Nat}

theorem residenceOf?_of_residenceAt? {ledger : Ledger} {handle page : Nat}
    (consistent : ledger.IsConsistent)
    (known : ledger.residenceAt? handle = some (.resident page)) :
    ledger.residenceOf? page = some (.resident page) := by
  obtain ⟨tracked, place, resident⟩ := Option.map_eq_some_iff.mp known
  exact consistent.residenceOf?_of_resident place resident

namespace Candidate

variable (candidate : Candidate state spare)

theorem handle_known (consistent : state.focus.ledger.IsConsistent)
    (aligned : state.focus.ledger.IsAligned) :
    state.focus.ledger.residenceAt? candidate.victim.handle =
      some (.resident candidate.page) := by
  rw [← (chances_of_select consistent aligned candidate.selects).residence]
  exact Ledger.residenceAt?_of_place candidate.place

/-- The entry of the page before its choice. -/
theorem entry_before (consistent : state.focus.ledger.IsConsistent)
    (aligned : state.focus.ledger.IsAligned) :
    ∃ entry, state.focus.table.get? candidate.page = some entry ∧
      candidate.entry =
        afterChances candidate.victim.spared candidate.page entry ∧
      entry.SameButMarks candidate.entry := by
  have found := candidate.canLeave.found
  rw [(chances_of_select consistent aligned candidate.selects).entry]
    at found
  obtain ⟨entry, held, same⟩ := Option.map_eq_some_iff.mp found
  refine ⟨entry, held, same.symm, ?_⟩
  rw [← same]
  exact sameButMarks_afterChances _ _ _

end Candidate

theorem Departure.isServed (departure : Departure state spare) :
    IsServed state :=
  isServed_of_contents? departure.canLeave.lent

namespace Departure

variable (departure : Departure state spare)

theorem residenceAt?_after (consistent : state.focus.ledger.IsConsistent)
    (aligned : state.focus.ledger.IsAligned) (other : Nat) :
    departure.after.focus.ledger.residenceAt? other =
      if other = departure.victim.handle then
        some (.swapped departure.page departure.slot)
      else state.focus.ledger.residenceAt? other := by
  have chances := chances_of_select consistent aligned departure.selects
  obtain ⟨inside, _⟩ := Array.getElem?_eq_some_iff.mp departure.place
  change Option.map Tracked.residence
    (departure.ledger.put departure.victim.handle _).places[other]? = _
  rw [Ledger.getElem?_places_put]
  by_cases here : other = departure.victim.handle
  · rw [if_pos ⟨here.symm, here ▸ inside⟩, if_pos here]
    rfl
  · rw [if_neg fun both => here both.1.symm, if_neg here]
    exact chances.residence other

theorem place_after {other : Nat} (different : other ≠ departure.victim.handle) :
    departure.after.focus.ledger.places[other]? =
      departure.ledger.places[other]? :=
  (Ledger.getElem?_places_put _).trans
    (if_neg fun both => different both.1.symm)

theorem get?_after (consistent : state.focus.ledger.IsConsistent)
    (aligned : state.focus.ledger.IsAligned) (address : Nat) :
    departure.after.focus.table.get? address =
      (state.focus.table.get? address).map fun entry =>
        if Address.pageBase address = departure.page then
          Entry.pagedOut
            (afterChances departure.victim.spared address entry).flags
        else afterChances departure.victim.spared address entry := by
  have chances := chances_of_select consistent aligned departure.selects
  have boundary := aligned _ _ (departure.handle_known consistent aligned)
  change (departure.table.update departure.page _).get? address = _
  rw [PageTable.get?_update]
  by_cases here : Address.pageBase address = departure.page
  · have samePage : Address.pageNumber address =
        Address.pageNumber departure.page :=
      PageTable.pageNumber_eq_iff.mpr (here.trans boundary.symm)
    rw [if_pos samePage,
      ← departure.table.get?_eq_of_pageNumber_eq samePage, chances.entry,
      Option.map_map]
    refine Option.map_congr fun entry _ => ?_
    rw [if_pos here]
    rfl
  · have otherPage : Address.pageNumber address ≠
        Address.pageNumber departure.page := fun same =>
      here ((PageTable.pageNumber_eq_iff.mp same).trans boundary)
    rw [if_neg otherPage, chances.entry]
    refine Option.map_congr fun entry _ => ?_
    rw [if_neg here]

/-- The slot that the page went to holds its bytes, and every other slot holds
what it held. -/
theorem slotBytes?_after (other : Nat) :
    departure.after.focus.slotBytes? other =
      if other = departure.slot then some departure.contents.toList
      else state.focus.slotBytes? other := by
  have file : departure.target.file = state.focus.swap.file := by
    have targets := departure.targets
    cases spare with
    | some given => rw [targets.2]
    | none =>
        obtain ⟨_, _, taken⟩ := SwapSpace.claim_eq_some_iff.mp targets
        rw [taken]
        rfl
  have shown := SwapSpace.contents?_of_write (Vector.length_toList ..)
    departure.written
    (rfl : SwapSpace.file { departure.target with
      file := departure.file } = departure.file) other
  rw [SwapSpace.contents?, SwapSpace.contents?, file] at shown
  exact shown

theorem frameBytes?_page :
    frameBytes? state departure.entry.address =
      some departure.contents.toList := by
  rw [frameBytes?_eq, departure.canLeave.lent]
  rfl

theorem pool_after : departure.after.host.pool state.focus.pool =
    departure.frames :=
  pool_withFrames departure.isServed departure.frames

/-- The frame of the page is no longer lent, and every other frame holds what
it held. -/
theorem frameBytes?_after (frame : Nat) :
    frameBytes? departure.after frame =
      if frame = departure.entry.address then none
      else frameBytes? state frame := by
  rw [frameBytes?_eq]
  change ((departure.after.host.pool state.focus.pool).contents?
    frame).map _ = _
  rw [departure.pool_after, FramePool.contents?_of_release
    departure.released, frameBytes?_eq]
  split <;> rfl

theorem freeCount_after :
    (departure.after.host.pool state.focus.pool).freeCount =
      (state.host.pool state.focus.pool).freeCount + 1 := by
  rw [departure.pool_after]
  exact FramePool.freeCount_of_release departure.released

theorem pool_after_of_ne {number : Nat}
    (different : number ≠ state.focus.pool) :
    departure.after.host.pool number = state.host.pool number := by
  refine (Host.pool_setPool _ _ _ _).trans (if_neg ?_)
  exact fun both => different both.1.symm

end Departure

end AddressSpace

end DemandPaging
