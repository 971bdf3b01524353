import DemandPaging.Proofs.Effects.Departures
import DemandPaging.Proofs.Effects.Settling

/-!
# Page-ins to the letter

A page that comes back has a frame with the bytes of its slot (`Arrival`), room
in memory that was there or that another page made (`Room`), and its old place
in the ledger (`PageReturn`).  If it does not come back, there was no frame, or
one of the two transfers failed (`Unreturned`).
-/

namespace DemandPaging

namespace AddressSpace

variable {state expected : Hosted AddressSpace} {handle slot page frame : Nat}
  {fatal : Fatal → Prop} {frames : FramePool}
  {failed : PagingError → Hosted AddressSpace → Prop}

theorem isServed_of_allocate
    (takes : (state.host.pool state.focus.pool).allocate =
      (some frame, frames)) : IsServed state := by
  rcases Nat.lt_or_ge state.focus.pool state.host.pools.size with
    inside | outside
  · exact inside
  · rw [Host.pool, Array.getElem?_eq_none outside] at takes
    cases takes

theorem withFrames_withFrames (state : Hosted AddressSpace)
    (first second : FramePool) :
    withFrames (withFrames state first) second = withFrames state second := by
  simp only [withFrames, Host.setPool, Array.setIfInBounds_setIfInBounds]

/-- A frame that holds the bytes of the slot. -/
structure Arrival (state : Hosted AddressSpace) (slot : Nat) where
  frame : Nat
  bytes : List UInt8
  borrowed : FramePool
  frames : FramePool
  takes : (state.host.pool state.focus.pool).allocate = (some frame, borrowed)
  holds : state.focus.swap.contents? slot = some bytes
  writes : borrowed.write frame bytes = .ok frames

/-- The space once the bytes are in the frame. -/
def Arrival.landed (arrival : Arrival state slot) : Hosted AddressSpace :=
  withFrames state arrival.frames

theorem Arrival.isServed (arrival : Arrival state slot) : IsServed state :=
  isServed_of_allocate arrival.takes

namespace Arrival

variable (arrival : Arrival state slot)

theorem pool_landed :
    arrival.landed.host.pool state.focus.pool = arrival.frames :=
  pool_withFrames arrival.isServed arrival.frames

theorem length_bytes : arrival.bytes.length = pageSize :=
  SwapSpace.length_of_contents? arrival.holds

/-- The frame was nobody's, and the other frames are as before. -/
theorem contents?_frames
    (consistent : (state.host.pool state.focus.pool).IsConsistent) :
    (state.host.pool state.focus.pool).contents? arrival.frame = none ∧
      (∃ contents, contents.toList = arrival.bytes ∧
        arrival.frames.contents? arrival.frame = some contents) ∧
      ∀ other, other ≠ arrival.frame → arrival.frames.contents? other =
        (state.host.pool state.focus.pool).contents? other := by
  obtain ⟨fresh, lends⟩ :=
    FramePool.contents?_allocate consistent arrival.takes
  obtain ⟨contents, _, shown⟩ := FramePool.contents?_of_write arrival.writes
  refine ⟨fresh, ⟨_, Page.toList_overwrite arrival.length_bytes,
    (shown _).trans (if_pos rfl)⟩, fun other different => ?_⟩
  rw [shown, if_neg different, lends, if_neg different]

theorem freeCount_frames : arrival.frames.freeCount + 1 =
    (state.host.pool state.focus.pool).freeCount := by
  rw [FramePool.freeCount_of_write arrival.writes]
  exact FramePool.freeCount_of_allocate arrival.takes

end Arrival

/-- How there is room for one more page, whose slot is `slot`: there was room
already, or another page left, to a slot of its own or, if there is none, to the
slot `slot`.  Only in the last case it stays claimed. -/
inductive Room (state : Hosted AddressSpace) (slot : Nat) :
    Hosted AddressSpace → Prop where
  | vacant {swap : SwapSpace}
      (notFull : state.focus.ledger.isResidentFull = false)
      (released : state.focus.swap.release slot = .ok swap) :
      Room state slot (withSpace state fun space => { space with swap })
  | exchanged {swap : SwapSpace}
      (full : state.focus.ledger.isResidentFull = true)
      (hasSlot : state.focus.swap.freeSlots ≠ 0)
      (departure : Departure state none)
      (released : departure.after.focus.swap.release slot = .ok swap) :
      Room state slot
        (withSpace departure.after fun space => { space with swap })
  | handedOver (full : state.focus.ledger.isResidentFull = true)
      (noSlot : state.focus.swap.freeSlots = 0)
      (departure : Departure state (some slot)) :
      Room state slot departure.after

theorem exists_release {swap : SwapSpace}
    (claimed : swap.isClaimed slot = true) :
    ∃ released, swap.release slot = .ok released :=
  ⟨_, SwapSpace.release_eq_ok_iff.mpr ⟨SwapSpace.isClaimed_iff.mp claimed, rfl⟩⟩

theorem Departure.isClaimed_after {spare : Option Nat}
    (departure : Departure state spare)
    (claimed : state.focus.swap.isClaimed slot = true) :
    departure.after.focus.swap.isClaimed slot = true := by
  have targets := departure.targets
  change departure.target.isClaimed slot = true
  cases spare with
  | some given => rwa [targets.2]
  | none =>
      obtain ⟨isFree, _, taken⟩ := SwapSpace.claim_eq_some_iff.mp targets
      rw [taken, SwapSpace.isClaimed_take_of_free isFree, claimed, ite_self]

theorem resembles_makeRoom (same : Resembles expected state)
    (claimed : expected.focus.swap.isClaimed slot = true)
    (ends : ∀ (spare : Option Nat) (cause : Fatal),
      expected.focus.ledger.isResidentFull = true →
        (spare = none ∧ expected.focus.swap.freeSlots ≠ 0 ∨
          spare = some slot) →
            EvictionEnds expected spare cause → fatal cause) :
    ((makeRoom slot).run state).Meets fatal
      (fun _ after => ∃ roomy, Room expected slot roomy ∧
        Resembles roomy after)
      (fun error after => ∃ (spare : Option Nat)
        (candidate : Candidate expected spare),
          (∃ failure, error = .swapTransfer failure) ∧
            Resembles candidate.refused after) := by
  rw [makeRoom, Action.run_bind_of_done (run_look _),
    Action.run_bind_of_done (run_look _), same.focus]
  cases full : expected.focus.ledger.isResidentFull with
  | false =>
      obtain ⟨swap, released⟩ := exists_release claimed
      rw [Bool.false_and, Action.runIf_of_neg Bool.false_ne_true, pure_bind,
        Action.runIf_of_pos Bool.not_false]
      exact (resembles_releaseSlot same released).mono_done
        fun _ _ gave => ⟨_, .vacant full released, gave⟩
  | true =>
      rw [Bool.true_and, Action.runIf_of_pos rfl, bind_assoc]
      by_cases noSlot : expected.focus.swap.freeSlots = 0
      · rw [noSlot, beq_self_eq_true, if_pos rfl,
          Action.runIf_of_neg (by simp)]
        refine Action.meets_bind (((resembles_evictInto same
          (some slot)).mono_failed fun _ _ refused =>
            ⟨_, refused⟩).mono_fatal fun cause => ends _ cause full
              (.inr rfl)) ?_
        rintro _ after ⟨departure, _, left⟩
        exact ⟨_, .handedOver full noSlot departure, left⟩
      · have notHanded : (expected.focus.swap.freeSlots == 0) = false :=
          beq_eq_false_iff_ne.mpr noSlot
        rw [notHanded, if_neg Bool.false_ne_true,
          Action.runIf_of_pos Bool.not_false]
        refine Action.meets_bind (((resembles_evictInto same none).mono_failed
          fun _ _ refused =>
            ⟨_, refused⟩).mono_fatal fun cause => ends _ cause full
              (.inl ⟨rfl, noSlot⟩)) ?_
        rintro _ after ⟨departure, _, left⟩
        obtain ⟨swap, released⟩ :=
          exists_release (departure.isClaimed_after claimed)
        exact (resembles_releaseSlot left released).mono_done
          fun _ _ gave => ⟨_, .exchanged full noSlot departure released,
            gave⟩

/-- A page that came back from the slot `slot` to its place `handle`. -/
structure PageReturn (state : Hosted AddressSpace) (handle slot page : Nat)
    extends Arrival state slot where
  roomy : Hosted AddressSpace
  room : Room toArrival.landed slot roomy
  ledger : Ledger
  settles : settle roomy.focus.config.policy roomy.focus.ledger handle page =
    .ok ledger

/-- The space once the page is back. -/
def PageReturn.after (back : PageReturn state handle slot page) :
    Hosted AddressSpace :=
  withSpace back.roomy fun space => { space with
    table := space.table.update page fun entry =>
      Entry.resident back.frame entry.flags
    ledger := back.ledger
    stats := { space.stats with pageIns := space.stats.pageIns + 1 } }

/-- What is left if the slot could not be read, or the page that was to make
room could not be written. -/
inductive Unreturned (state : Hosted AddressSpace) (slot : Nat) :
    Hosted AddressSpace → Prop where
  | unread {frame : Nat} {borrowed frames : FramePool}
      (takes : (state.host.pool state.focus.pool).allocate =
        (some frame, borrowed))
      (released : borrowed.release frame = .ok frames) :
      Unreturned state slot
        (withSpace (withFrames state frames) fun space => { space with
          stats :=
            { space.stats with swapErrors := space.stats.swapErrors + 1 } })
  | refused {spare : Option Nat} {frames : FramePool}
      (arrival : Arrival state slot)
      (candidate : Candidate arrival.landed spare)
      (released : arrival.frames.release arrival.frame = .ok frames) :
      Unreturned state slot (withFrames candidate.refused frames)

/-- A frame that was taken can be written and given back. -/
theorem exists_write_release {pool borrowed : FramePool}
    (consistent : pool.IsConsistent)
    (takes : pool.allocate = (some frame, borrowed)) (bytes : List UInt8) :
    (∃ released, borrowed.release frame = .ok released) ∧
      ∃ written released, borrowed.write frame bytes = .ok written ∧
        written.release frame = .ok released := by
  obtain ⟨_, lends⟩ := FramePool.contents?_allocate consistent takes
  have lent := (lends frame).trans (if_pos rfl)
  obtain ⟨released, releases, _⟩ := FramePool.release_of_contents? lent
  obtain ⟨written, writes, shown⟩ :=
    FramePool.write_of_contents? lent bytes
  obtain ⟨cleaned, cleans, _⟩ := FramePool.release_of_contents?
    ((shown frame).trans (if_pos rfl))
  exact ⟨⟨released, releases⟩, written, cleaned, writes, cleans⟩

/-- What bringing back the page at `page` from its slot leaves. -/
theorem resembles_pageInFrom
    (consistent : (state.host.pool state.focus.pool).IsConsistent)
    (claimed : state.focus.swap.isClaimed slot = true)
    (beyond : Word.limit ≤ slot * pageSize → fatal .overflow)
    (ends : ∀ (arrival : Arrival state slot) (spare : Option Nat)
      (cause : Fatal), state.focus.ledger.isResidentFull = true →
        (spare = none ∧ state.focus.swap.freeSlots ≠ 0 ∨ spare = some slot) →
          EvictionEnds arrival.landed spare cause → fatal cause)
    (unsettled : ∀ (arrival : Arrival state slot)
      (roomy : Hosted AddressSpace) (cause : Fatal),
        Room arrival.landed slot roomy →
          settle roomy.focus.config.policy roomy.focus.ledger handle page =
            .error cause → fatal cause) :
    ((pageInFrom handle slot page).run state).Meets fatal
      (fun _ after => ∃ back : PageReturn state handle slot page,
        Resembles back.after after)
      (fun error after => (error = .outOfMemory ∧
          (state.host.pool state.focus.pool).freeCount = 0 ∧
          Resembles state after) ∨
        (∃ failure, error = .swapTransfer failure) ∧
          ∃ left, Unreturned state slot left ∧ Resembles left after) := by
  rw [pageInFrom]
  refine Action.meets_bind ((resembles_takeFrame (.refl state)).mono_failed
    fun _ _ outOfMemory => .inl outOfMemory) ?_
  rintro frame taken ⟨borrowed, takes, took⟩
  have served := isServed_of_allocate takes
  have lent : (withFrames state borrowed).host.pool
      (withFrames state borrowed).focus.pool = borrowed :=
    pool_withFrames served borrowed
  obtain ⟨⟨released, releases⟩, _⟩ :=
    exists_write_release consistent takes []
  -- If the slot cannot be read the frame goes back.
  refine Action.meets_bind ((resembles_transfer
    (withFrames (withFrames state borrowed) released)
    (resembles_load took beyond) fun middle unread => ?_).mono_failed
      ?_) ?_
  · exact resembles_changeFrames unread (by rw [lent]; exact releases)
  · rintro _ after ⟨isFailure, left⟩
    rw [withFrames_withFrames] at left
    exact .inr ⟨isFailure, _, .unread takes releases, left⟩
  rintro bytes loaded ⟨holds, loads⟩
  obtain ⟨_, frames, cleaned, writes, cleans⟩ :=
    exists_write_release consistent takes bytes
  let arrival : Arrival state slot :=
    { frame, bytes, borrowed, frames, takes, holds, writes }
  refine Action.meets_bind_of (fun _ => Resembles arrival.landed) ?_ ?_
  · rw [← lent] at writes
    refine (resembles_changeFrames loads writes).mono_done fun _ _ wrote => ?_
    rwa [withFrames_withFrames] at wrote
  intro _ written wrote
  -- If no room can be made the frame goes back as well.
  refine Action.meets_bind (Action.meets_onFailure (resembles_makeRoom wrote
    claimed (ends arrival)) ?_) ?_
  · rintro error middle ⟨spare, candidate, isFailure, refused⟩
    have holder : candidate.refused.host.pool candidate.refused.focus.pool =
        frames := arrival.pool_landed
    have gives := cleans
    rw [← holder] at gives
    refine (resembles_changeFrames refused gives).mono_done fun _ _ left => ?_
    exact .inr ⟨isFailure, _, .refused arrival candidate cleans, left⟩
  rintro _ made ⟨roomy, room, makes⟩
  refine Action.meets_bind (resembles_updateEntry makes _)
    fun _ updated updates => ?_
  refine Action.meets_bind (resembles_settleResident updates
    fun cause refused => unsettled arrival roomy cause room refused) ?_
  rintro _ settled ⟨ledger, settles, settling⟩
  refine Action.meets_bind (resembles_count settling _) fun _ _ counted => ?_
  refine (resembles_report counted _).mono_done fun _ _ reported => ?_
  exact ⟨{ arrival with roomy, room, ledger, settles }, reported.focus,
    reported.pools⟩

end AddressSpace

end DemandPaging
