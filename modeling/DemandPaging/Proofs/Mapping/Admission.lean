import DemandPaging.Proofs.AddressSpace.PageSets
import DemandPaging.Proofs.AddressSpace.RequestSteps
import DemandPaging.Proofs.Mapping.Enrolment

/-!
# One address for each page

The page table finds a page under each of its addresses, and the ledger finds
it under one only.  The two agree as long as every page is tracked under the
address that begins it, which is up to those who have a page tracked: given
such an address, no page comes to be tracked twice.  Another address is taken
as it is, and then one page has two places.
-/

namespace DemandPaging

/-- Every page is tracked under the address that begins it, and at one place. -/
structure Ledger.IsUnaliased (ledger : Ledger) : Prop where
  aligned : ∀ (handle : Nat) (tracked : Tracked),
    ledger.places[handle]? = some tracked → tracked.isFree = false →
      Address.pageBase tracked.address = tracked.address
  unique : ∀ (first second : Nat) (tracked other : Tracked),
    ledger.places[first]? = some tracked →
      ledger.places[second]? = some other →
        tracked.isFree = false → other.isFree = false →
          Address.pageBase tracked.address = Address.pageBase other.address →
            first = second

namespace AddressSpace

variable {state : Hosted AddressSpace}
  {pending : Option Nat} {address : Nat}

theorem NearlyTracks.isUnaliased
    (nearly : state.focus.NearlyTracks none)
    (consistent : state.focus.ledger.IsConsistent) :
    state.focus.ledger.IsUnaliased := by
  have aligned : ∀ (handle : Nat) (tracked : Tracked),
      state.focus.ledger.places[handle]? = some tracked →
        tracked.isFree = false →
          Address.pageBase tracked.address = tracked.address := by
    intro handle tracked place taken
    have known := consistent.residenceOf?_eq_some_iff.mpr
      ⟨handle, tracked, place, ⟨taken, rfl⟩, rfl⟩
    obtain ⟨residence, recency⟩ := tracked
    cases residence with
    | free => cases taken
    | resident page => exact (nearly.isValid_of_resident consistent known).1
    | swapped page slot =>
        exact (nearly.isPagedOut_of_swapped consistent known).1
  refine ⟨aligned, ?_⟩
  intro first second tracked other place otherPlace taken otherTaken same
  rw [aligned first tracked place taken,
    aligned second other otherPlace otherTaken] at same
  exact consistent.handle_unique place otherPlace taken otherTaken same

/-- A page that comes to be tracked under the address that begins it leaves one
place for each page, and as many of them resident as are in memory; under
another address it gets a place of its own.  If it is refused, the ledger is full
or the transfer of the page that was to leave failed: no page is tracked that was
not, and none is lost or changed. -/
theorem enroll_corresponds_or_refuses
    (nearly : state.focus.NearlyTracks pending)
    (consistent : state.focus.ledger.IsConsistent)
    (isPaging : state.focus.isPaging = true) (address : Nat) :
    ((enroll address).run state).Meets (fun _ => True)
      (fun _ after =>
        (Address.pageBase address = address →
          after.focus.Tracks ∧ after.focus.ledger.IsUnaliased ∧
            after.focus.ledger.residentCount = after.focus.mappedCount) ∧
        ∃ handle, after.focus.ledger.residenceAt? handle =
          some (.resident address))
      (fun error after =>
        ((error = .tooManyPages state.focus.ledger.capacity ∧
            Resembles state after) ∨
          ∃ spared handle page,
            Refuses state after spared handle page error) ∧
        (∀ handle, after.focus.ledger.residenceAt? handle =
          state.focus.ledger.residenceAt? handle) ∧
        view? after = view? state) := by
  rw [enroll, Action.run_bind_of_done (run_look _),
    Action.runIf_of_pos isPaging]
  refine (resembles_track (.refl state)).mono ?_ ?_
  · rintro _ after ⟨newcomer, same⟩
    rw [same.focus]
    refine ⟨fun aligned => ?_,
      _, newcomer.residenceAt?_after nearly consistent⟩
    have corresponds := newcomer.nearlyTracks nearly consistent aligned
    have isConsistent := newcomer.isConsistent_after nearly consistent
    exact ⟨corresponds.tracks, corresponds.isUnaliased isConsistent,
      corresponds.tracks.residentCount_eq isConsistent⟩
  · rintro error after (⟨isFull, same⟩ | ⟨candidate, failure, same⟩)
    · refine ⟨.inl ⟨isFull, same⟩, fun handle => ?_, same.view?⟩
      rw [same.focus]
    · have refuses := (candidate.refuses consistent
        (nearly.isAligned consistent) failure).of_resembles same
      exact ⟨.inr ⟨_, _, _, refuses⟩, refuses.chances.residence,
        view?_of_chances refuses.chances refuses.setting.pool refuses.swap
          refuses.pools⟩

/-- A new space whose first page is mapped and not yet tracked. -/
def pendingSpace : Hosted AddressSpace :=
  ⟨{ smallSpace with
    table := (smallSpace.table.addTable 0).write 0
      (Entry.point 0 { valid := true, read := true, user := true }) },
    smallHost⟩

theorem nearlyTracks_pendingSpace :
    pendingSpace.focus.NearlyTracks (some 0) ∧
      pendingSpace.focus.ledger.IsConsistent := by
  have fresh := isNew_small.inOrder.wellFormed
  have nearly := fresh.agrees.nearlyTracks rfl
  have vacant := isNew_small.isMade.isVacant
  have rewrites : (pager ⟨smallSpace, smallHost⟩).Rewrites
      (pager pendingSpace) 0
      (Entry.point 0 { valid := true, read := true, user := true }) :=
    ⟨rfl, entryAt_write_small _, rfl, rfl⟩
  refine ⟨nearly.of_rewrites fresh.ledger rewrites (fun _ => rfl)
    (fun _ notPending => absurd rfl notPending) (fun _ => rfl) ?_ ?_
    fun _ _ _ => nofun, fresh.ledger⟩
  · exact fun isPagedOut => absurd isPagedOut (by decide)
  · exact fun slot held => absurd held (vacant.not_known 0 _)

theorem enroll_corresponds_or_refuses_of_pending :
    pendingSpace.focus.NearlyTracks (some 0) ∧
      pendingSpace.focus.ledger.IsConsistent ∧
      pendingSpace.focus.isPaging = true ∧
      ∃ after, (enroll 0).run pendingSpace = .done () after ∧
        after.focus.Tracks ∧ after.focus.ledger.IsUnaliased ∧
          after.focus.ledger.residentCount = after.focus.mappedCount := by
  obtain ⟨nearly, consistent⟩ := nearlyTracks_pendingSpace
  have evaluated : (enroll 0).leadsTo (fun _ => true) pendingSpace =
      true := by
    decide +kernel
  obtain ⟨_, after, ran, _⟩ := Action.exists_of_leadsTo evaluated
  have meets := enroll_corresponds_or_refuses nearly consistent rfl 0
  rw [ran] at meets
  exact ⟨nearly, consistent, rfl, after, ran, meets.1 rfl⟩

end AddressSpace

end DemandPaging
