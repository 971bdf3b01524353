import DemandPaging.Proofs.Ledger.Turns

/-!
# Runs of a ledger

A ledger is made empty and then gets one operation after the other, with
whatever arguments, as long as none of them is fatal.  Each operation puts one
page into one place or sets the clock, so it is enough to know of a place that
changed what it held and what it holds.  Over a whole run the ledger stays
consistent (`keeps_of_runAll`), and a tracked page stays where it is until it is
released (`find?_of_runAll`).
-/

namespace DemandPaging

namespace Ledger

/-- What may be asked of a ledger. -/
inductive Operation where
  | markResident (handle address : Nat)
  | markSwapped (handle address slot : Nat)
  | release (handle : Nat)
  /-- A copy of what a place of some ledger holds is installed. -/
  | adopt (handle : Nat) (page : Tracked)
  | setRecency (handle recency : Nat)
  | setGeneration (generation : Nat)
  | advanceClock
  deriving DecidableEq

namespace Operation

/-- The ledger that an operation leaves, unless it is fatal. -/
def run (ledger : Ledger) : Operation → Except Fatal Ledger
  | markResident handle address => ledger.markResident handle address
  | markSwapped handle address slot => ledger.markSwapped handle address slot
  | release handle => do
    let (_, released) ← ledger.release handle
    return released
  | adopt handle page => ledger.adopt handle page
  | setRecency handle recency => ledger.setRecency handle recency
  | setGeneration generation => return { ledger with generation }
  | advanceClock => do
    let (_, advanced) ← ledger.advanceClock
    return advanced

/-- The place that an operation names. -/
def handle? : Operation → Option Nat
  | markResident handle _ | markSwapped handle _ _ | release handle
  | adopt handle _ | setRecency handle _ => some handle
  | setGeneration _ | advanceClock => none

end Operation

/-- What a ledger comes to by operations one after the other, up to the first
fatal one. -/
def runAll (ledger : Ledger) : List Operation → Except Fatal Ledger
  | [] => return ledger
  | operation :: operations => do
    let next ← operation.run ledger
    next.runAll operations

variable {ledger after : Ledger} {operation : Operation} {handle address : Nat}
  {old new : Tracked}

/-- An operation leaves the ledger consistent and within its ceiling, changes no
place but the one that it names, and takes no page from its place unless it
releases it. -/
structure Operates (ledger : Ledger) (operation : Operation) (after : Ledger) :
    Prop where
  isConsistent : after.IsConsistent
  maxResident : after.maxResident = ledger.maxResident
  capacity : after.capacity = ledger.capacity
  residentCount_le : ledger.residentCount ≤ ledger.maxResident →
    after.residentCount ≤ ledger.maxResident
  others : ∀ other : Nat, operation.handle? ≠ some other →
    after.places[other]? = ledger.places[other]?
  stays : ∀ handle address, operation ≠ .release handle →
    ledger.find? address = some handle → after.find? address = some handle

/-- Where one place changed the page that it tracked is still there, unless it
was released. -/
theorem Puts.operates (puts : ledger.Puts handle old new after)
    (consistent : ledger.IsConsistent)
    (named : operation.handle? = some handle)
    (maxResident : after.maxResident = ledger.maxResident)
    (residentCount_le : ledger.residentCount ≤ ledger.maxResident →
      after.residentCount ≤ ledger.maxResident)
    (goesOn : operation = .release handle ∨
      ∀ page, old.Tracks page → new.Tracks page) :
    ledger.Operates operation after where
  isConsistent := puts.isConsistent consistent
  maxResident := maxResident
  capacity := puts.capacity
  residentCount_le := residentCount_le
  others other elsewhere := by
    rw [puts.getElem?_places, if_neg]
    rintro rfl
    exact elsewhere named
  stays place page stays found := by
    by_cases isOld : old.Tracks page
    · have here := consistent.find?_iff.mpr ⟨old, puts.held, isOld⟩
      rw [found] at here
      cases here
      rcases goesOn with released | goesOn
      · exact absurd released stays
      · exact puts.find?_new page (goesOn page isOld)
    · by_cases isNew : new.Tracks page
      · rw [puts.fresh page isNew isOld] at found
        cases found
      · rw [puts.find?_other page isOld isNew]
        exact found

theorem operates_withClock (consistent : ledger.IsConsistent)
    (generation : Nat) :
    ledger.Operates operation { ledger with generation } where
  isConsistent := consistent.withClock generation
  maxResident := rfl
  capacity := rfl
  residentCount_le le := le
  others _ _ := rfl
  stays _ _ _ found := found

theorem operates_of_markResident (consistent : ledger.IsConsistent)
    (marked : ledger.markResident handle address = .ok after) :
    ledger.Operates (.markResident handle address) after := by
  obtain ⟨below, page, held, kinds⟩ := markResident_eq_ok_iff.mp marked
  rcases kinds with ⟨unused, missing, rfl⟩ | ⟨slot, swapped, rfl⟩
  · apply (puts_resident_of_free held unused missing).operates consistent
    · rfl
    · rfl
    · exact fun _ => below
    · exact .inr fun _ tracks =>
        absurd tracks (Tracked.not_tracks_of_residence unused)
  · apply (puts_resident_of_swapped consistent held swapped).operates consistent
    · rfl
    · rfl
    · exact fun _ => below
    · right
      intro other tracks
      rw [Tracked.tracks_of_resident rfl]
      exact (Tracked.tracks_of_swapped swapped).mp tracks

theorem operates_of_markSwapped (consistent : ledger.IsConsistent) {slot : Nat}
    (marked : ledger.markSwapped handle address slot = .ok after) :
    ledger.Operates (.markSwapped handle address slot) after := by
  obtain ⟨page, held, resident, rfl⟩ := markSwapped_eq_ok_iff.mp marked
  apply (puts_swapped consistent held resident).operates consistent
  · rfl
  · rfl
  · exact fun le => Nat.le_trans (Nat.sub_le _ _) le
  · right
    intro other tracks
    rw [Tracked.tracks_of_swapped rfl]
    exact (Tracked.tracks_of_resident resident).mp tracks

theorem operates_of_release (consistent : ledger.IsConsistent)
    (released : ledger.release handle = .ok (old, after)) :
    ledger.Operates (.release handle) after := by
  obtain ⟨held, kinds⟩ := release_eq_ok_iff.mp released
  rcases kinds with ⟨page, resident, rfl⟩ | ⟨page, slot, swapped, rfl⟩
  · exact (puts_unused_of_resident consistent held resident).operates consistent
      rfl rfl (fun le => Nat.le_trans (Nat.sub_le _ _) le) (.inl rfl)
  · exact (puts_unused_of_swapped consistent held swapped).operates consistent
      rfl rfl (fun le => le) (.inl rfl)

theorem operates_of_adopt (consistent : ledger.IsConsistent)
    (adopted : ledger.adopt handle new = .ok after) :
    ledger.Operates (.adopt handle new) after := by
  obtain ⟨old, unused, puts⟩ := puts_of_adopt adopted
  obtain ⟨_, _, kinds⟩ := adopt_eq_ok_iff.mp adopted
  have goesOn : ∀ page, old.Tracks page → new.Tracks page := fun _ tracks =>
    absurd tracks (Tracked.not_tracks_of_residence unused)
  rcases kinds with ⟨page, _, below, rfl⟩ | ⟨page, slot, _, rfl⟩
  · exact puts.operates consistent rfl rfl (fun _ => below) (.inr goesOn)
  · exact puts.operates consistent rfl rfl (fun le => le) (.inr goesOn)

/-- Whatever its arguments, an operation that is not fatal operates on one place
or on the clock. -/
theorem IsConsistent.operates (consistent : ledger.IsConsistent)
    (ran : operation.run ledger = .ok after) :
    ledger.Operates operation after := by
  cases operation with
  | markResident handle address => exact operates_of_markResident consistent ran
  | markSwapped handle address slot =>
      exact operates_of_markSwapped consistent ran
  | release handle =>
      simp only [Operation.run, bind_eq_ok_iff, Prod.exists] at ran
      obtain ⟨released, final, ran, same⟩ := ran
      cases same
      exact operates_of_release consistent ran
  | adopt handle page => exact operates_of_adopt consistent ran
  | setRecency handle recency =>
      obtain ⟨page, held, rfl⟩ := setRecency_eq_ok_iff.mp ran
      exact (puts_recency consistent held recency).operates consistent rfl rfl
        (fun le => le) (.inr fun _ tracks => tracks)
  | setGeneration generation =>
      cases ran
      exact operates_withClock consistent generation
  | advanceClock =>
      simp only [Operation.run, bind_eq_ok_iff, Prod.exists] at ran
      obtain ⟨now, final, advanced, same⟩ := ran
      cases same
      obtain ⟨_, _, rfl⟩ := advanceClock_eq_ok_iff.mp advanced
      exact operates_withClock consistent _

/-- What a run keeps of the ledger that it began with. -/
structure Keeps (ledger after : Ledger) : Prop where
  isConsistent : after.IsConsistent
  maxResident : after.maxResident = ledger.maxResident
  capacity : after.capacity = ledger.capacity
  residentCount_le : ledger.residentCount ≤ ledger.maxResident →
    after.residentCount ≤ ledger.maxResident

theorem keeps_of_runAll {operations : List Operation}
    (consistent : ledger.IsConsistent)
    (ran : ledger.runAll operations = .ok after) : ledger.Keeps after := by
  induction operations generalizing ledger with
  | nil =>
      cases ran
      exact ⟨consistent, rfl, rfl, fun le => le⟩
  | cons operation operations ih =>
      rw [runAll, bind_eq_ok_iff] at ran
      obtain ⟨next, first, rest⟩ := ran
      have operates := consistent.operates first
      have keeps := ih operates.isConsistent rest
      refine ⟨keeps.isConsistent, keeps.maxResident.trans operates.maxResident,
        keeps.capacity.trans operates.capacity, fun le => ?_⟩
      have below := keeps.residentCount_le
      rw [operates.maxResident] at below
      exact below (operates.residentCount_le le)

/-- A page stays in its place as long as it is not released from there. -/
theorem find?_of_runAll {operations : List Operation}
    (consistent : ledger.IsConsistent)
    (ran : ledger.runAll operations = .ok after)
    (unreleased : ∀ operation ∈ operations, operation ≠ .release handle)
    (found : ledger.find? address = some handle) :
    after.find? address = some handle := by
  induction operations generalizing ledger with
  | nil =>
      cases ran
      exact found
  | cons operation operations ih =>
      rw [runAll, bind_eq_ok_iff] at ran
      obtain ⟨next, first, rest⟩ := ran
      have operates := consistent.operates first
      apply ih operates.isConsistent rest
      · exact fun later member => unreleased later (.tail _ member)
      · exact operates.stays _ _ (unreleased operation (.head _)) found

theorem IsConsistent.reserve_eq_none_iff_isFull
    (consistent : ledger.IsConsistent) :
    ledger.reserve = none ↔ ledger.isFull = true := by
  constructor
  · intro taken
    cases full : ledger.isFull with
    | true => rfl
    | false =>
        obtain ⟨handle, _, reserved, _⟩ := consistent.reserve_of_not_isFull full
        rw [taken] at reserved
        cases reserved
  · intro full
    rw [isFull, beq_iff_eq, consistent.trackedCount_eq, capacity,
      Array.countP_eq_size] at full
    rw [reserve_eq_none_iff]
    intro handle page place
    have taken := full page (Array.mem_of_getElem? place)
    rwa [Bool.not_eq_eq_eq_not, Bool.not_true] at taken

end Ledger

end DemandPaging
