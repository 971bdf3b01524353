import DemandPaging.Proofs.Ledger.Recency
import DemandPaging.Proofs.Ledger.Residences

/-!
# What transitions do to the pages in memory

Every transition concerns one page: it comes into memory, leaves it, or gets
another recency there.  The other pages in memory stay as they are.
-/

namespace DemandPaging

/-- The recency with which a page comes into memory under a policy that ages
pages. -/
def Policy.firstRecency : Policy → Nat
  | lapa => Word.limit - 1
  | nfua | noPaging | scfifo => 0

namespace Ledger

variable {ledger before settled after : Ledger} {handle page slot now : Nat}
  {old new : Tracked} {front resident : ResidentPage} {policy : Policy}

/-- Of the pages in memory only one changed: it is `new` now, or not there. -/
structure Turns (before : Ledger) (page : Nat) (new : Option ResidentPage)
    (after : Ledger) : Prop where
  isConsistent : after.IsConsistent
  mem_residents : ∀ resident : ResidentPage, resident ∈ after.residents ↔
    new = some resident ∨ resident ∈ before.residents ∧ resident.address ≠ page

theorem tracks_of_mem_residents (member : resident ∈ ledger.residents) :
    ∃ tracked, ledger.places[resident.handle]? = some tracked ∧
      tracked.Tracks resident.address :=
  ⟨_, mem_residents_iff.mp member, (Tracked.tracks_resident _ _ _).mpr rfl⟩

theorem IsConsistent.find?_of_mem_residents (consistent : ledger.IsConsistent)
    (member : resident ∈ ledger.residents) :
    ledger.find? resident.address = some resident.handle :=
  consistent.find?_iff.mpr (tracks_of_mem_residents member)

theorem IsConsistent.eq_of_address_eq (consistent : ledger.IsConsistent)
    {other : ResidentPage} (member : resident ∈ ledger.residents)
    (otherMember : other ∈ ledger.residents)
    (same : resident.address = other.address) : resident = other := by
  have found := consistent.find?_of_mem_residents member
  rw [same, consistent.find?_of_mem_residents otherMember] at found
  have handles := Option.some.inj found
  have place := mem_residents_iff.mp member
  rw [← handles, mem_residents_iff.mp otherMember] at place
  obtain ⟨handle, address, recency⟩ := resident
  obtain ⟨otherHandle, otherAddress, otherRecency⟩ := other
  cases place
  cases handles
  rfl

/-- Where a place goes on to track the page that it tracked, or begins or stops
to track it, no other page is concerned. -/
theorem Puts.turns (puts : ledger.Puts handle old new after)
    (consistent : ledger.IsConsistent)
    (onlyOld : ∀ other, old.Tracks other → other = page)
    (onlyNew : ∀ other, new.Tracks other → other = page)
    (either : old.Tracks page ∨ new.Tracks page)
    {arrived : Option ResidentPage}
    (arrives : ∀ resident : ResidentPage, arrived = some resident ↔
      resident.handle = handle ∧
        new = ⟨.resident resident.address, resident.recency⟩) :
    ledger.Turns page arrived after where
  isConsistent := puts.isConsistent consistent
  mem_residents resident := by
    rw [arrives, mem_residents_iff, puts.getElem?_places]
    by_cases here : handle = resident.handle
    · rw [if_pos here, Option.some.injEq]
      refine ⟨fun same => .inl ⟨here.symm, same⟩, ?_⟩
      rintro (⟨_, same⟩ | ⟨member, elsewhere⟩)
      · exact same
      · obtain ⟨tracked, place, tracks⟩ := tracks_of_mem_residents member
        rw [← here, puts.held] at place
        cases place
        exact absurd (onlyOld _ tracks) elsewhere
    · rw [if_neg here, ← mem_residents_iff]
      refine ⟨fun member => .inr ⟨member, ?_⟩, ?_⟩
      · rintro rfl
        have found := consistent.find?_of_mem_residents member
        rcases either with isOld | isNew
        · rw [consistent.find?_iff.mpr ⟨old, puts.held, isOld⟩] at found
          exact here (Option.some.inj found)
        · by_cases isOld : old.Tracks resident.address
          · rw [consistent.find?_iff.mpr ⟨old, puts.held, isOld⟩] at found
            exact here (Option.some.inj found)
          · rw [puts.fresh _ isNew isOld] at found
            cases found
      · rintro (⟨same, _⟩ | ⟨member, _⟩)
        · exact absurd same.symm here
        · exact member

theorem turns_of_setRecency (consistent : ledger.IsConsistent)
    (member : front ∈ ledger.residents)
    (success : ledger.setRecency front.handle now = .ok after) :
    ledger.Turns front.address (some { front with recency := now }) after ∧
      after.generation = ledger.generation := by
  obtain ⟨tracked, place, rfl⟩ := setRecency_eq_ok_iff.mp success
  cases place.symm.trans (mem_residents_iff.mp member)
  refine ⟨(puts_recency consistent place now).turns consistent
    (fun other => (Tracked.tracks_resident _ _ _).mp)
    (fun other => (Tracked.tracks_resident _ _ _).mp)
    (.inl ((Tracked.tracks_resident _ _ _).mpr rfl)) fun resident => ?_, rfl⟩
  obtain ⟨handle, address, recency⟩ := resident
  simp [eq_comm]

theorem turns_of_markSwapped (consistent : ledger.IsConsistent)
    (success : ledger.markSwapped handle page slot = .ok after) :
    ledger.Turns page none after ∧ after.generation = ledger.generation := by
  obtain ⟨tracked, place, resident, rfl⟩ := markSwapped_eq_ok_iff.mp success
  refine ⟨(puts_swapped consistent place resident).turns consistent
    (fun other => (Tracked.tracks_of_resident resident).mp)
    (fun other => (Tracked.tracks_of_swapped rfl).mp)
    (.inl ((Tracked.tracks_of_resident resident).mpr rfl))
    fun resident => ?_, rfl⟩
  simp

/-- A page is not tracked any more. -/
theorem turns_of_release (consistent : ledger.IsConsistent)
    (found : ledger.find? page = some handle)
    (success : ledger.release handle = .ok (old, after)) :
    ledger.Turns page none after ∧ after.generation = ledger.generation ∧
      after.find? page = none ∧
      ∀ other, other ≠ page → after.find? other = ledger.find? other := by
  obtain ⟨tracked, place, tracks⟩ := consistent.find?_iff.mp found
  obtain ⟨rest, released, puts, _, _, generation⟩ :=
    consistent.release_of_tracks place tracks
  cases success.symm.trans released
  have notUnused : ∀ other, ¬Tracked.unused.Tracks other := fun _ =>
    Tracked.not_tracks_of_residence rfl
  refine ⟨puts.turns consistent (fun other isOther =>
      isOther.2.symm.trans tracks.2)
    (fun other isOther => absurd isOther (notUnused other)) (.inl tracks)
    fun resident => ?_, generation, puts.find?_old page tracks (notUnused page),
    fun other elsewhere => puts.find?_other other
      (fun isOther => elsewhere (isOther.2.symm.trans tracks.2))
      (notUnused other)⟩
  simp [Tracked.unused]

/-- A page comes into memory: it was not there, and gets its first recency. -/
structure Lands (policy : Policy) (before : Ledger) (page : Nat)
    (landed : ResidentPage) (after : Ledger) : Prop where
  turns : before.Turns page (some landed) after
  address : landed.address = page
  absent : ∀ resident ∈ before.residents, resident.address ≠ page
  stamped : policy = .scfifo → landed.recency = before.generation + 1 ∧
    after.generation = before.generation + 1
  first : policy = .nfua ∨ policy = .lapa →
    landed.recency = policy.firstRecency

/-- What happens to a page last is what counts. -/
theorem Turns.trans {first second : Option ResidentPage}
    (turns : before.Turns page first settled)
    (more : settled.Turns page second after)
    (here : ∀ resident, first = some resident → resident.address = page) :
    before.Turns page second after where
  isConsistent := more.isConsistent
  mem_residents resident := by
    rw [more.mem_residents, turns.mem_residents]
    refine or_congr_right ⟨?_, fun old => ⟨.inr old, old.2⟩⟩
    rintro ⟨arrived | old, elsewhere⟩
    · exact absurd (here resident arrived) elsewhere
    · exact old

theorem IsConsistent.withClock (consistent : ledger.IsConsistent)
    (generation : Nat) : { ledger with generation }.IsConsistent :=
  ⟨consistent.find?_eq_some_iff, consistent.residentCount_eq,
    consistent.swappedCount_eq⟩

/-- A page in memory is stamped with the new time. -/
theorem turns_of_requeue {clocked : Ledger} (consistent : ledger.IsConsistent)
    (member : front ∈ ledger.residents)
    (advanced : ledger.advanceClock = .ok (now, clocked))
    (requeued : clocked.setRecency front.handle now = .ok after) :
    now = ledger.generation + 1 ∧
      ledger.Turns front.address (some { front with recency := now }) after ∧
      after.generation = ledger.generation + 1 := by
  obtain ⟨_, rfl, rfl⟩ := advanceClock_eq_ok_iff.mp advanced
  have still : front ∈
      { ledger with generation := ledger.generation + 1 }.residents := member
  obtain ⟨turns, generation⟩ := turns_of_setRecency
    (consistent.withClock (ledger.generation + 1)) still requeued
  exact ⟨rfl, ⟨turns.isConsistent, turns.mem_residents⟩, generation⟩

/-- The first recency that a policy gives. -/
theorem turns_of_onLoad (consistent : ledger.IsConsistent)
    (member : resident ∈ ledger.residents)
    (loaded : policy.onLoad ledger resident.handle = .ok after) :
    ∃ recency,
      ledger.Turns resident.address (some { resident with recency }) after ∧
      (policy = .scfifo → recency = ledger.generation + 1 ∧
        after.generation = ledger.generation + 1) ∧
      (policy = .nfua ∨ policy = .lapa → recency = policy.firstRecency) := by
  cases policy with
  | noPaging =>
      cases loaded
      refine ⟨resident.recency, ⟨consistent, fun other => ?_⟩, nofun,
        by simp⟩
      by_cases same : other = resident
      · simp [same, member]
      · refine ⟨fun isOther => .inr ⟨isOther, fun here => same ?_⟩, ?_⟩
        · exact consistent.eq_of_address_eq isOther member here
        · rintro (arrived | ⟨isOther, _⟩)
          · cases arrived
            exact absurd rfl same
          · exact isOther
  | nfua =>
      exact ⟨_, (turns_of_setRecency consistent member loaded).1, nofun,
        fun _ => rfl⟩
  | lapa =>
      exact ⟨_, (turns_of_setRecency consistent member loaded).1, nofun,
        fun _ => rfl⟩
  | scfifo =>
      simp only [Policy.onLoad, bind_eq_ok_iff, Prod.exists] at loaded
      obtain ⟨now, clocked, advanced, requeued⟩ := loaded
      obtain ⟨stamp, turns, clock⟩ :=
        turns_of_requeue consistent member advanced requeued
      exact ⟨now, turns, fun _ => ⟨stamp, clock⟩, by simp⟩

theorem turns_of_markResident (consistent : ledger.IsConsistent)
    (settles : ledger.markResident handle page = .ok settled) :
    (∃ recency, ledger.Turns page (some ⟨handle, page, recency⟩) settled) ∧
      (∀ resident ∈ ledger.residents, resident.address ≠ page) ∧
      settled.generation = ledger.generation := by
  obtain ⟨_, old, place, ⟨unused, missing, rfl⟩ | ⟨slot, swapped, rfl⟩⟩ :=
    markResident_eq_ok_iff.mp settles
  · refine ⟨⟨old.recency, (puts_resident_of_free place unused missing).turns
      consistent (fun _ tracks =>
        absurd tracks (Tracked.not_tracks_of_residence unused))
      (fun _ => (Tracked.tracks_of_resident rfl).mp)
      (.inr ((Tracked.tracks_of_resident rfl).mpr rfl)) fun resident => ?_⟩,
      fun resident member here => ?_, rfl⟩
    · obtain ⟨otherHandle, address, recency⟩ := resident
      simp [eq_comm]
    · have found := consistent.find?_of_mem_residents member
      rw [here, missing] at found
      cases found
  · have tracks := (Tracked.tracks_of_swapped swapped).mpr (rfl : page = page)
    refine ⟨⟨old.recency,
      (puts_resident_of_swapped consistent place swapped).turns consistent
      (fun _ => (Tracked.tracks_of_swapped swapped).mp)
      (fun _ => (Tracked.tracks_of_resident rfl).mp)
      (.inl tracks) fun resident => ?_⟩,
      fun resident member here => ?_, rfl⟩
    · obtain ⟨otherHandle, address, recency⟩ := resident
      simp [eq_comm]
    · have found := consistent.find?_of_mem_residents member
      rw [here, consistent.find?_iff.mpr ⟨old, place, tracks⟩] at found
      rw [Option.some.inj found, mem_residents_iff.mp member] at place
      cases place
      cases swapped

theorem lands_of_markResident (consistent : ledger.IsConsistent)
    (settles : ledger.markResident handle page = .ok settled)
    (loaded : policy.onLoad settled handle = .ok after) :
    ∃ landed, ledger.Lands policy page landed after := by
  obtain ⟨⟨first, settling⟩, absent, sameClock⟩ :=
    turns_of_markResident consistent settles
  have member : (⟨handle, page, first⟩ : ResidentPage) ∈ settled.residents :=
    (settling.mem_residents _).mpr (.inl rfl)
  obtain ⟨recency, loading, stamped, first⟩ :=
    turns_of_onLoad settling.isConsistent member loaded
  refine ⟨⟨handle, page, recency⟩, settling.trans loading ?_, rfl, absent, ?_,
    first⟩
  · rintro _ ⟨⟩
    rfl
  · rw [sameClock] at stamped
    exact stamped

end Ledger

end DemandPaging
