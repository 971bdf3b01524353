import DemandPaging.Proofs.Effects.Returns
import DemandPaging.Proofs.Mapping.Views
import DemandPaging.Proofs.Pager.Adoption

/-!
# Pages that come to be tracked

A page that was just mapped comes to be tracked at the first free place of the
ledger, with another page evicted first if memory is full (`Newcomer`).  If its
address begins a page, leaves and places correspond again afterwards.  If it is
refused, the ledger is full or a transfer failed, and no page is lost.
-/

namespace DemandPaging

namespace Ledger

variable {ledger after : Ledger} {handle page other : Nat}
  {old : Tracked} {residence : Residence}

/-- A page is where some place has it. -/
theorem IsConsistent.residenceOf?_eq_some_iff_residenceAt?
    (consistent : ledger.IsConsistent) :
    ledger.residenceOf? page = some residence ↔
      residence.isFree = false ∧ residence.address = page ∧
        ∃ handle, ledger.residenceAt? handle = some residence := by
  rw [consistent.residenceOf?_eq_some_iff]
  constructor
  · rintro ⟨handle, tracked, place, tracks, rfl⟩
    exact ⟨tracks.1, tracks.2, handle, residenceAt?_of_place place⟩
  · rintro ⟨taken, same, handle, known⟩
    obtain ⟨tracked, place, rfl⟩ := Option.map_eq_some_iff.mp known
    exact ⟨handle, tracked, place, ⟨taken, same⟩, rfl⟩

end Ledger

/-- A page that settles is resident, and every other page is where it was. -/
theorem Settled.residenceOf? {ledger settled : Ledger} {handle page : Nat}
    {old : Tracked} (settles : Settled ledger handle page old settled)
    (consistent : ledger.IsConsistent) (other : Nat) :
    settled.residenceOf? other =
      if other = page then some (.resident page)
      else ledger.residenceOf? other := by
  have atHandle : settled.residenceAt? handle = some (.resident page) :=
    (settles.residence handle).trans (if_pos rfl)
  by_cases samePage : other = page
  · rw [if_pos samePage, samePage]
    exact settles.isConsistent.residenceOf?_eq_some_iff_residenceAt?.mpr
      ⟨rfl, rfl, handle, atHandle⟩
  rw [if_neg samePage]
  refine Option.ext fun residence => ?_
  rw [settles.isConsistent.residenceOf?_eq_some_iff_residenceAt?,
    consistent.residenceOf?_eq_some_iff_residenceAt?]
  refine and_congr_right fun taken => and_congr_right fun address =>
    exists_congr fun place => ?_
  rw [settles.residence]
  by_cases here : place = handle
  · -- Neither before nor afterwards does this place have another page.
    rw [if_pos here, here, Ledger.residenceAt?_of_place settles.place]
    refine iff_of_false ?_ ?_
    · rintro ⟨⟩
      exact samePage address.symm
    · rintro ⟨⟩
      obtain ⟨unused, _⟩ | ⟨slot, swapped⟩ := settles.origin
      · rw [unused] at taken
        cases taken
      · rw [swapped] at address
        exact samePage address.symm
  · rw [if_neg here]

namespace AddressSpace

variable {state expected : Hosted AddressSpace}
  {pending spare : Option Nat} {address page : Nat}

namespace Departure

section Books

variable (departure : Departure state spare)
  (consistent : state.focus.ledger.IsConsistent)
  (aligned : state.focus.ledger.IsAligned)

include consistent aligned

/-- The page that left is in its slot, and every other page is where it was. -/
theorem residenceOf?_after (other : Nat) :
    (pager departure.after).residenceOf? other =
      if other = departure.page then
        some (.swapped departure.page departure.slot)
      else (pager state).residenceOf? other := by
  classical
  have ranks :=
    (chances_of_select consistent aligned departure.selects).ranks
  have puts := @Ledger.puts_swapped _ _ _ departure.slot _
    ranks.isConsistent departure.place rfl
  have shown := puts.residenceOf? ranks.isConsistent other
  simp only [Tracked.tracks_resident, Tracked.tracks_swapped] at shown
  refine shown.trans ?_
  by_cases samePage : other = departure.page
  · rw [if_pos samePage, if_pos samePage]
  · rw [if_neg samePage, if_neg samePage, if_neg samePage]
    exact ranks.residenceOf? other

theorem isPagedOut_page :
    ((pager departure.after).entryAt departure.page).isValid = false ∧
      ((pager departure.after).entryAt departure.page).isPagedOut = true := by
  obtain ⟨entry, held, _⟩ := departure.entry_before consistent aligned
  have boundary := aligned _ _ (departure.handle_known consistent aligned)
  have shown := departure.get?_after consistent aligned departure.page
  rw [held, Option.map_some, if_pos boundary] at shown
  have entryAt : (pager departure.after).entryAt departure.page = _ :=
    PageTable.entryAt_of_get? shown
  rw [entryAt]
  exact ⟨rfl, rfl⟩

theorem differsAt :
    (pager state).DiffersAt (pager departure.after) departure.page where
  aligned := aligned _ _ (departure.handle_known consistent aligned)
  marks address elsewhere := by
    refine PageTable.sameButMarks_of_get?
      (departure.get?_after consistent aligned address) fun entry => ?_
    rw [if_neg elsewhere]
    exact sameButMarks_afterChances _ address entry
  residenceOf? other elsewhere := by
    rw [departure.residenceOf?_after consistent aligned, if_neg elsewhere]

end Books

/-- The slot that a page goes to was nobody's. -/
theorem isClaimed_after_iff (departure : Departure state none) (other : Nat) :
    state.focus.swap.isClaimed departure.slot = false ∧
      (departure.after.focus.swap.isClaimed other = true ↔
        other = departure.slot ∨
          state.focus.swap.isClaimed other = true) := by
  have claims : state.focus.swap.claim =
      (some departure.slot, departure.target) := departure.targets
  obtain ⟨isFree, _, taken⟩ := SwapSpace.claim_eq_some_iff.mp claims
  refine ⟨SwapSpace.isClaimed_of_free isFree, ?_⟩
  change departure.target.isClaimed other = true ↔ _
  rw [taken, SwapSpace.isClaimed_take_of_free isFree]
  by_cases here : other = departure.slot
  · simp [here]
  · simp [here]

theorem nearlyTracks (departure : Departure state none)
    (nearly : state.focus.NearlyTracks pending)
    (consistent : state.focus.ledger.IsConsistent) :
    departure.after.focus.NearlyTracks pending := by
  have aligned := nearly.isAligned consistent
  have known := residenceOf?_of_residenceAt? consistent
    (departure.handle_known consistent aligned)
  have residence : (pager departure.after).residenceOf? departure.page =
      some (.swapped departure.page departure.slot) :=
    (departure.residenceOf?_after consistent aligned _).trans (if_pos rfl)
  obtain ⟨notValid, isPagedOut⟩ :=
    departure.isPagedOut_page consistent aligned
  have unclaimed := (departure.isClaimed_after_iff 0).1
  have fresh : ∀ other, (pager state).residenceOf? other ≠
      some (.swapped other departure.slot) := by
    intro other held
    have claimed := (nearly.isClaimed_iff_residenceOf? consistent _).mpr
      ⟨other, held⟩
    cases unclaimed.symm.trans claimed
  refine nearly.of_differsAt consistent
    (departure.differsAt consistent aligned)
    (departure.isConsistent_after consistent aligned) ?_
    fun _ _ notPending => notPending
  exact {
    exclusive := fun isValid => absurd (notValid.symm.trans isValid) (by decide)
    isResident := fun isValid =>
      absurd (notValid.symm.trans isValid) (by decide)
    isMapped := fun resident => nomatch residence.symm.trans resident
    holdsSlot := fun _ => ⟨_, residence⟩
    isPagedOut := fun _ _ => isPagedOut
    isClaimed_iff := by
      intro slot
      rw [(departure.isClaimed_after_iff slot).2, residence,
        nearly.isClaimed_iff_residenceOf? consistent]
      refine or_congr (by simp [eq_comm]) ⟨?_, ?_⟩
      · rintro ⟨other, held⟩
        refine ⟨other, ?_, held⟩
        rintro rfl
        cases known.symm.trans held
      · rintro ⟨other, _, held⟩
        exact ⟨other, held⟩
    slot_new := by
      intro slot other _ held
      cases residence.symm.trans held
      exact fresh other
    residentCount_le := by
      have count := departure.residentCount_after consistent aligned
      have ceiling := nearly.residentCount_le
      rw [(departure.setting_after consistent aligned).maxResident]
      omega }

end Departure

/-- How there is room for one more page: there was room already, or another
page left. -/
inductive Vacancy (state : Hosted AddressSpace) :
    Hosted AddressSpace → Prop where
  | vacant (notFull : state.focus.ledger.isResidentFull = false) :
      Vacancy state state
  | vacated (full : state.focus.ledger.isResidentFull = true)
      (departure : Departure state none) : Vacancy state departure.after

/-- A page in memory that comes to be tracked under `address`. -/
structure Newcomer (state : Hosted AddressSpace) (address : Nat) where
  roomy : Hosted AddressSpace
  handle : Nat
  ledger : Ledger
  vacancy : Vacancy state roomy
  isValid : ((pager state).entryAt address).isValid = true
  reserves : roomy.focus.ledger.reserve = some handle
  settles : settle roomy.focus.config.policy roomy.focus.ledger handle
    address = .ok ledger

/-- The space once the page is tracked. -/
def Newcomer.after (newcomer : Newcomer state address) :
    Hosted AddressSpace :=
  withSpace newcomer.roomy fun space => { space with
    ledger := newcomer.ledger
    table := space.table.update address fun entry =>
      (entry.remove { pagedOut := true }).insert { valid := true } }

/-- Why it may end the run to track a page: it is not in memory, an eviction
ends the run, there is no place for the page, or it cannot settle there. -/
inductive TrackingEnds (state : Hosted AddressSpace) (address : Nat) :
    Fatal → Prop where
  | beyond {cause : Fatal} (outside : addressLimit ≤ address) :
      TrackingEnds state address cause
  | unmapped {cause : Fatal}
      (notValid : ((pager state).entryAt address).isValid = false) :
      TrackingEnds state address cause
  | evicting {cause : Fatal} (notFull : state.focus.ledger.isFull = false)
      (full : state.focus.ledger.isResidentFull = true)
      (ends : EvictionEnds state none cause) :
      TrackingEnds state address cause
  | homeless {cause : Fatal} {roomy : Hosted AddressSpace}
      (notFull : state.focus.ledger.isFull = false)
      (vacancy : Vacancy state roomy)
      (noPlace : roomy.focus.ledger.reserve = none) :
      TrackingEnds state address cause
  | unsettled {cause : Fatal} {roomy : Hosted AddressSpace} {handle : Nat}
      (notFull : state.focus.ledger.isFull = false)
      (vacancy : Vacancy state roomy)
      (reserves : roomy.focus.ledger.reserve = some handle)
      (refuses : settle roomy.focus.config.policy roomy.focus.ledger handle
        address = .error cause) : TrackingEnds state address cause

/-- If memory is full another page leaves first. -/
theorem resembles_makePlace (same : Resembles expected state)
    (notFull : expected.focus.ledger.isFull = false) :
    ((Action.runIf expected.focus.ledger.isResidentFull do
      let _ ← evict).run state).Meets (TrackingEnds expected address)
      (fun _ after => ∃ roomy, Vacancy expected roomy ∧ Resembles roomy after)
      (fun error after => ∃ candidate : Candidate expected none,
        (∃ failure, error = .swapTransfer failure) ∧
          Resembles candidate.refused after) := by
  refine Action.meets_runIf (fun full => ?_) fun hasRoom =>
    ⟨expected, .vacant (Bool.not_eq_true _ ▸ hasRoom), same⟩
  refine Action.meets_bind ((resembles_evictInto same none).mono_fatal
    fun _ ends => .evicting notFull full ends) ?_
  rintro _ after ⟨departure, _, left⟩
  exact ⟨_, .vacated full departure, left⟩

/-- Where there is room the page gets a place that is not in use, and settles
there. -/
theorem resembles_settleNewcomer {roomy : Hosted AddressSpace}
    {failed : PagingError → Hosted AddressSpace → Prop}
    (notFull : expected.focus.ledger.isFull = false)
    (isValid : ((pager expected).entryAt address).isValid = true)
    (vacancy : Vacancy expected roomy) (same : Resembles roomy state) :
    (Action.run (do
      let handle ← onLedger (Action.read Ledger.reserve)
      settleResident
        (← Action.orCrash (.enrollWithoutPlace address) handle) address
      updateEntry address fun entry =>
        (entry.remove { pagedOut := true }).insert { valid := true })
      state).Meets (TrackingEnds expected address)
      (fun _ after => ∃ newcomer : Newcomer expected address,
        Resembles newcomer.after after) failed := by
  have reserves : (onLedger (Action.read Ledger.reserve)).run state =
      .done roomy.focus.ledger.reserve state := by
    rw [← same.focus]
    rfl
  rw [Action.run_bind_of_done reserves]
  cases reserved : roomy.focus.ledger.reserve with
  | none => exact .homeless notFull vacancy reserved
  | some handle =>
      rw [Action.run_bind_of_done (Action.run_orCrash_some _ _ _)]
      refine Action.meets_bind (resembles_settleResident same
        fun _ refuses => .unsettled notFull vacancy reserved refuses) ?_
      rintro _ settled ⟨ledger, settles, settling⟩
      refine (resembles_updateEntry settling _).mono_done
        fun _ after updated => ?_
      exact ⟨⟨roomy, handle, ledger, vacancy, isValid, reserved, settles⟩,
        updated.focus, updated.pools⟩

/-- What it leaves that a page comes to be tracked or is refused, and why it may
end the run. -/
theorem resembles_track_or_ends (same : Resembles expected state) :
    ((track address).run state).Meets (TrackingEnds expected address)
      (fun _ after => ∃ newcomer : Newcomer expected address,
        Resembles newcomer.after after)
      (fun error after =>
        (error = .tooManyPages expected.focus.ledger.capacity ∧
          expected.focus.ledger.isFull = true ∧ Resembles expected after) ∨
        ∃ candidate : Candidate expected none,
          (∃ failure, error = .swapTransfer failure) ∧
            Resembles candidate.refused after) := by
  have sameEntry : (pager state).entryAt address =
      (pager expected).entryAt address := by
    rw [Pager.entryAt, pager, same.focus]
    rfl
  rw [track]
  by_cases inside : address < addressLimit
  case neg =>
    rw [Action.run_bind_of_fatal
      (run_lookup_of_le (Nat.le_of_not_lt inside))]
    exact .beyond (Nat.le_of_not_lt inside)
  rw [Action.run_bind_of_done (run_lookup_of_lt inside)]
  cases found : state.focus.table.get? address with
  | none =>
      have isEmpty : (pager state).entryAt address = Entry.empty :=
        PageTable.entryAt_of_get?_none found
      refine .unmapped ?_
      rw [← sameEntry, isEmpty]
      rfl
  | some entry =>
      have held : (pager expected).entryAt address = entry :=
        sameEntry.symm.trans (PageTable.entryAt_of_get? found)
      rw [Action.run_bind_of_done (Action.run_orCrash_some _ _ _)]
      refine Action.meets_crashUnless_bind (fun notValid => ?_)
        fun isValid => ?_
      · refine .unmapped ?_
        rw [held]
        exact Bool.eq_false_iff.mpr notValid
      have isThere : ((pager expected).entryAt address).isValid = true := by
        rwa [held]
      rw [Action.run_bind_of_done (run_look _), same.focus]
      refine Action.meets_failUnless_bind (fun notRoomy => ?_)
        fun hasRoom => ?_
      · refine .inl ⟨rfl, ?_, same⟩
        rwa [Bool.not_eq_true', Bool.not_eq_false] at notRoomy
      have notFull : expected.focus.ledger.isFull = false :=
        (Bool.not_eq_true' _).mp hasRoom
      refine Action.meets_bind ((resembles_makePlace same notFull).mono_failed
        fun _ _ refused => .inr refused) ?_
      rintro _ middle ⟨roomy, vacancy, leaves⟩
      exact resembles_settleNewcomer notFull isThere vacancy leaves

/-- What it leaves that a page comes to be tracked, or is refused. -/
theorem resembles_track (same : Resembles expected state) :
    ((track address).run state).Meets (fun _ => True)
      (fun _ after => ∃ newcomer : Newcomer expected address,
        Resembles newcomer.after after)
      (fun error after =>
        (error = .tooManyPages expected.focus.ledger.capacity ∧
          Resembles expected after) ∨
        ∃ candidate : Candidate expected none,
          (∃ failure, error = .swapTransfer failure) ∧
            Resembles candidate.refused after) :=
  ((resembles_track_or_ends same).mono_failed
    fun _ _ refused => refused.imp_left fun isFull =>
      ⟨isFull.1, isFull.2.2⟩).mono_fatal fun _ _ => trivial

/-- Room for a page is made without harm to the others. -/
theorem Vacancy.nearlyTracks {roomy : Hosted AddressSpace}
    (vacancy : Vacancy state roomy)
    (nearly : state.focus.NearlyTracks pending)
    (consistent : state.focus.ledger.IsConsistent) :
    roomy.focus.NearlyTracks pending ∧
      roomy.focus.ledger.IsConsistent := by
  cases vacancy with
  | vacant _ => exact ⟨nearly, consistent⟩
  | vacated _ departure =>
      exact ⟨departure.nearlyTracks nearly consistent,
        departure.isConsistent_after consistent (nearly.isAligned consistent)⟩

/-- A page that is not tracked is not the one that left. -/
theorem Vacancy.isValid {roomy : Hosted AddressSpace}
    (vacancy : Vacancy state roomy)
    (nearly : state.focus.NearlyTracks pending)
    (consistent : state.focus.ledger.IsConsistent)
    (aligned : Address.pageBase page = page)
    (isValid : ((pager state).entryAt page).isValid = true)
    (untracked : (pager roomy).residenceOf? page = none) :
    ((pager roomy).entryAt page).isValid = true := by
  cases vacancy with
  | vacant _ => exact isValid
  | vacated _ departure =>
      have boundary := nearly.isAligned consistent
      have elsewhere : page ≠ departure.page := by
        rintro rfl
        rw [departure.residenceOf?_after consistent boundary,
          if_pos rfl] at untracked
        cases untracked
      rw [← aligned] at elsewhere
      rw [((departure.differsAt consistent boundary).marks page
        elsewhere).isValid]
      exact isValid

namespace Newcomer

variable (newcomer : Newcomer state address)

/-- The newcomer has a place that was free. -/
theorem settled
    (consistent : newcomer.roomy.focus.ledger.IsConsistent) :
    ∃ old, old.residence = .free ∧
      newcomer.roomy.focus.ledger.find? address = none ∧
      Settled newcomer.roomy.focus.ledger newcomer.handle address old
        newcomer.ledger := by
  obtain ⟨old, settles⟩ := settled_of_settle consistent newcomer.settles
  obtain ⟨⟨page, place, isFree⟩, _⟩ :=
    Ledger.reserve_eq_some_iff.mp newcomer.reserves
  cases place.symm.trans settles.place
  obtain ⟨unused, missing⟩ | ⟨slot, swapped⟩ := settles.origin
  · exact ⟨old, unused, missing, settles⟩
  · rw [Tracked.isFree, swapped] at isFree
    cases isFree

include newcomer in
theorem residenceOf?_before (consistent : state.focus.ledger.IsConsistent)
    (aligned : state.focus.ledger.IsAligned) :
    (pager state).residenceOf? address = none := by
  obtain ⟨roomy, handle, ledger, vacancy, isValid, reserves, settles⟩ :=
    newcomer
  cases vacancy with
  | vacant notFull =>
      obtain ⟨_, _, missing, _⟩ :=
        Newcomer.settled ⟨_, _, _, .vacant notFull, isValid, reserves, settles⟩
          consistent
      exact consistent.residenceOf?_eq_none_iff.mpr missing
  | vacated full departure =>
      have isConsistent := departure.isConsistent_after consistent aligned
      obtain ⟨_, _, missing, _⟩ :=
        Newcomer.settled ⟨_, _, _, .vacated full departure, isValid, reserves,
          settles⟩ isConsistent
      have untracked := isConsistent.residenceOf?_eq_none_iff.mpr missing
      have shown := departure.residenceOf?_after consistent aligned address
      by_cases here : address = departure.page
      · rw [if_pos here] at shown
        cases shown.symm.trans untracked
      · rw [if_neg here] at shown
        exact shown.symm.trans untracked

theorem residenceAt?_after (nearly : state.focus.NearlyTracks pending)
    (consistent : state.focus.ledger.IsConsistent) :
    newcomer.after.focus.ledger.residenceAt? newcomer.handle =
      some (.resident address) := by
  obtain ⟨_, _, _, settles⟩ :=
    newcomer.settled (newcomer.vacancy.nearlyTracks nearly consistent).2
  exact (settles.residence _).trans (if_pos rfl)

theorem isConsistent_after (nearly : state.focus.NearlyTracks pending)
    (consistent : state.focus.ledger.IsConsistent) :
    newcomer.after.focus.ledger.IsConsistent := by
  obtain ⟨_, _, _, settles⟩ :=
    newcomer.settled (newcomer.vacancy.nearlyTracks nearly consistent).2
  exact settles.isConsistent

variable (newcomer : Newcomer state page)
  (nearly : state.focus.NearlyTracks pending)
  (consistent : state.focus.ledger.IsConsistent)
  (aligned : Address.pageBase page = page)

include nearly consistent aligned

omit aligned in
theorem untracked :
    (pager newcomer.roomy).residenceOf? page = none := by
  have isConsistent := (newcomer.vacancy.nearlyTracks nearly consistent).2
  obtain ⟨_, _, missing, _⟩ := newcomer.settled isConsistent
  exact isConsistent.residenceOf?_eq_none_iff.mpr missing

theorem isValid_roomy :
    ((pager newcomer.roomy).entryAt page).isValid = true :=
  newcomer.vacancy.isValid nearly consistent aligned newcomer.isValid
    (newcomer.untracked nearly consistent)

theorem entryAt_after (other : Nat) :
    (pager newcomer.after).entryAt other =
      (pager newcomer.roomy).entryAt other := by
  have isValid := newcomer.isValid_roomy nearly consistent aligned
  have notPagedOut := (newcomer.vacancy.nearlyTracks nearly
    consistent).1.isPagedOut_eq_false isValid
  refine (Pager.entryAt_updated _ aligned
    (Pager.isPresent_of_isValid isValid) other).trans ?_
  by_cases here : Address.pageBase other = page
  · rw [if_pos here, Entry.insert_remove_of_isValid isValid notPagedOut]
    exact (Pager.entryAt_of_pageBase_eq here).symm
  · rw [if_neg here]

omit aligned in
theorem residenceOf?_after (other : Nat) :
    (pager newcomer.after).residenceOf? other =
      if other = page then some (.resident page)
      else (pager newcomer.roomy).residenceOf? other := by
  have isConsistent := (newcomer.vacancy.nearlyTracks nearly consistent).2
  obtain ⟨_, _, _, settles⟩ := newcomer.settled isConsistent
  exact settles.residenceOf? isConsistent other

theorem differsAt :
    (pager newcomer.roomy).DiffersAt (pager newcomer.after) page where
  aligned := aligned
  marks other _ := by
    rw [newcomer.entryAt_after nearly consistent aligned]
    exact .refl _
  residenceOf? other elsewhere := by
    rw [newcomer.residenceOf?_after nearly consistent, if_neg elsewhere]

/-- If its address begins a page, the newcomer was the pending page, and none is
pending any more. -/
theorem nearlyTracks : newcomer.after.focus.NearlyTracks none := by
  obtain ⟨nearlyRoomy, consistentRoomy⟩ :=
    newcomer.vacancy.nearlyTracks nearly consistent
  obtain ⟨_, _, _, settles⟩ := newcomer.settled consistentRoomy
  have untracked := newcomer.untracked nearly consistent
  have isValid := newcomer.isValid_roomy nearly consistent aligned
  have notPagedOut := nearlyRoomy.isPagedOut_eq_false isValid
  have isPending : pending = some page := by
    by_contra notPending
    have known := nearlyRoomy.residenceOf?_of_isValid consistentRoomy aligned
      isValid notPending
    cases untracked.symm.trans known
  have sameEntry := newcomer.entryAt_after nearly consistent aligned page
  have atPage : (pager newcomer.after).residenceOf? page =
      some (.resident page) :=
    (newcomer.residenceOf?_after nearly consistent page).trans (if_pos rfl)
  refine nearlyRoomy.of_differsAt consistentRoomy
    (newcomer.differsAt nearly consistent aligned)
    settles.isConsistent ?_ fun other elsewhere _ => ?_
  · exact {
      exclusive := by
        rw [sameEntry]
        exact fun _ => notPagedOut
      isResident := fun _ _ => atPage
      isMapped := by
        rw [sameEntry]
        exact fun _ => isValid
      holdsSlot := by
        rw [sameEntry]
        exact fun isPagedOut => absurd (notPagedOut.symm.trans isPagedOut)
          Bool.false_ne_true
      isPagedOut := fun _ swapped => nomatch atPage.symm.trans swapped
      isClaimed_iff := by
        intro slot
        refine (nearlyRoomy.isClaimed_iff_residenceOf? consistentRoomy
          slot).trans ⟨?_, ?_⟩
        · rintro ⟨other, held⟩
          refine .inr ⟨other, ?_, held⟩
          rintro rfl
          cases untracked.symm.trans held
        · rintro (swapped | ⟨other, _, held⟩)
          · cases atPage.symm.trans swapped
          · exact ⟨other, held⟩
      slot_new := fun _ _ _ swapped => nomatch atPage.symm.trans swapped
      residentCount_le := by
        have room := settles.room
        change newcomer.ledger.residentCount ≤ newcomer.ledger.maxResident
        rw [settles.residentCount, settles.maxResident]
        exact room }
  · rw [isPending]
    rintro ⟨⟩
    exact elsewhere rfl

end Newcomer

end AddressSpace

end DemandPaging
