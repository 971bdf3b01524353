import DemandPaging.Proofs.Growth.Receding
import DemandPaging.Proofs.Mapping.Tracking

/-!
# What may end the run while a page is pending

A page that was just mapped is not tracked yet, so the space is not quite
well-formed while another page is evicted to make room for it.  It is still
sound enough for the eviction: there is a page that can leave, and a slot for
it.  So the run ends only if the clock of the queue runs out.
-/

namespace DemandPaging

namespace AddressSpace

variable {state roomy : Hosted AddressSpace} {pending : Option Nat}
  {page time more : Nat} {cause : Fatal}

theorem RunsLate.mono (late : RunsLate state time cause)
    (le : time ≤ more) : RunsLate state more cause := by
  obtain ⟨rfl, policy, positive, beyond⟩ := late
  exact ⟨rfl, policy, Nat.lt_of_lt_of_le positive le,
    Nat.le_trans beyond (Nat.add_le_add_left le _)⟩

namespace NearlyFormed

variable (formed : NearlyFormed pending state)
  (untracked : ∀ page, pending = some page →
    (pager state).residenceOf? page = none)

include formed untracked

/-- With a swap file that is long enough, the parts of the space agree but for
the pending page. -/
theorem sound_backed : (pager (backed state)).Sound pending where
  fits := { formed.houses.fits with }
  ledger := formed.ledger
  swap := formed.houses.swap
  frames := formed.houses.frames
  page_lt := formed.houses.page_lt
  resident _ address isValid notPending := by
    refine formed.nearly.residenceOf?_of_isValid formed.ledger
      (Address.pageBase_pageBase address) ?_ notPending
    rw [Pager.entryAt_pageBase]
    exact isValid
  swapped address isPagedOut _ := by
    refine formed.nearly.residenceOf?_of_isPagedOut formed.ledger
      (Address.pageBase_pageBase address) ?_
    rw [Pager.entryAt_pageBase]
    exact isPagedOut
  tracked page residence known := by
    have notPending : pending ≠ some page := fun isPending =>
      nomatch (untracked page isPending).symm.trans known
    obtain ⟨taken, located⟩ := formed.ledger.address_of_residenceOf? known
    cases residence with
    | free => cases taken
    | resident other =>
        obtain rfl : other = page := located
        obtain ⟨aligned, isValid⟩ :=
          formed.nearly.isValid_of_resident formed.ledger known
        exact ⟨formed.isPaging, aligned, notPending, isValid,
          formed.nearly.isPagedOut_eq_false isValid⟩
    | swapped other slot =>
        obtain rfl : other = page := located
        obtain ⟨aligned, isPagedOut⟩ :=
          formed.nearly.isPagedOut_of_swapped formed.ledger known
        refine ⟨formed.isPaging, aligned, notPending, ?_, isPagedOut⟩
        refine Bool.eq_false_iff.mpr fun isValid => ?_
        cases (formed.nearly.isPagedOut_eq_false isValid).symm.trans isPagedOut
  claimed := formed.nearly.isClaimed_iff_residenceOf? formed.ledger
  slot_inj _ _ _ := formed.nearly.eq_of_swapped formed.ledger
  stored page slot known := by
    have claimed := (formed.nearly.isClaimed_iff_residenceOf? formed.ledger
      slot).mpr ⟨page, known⟩
    exact Option.isSome_iff_exists.mp (isSome_slotBytes?_backed claimed)
  framed := formed.houses.framed
  frame_inj := formed.houses.frame_inj

theorem residentCount_le_turns :
    state.focus.ledger.residentCount ≤ (pager state).turns :=
  (formed.sound_backed untracked).residentCount_le_turns
    formed.nearly.residentCount_le

/-- Where memory is full but the ledger is not, there is a page that may leave,
and a slot for it. -/
theorem occupied_of_full (notFull : state.focus.ledger.isFull = false)
    (full : state.focus.ledger.isResidentFull = true) :
    0 < state.focus.ledger.residentCount ∧
      state.focus.swap.freeSlots ≠ 0 := by
  have atCeiling : state.focus.ledger.residentCount =
      state.focus.ledger.maxResident := beq_iff_eq.mp full
  have ceiling : state.focus.ledger.maxResident =
      state.focus.config.maxResident := formed.houses.fits.maxResident_eq
  refine ⟨?_, (formed.sound_backed untracked).freeSlots_ne_zero atCeiling
    notFull⟩
  rw [atCeiling, ceiling]
  exact formed.houses.fits.maxResident_pos formed.isPaging

end NearlyFormed

/-- There is room in memory for one more page, at the cost of the eviction of
one if `evicted` is one. -/
structure Vacates (before after : Hosted AddressSpace) (evicted : Nat) :
    Prop where
  setting : SameSetting before after
  isConsistent : after.focus.ledger.IsConsistent
  recedes : before.focus.ledger.Recedes after.focus.ledger
  room : after.focus.ledger.residentCount < after.focus.ledger.maxResident
  residentCount : after.focus.ledger.residentCount + evicted =
    before.focus.ledger.residentCount
  swappedCount : after.focus.ledger.swappedCount =
    before.focus.ledger.swappedCount + evicted
  generation_le : after.focus.ledger.generation ≤
    before.focus.ledger.generation + before.focus.ledger.residentCount
  evictions : after.focus.stats.evictions =
    before.focus.stats.evictions + evicted
  freeCount : (after.host.pool before.focus.pool).freeCount =
    (before.host.pool before.focus.pool).freeCount + evicted

theorem Vacancy.vacates (vacancy : Vacancy state roomy)
    (formed : NearlyFormed pending state) :
    Vacates state roomy state.focus.ledger.isResidentFull.toNat := by
  have ceiling := formed.nearly.residentCount_le
  cases vacancy with
  | vacant notFull =>
      have different := beq_eq_false_iff_ne.mp notFull
      rw [notFull]
      exact {
        setting := .refl state
        isConsistent := formed.ledger
        recedes := .refl _
        room := Nat.lt_of_le_of_ne ceiling different
        residentCount := rfl
        swappedCount := rfl
        generation_le := Nat.le_add_right _ _
        evictions := rfl
        freeCount := rfl }
  | vacated full departure =>
      have aligned := formed.isAligned
      have evicts := departure.evicts formed.ledger aligned
      have chances :=
        chances_of_select formed.ledger aligned departure.selects
      have count := evicts.residentCount
      rw [full]
      exact {
        setting := evicts.setting
        isConsistent := departure.isConsistent_after formed.ledger aligned
        recedes := by
          intro handle
          rw [Ledger.RecedesAt, evicts.residence]
          by_cases here : handle = departure.victim.handle
          · rw [if_pos here, here]
            exact .inr ⟨_, _, evicts.chooses.resident, rfl⟩
          · rw [if_neg here]
            exact .inl rfl
        room := by
          rw [evicts.setting.maxResident]
          omega
        residentCount := count
        swappedCount := evicts.swappedCount
        generation_le := by
          rw [evicts.generation]
          exact Nat.add_le_add_left (chances.length_le formed.ledger) _
        evictions := congrArg PagingStats.evictions evicts.stats
        freeCount := evicts.freeCount }

theorem Vacates.isFull {evicted : Nat}
    (vacates : Vacates state roomy evicted) :
    roomy.focus.ledger.isFull = state.focus.ledger.isFull := by
  have resident := vacates.residentCount
  have swapped := vacates.swappedCount
  have tracked : roomy.focus.ledger.trackedCount =
      state.focus.ledger.trackedCount := by
    rw [Ledger.trackedCount, Ledger.trackedCount]
    omega
  rw [Ledger.isFull, Ledger.isFull, tracked, vacates.setting.capacity]

/-- To track the pending page ends the run only if the clock runs out. -/
theorem TrackingEnds.runsLate (ends : TrackingEnds state page cause)
    (formed : NearlyFormed (some page) state)
    (untracked : (pager state).residenceOf? page = none)
    (isValid : ((pager state).entryAt page).isValid = true) :
    RunsLate state (state.focus.ledger.residentCount + 1) cause := by
  have onlyHere : ∀ other, some page = some other →
      (pager state).residenceOf? other = none := by
    rintro _ ⟨⟩
    exact untracked
  cases ends with
  | beyond outside =>
      have inside :=
        formed.houses.page_lt page (Pager.isPresent_of_isValid isValid)
      exact absurd inside (Nat.not_lt.mpr outside)
  | unmapped notValid => cases notValid.symm.trans isValid
  | evicting notFull full ends =>
      obtain ⟨occupied, room⟩ :=
        formed.occupied_of_full onlyHere notFull full
      obtain late | ⟨_, _, isSome, _⟩ := runsLate_of_evictionEnds_of_sound
        (formed.sound_backed onlyHere) formed.isPaging occupied
          (fun _ => room) ends
      · exact late.mono (Nat.le_succ _)
      · cases isSome
  | homeless notFull vacancy noPlace =>
      have vacates := vacancy.vacates formed
      obtain ⟨handle, _, reserves, _⟩ :=
        vacates.isConsistent.reserve_of_not_isFull
          (vacates.isFull.trans notFull)
      cases noPlace.symm.trans reserves
  | @unsettled roomy handle notFull vacancy reserves refuses =>
      have vacates := vacancy.vacates formed
      obtain ⟨⟨old, place, isFree⟩, _⟩ :=
        Ledger.reserve_eq_some_iff.mp reserves
      have unused := Residence.eq_free_of_isFree isFree
      have missing : roomy.focus.ledger.find? page = none := by
        rw [formed.ledger.find?_of_recedes vacates.isConsistent vacates.recedes]
        exact formed.ledger.residenceOf?_eq_none_iff.mp untracked
      obtain ⟨policy, late, overflows⟩ | ⟨_, settles⟩ :=
        settle_cases roomy.focus.config.policy vacates.isConsistent vacates.room
          place (.inl ⟨unused, missing⟩)
      · rw [vacates.setting.config] at policy
        cases overflows.symm.trans refuses
        have clock := vacates.generation_le
        refine ⟨rfl, policy, Nat.succ_pos _, ?_⟩
        omega
      · cases refuses.symm.trans settles

end AddressSpace

end DemandPaging
