import DemandPaging.Proofs.AddressSpace.Fork
import DemandPaging.Proofs.AddressSpace.Tidy
import DemandPaging.Proofs.Effects.Departures

/-!
# What well-formed spaces under paging offer

A space may be well-formed although its swap file is too short for the slots
that it claims: a transfer from there fails like any other.  What a policy
finds does not depend on the file, so it may be read off a space with a file
that is long enough (`backed`).  It follows that an eviction from a well-formed
space ends the run only if the clock of the queue runs out.
-/

namespace DemandPaging

namespace AddressSpace

variable {state : Hosted AddressSpace} {page slot address : Nat}
  {entry : Entry} {spare : Option Nat} {cause : Fatal}

theorem IsTidy.wellFormed {size : Nat} (tidy : IsTidy size state) :
    WellFormed state :=
  InOrder.wellFormed
    { served := tidy.served
      sound := tidy.sound
      strict := tidy.strict
      ceiling := tidy.ceiling
      generation_le := Nat.le_refl _
      spans := by
        rw [logicalPage?_eq_pager]
        exact tidy.spans }

/-- Every page in swap can be read back. -/
def IsStored (state : Hosted AddressSpace) : Prop :=
  ∀ page slot, state.focus.HoldsSlot page slot →
    (state.focus.slotBytes? slot).isSome = true

namespace IsFormed

theorem mem_leaves (isPresent :
    ((pager state).entryAt address).isPresent = true) :
    (Address.pageBase address, (pager state).entryAt address) ∈
      state.focus.table.leaves :=
  PageTable.mem_leaves_iff_entryAt.mpr ⟨Address.pageBase_pageBase address,
    (pager state).entryAt_pageBase address, isPresent⟩

variable (formed : IsFormed state)

include formed

theorem lt_addressLimit
    (isPresent : ((pager state).entryAt address).isPresent = true) :
    address < addressLimit := by
  have base_lt := formed.page_lt _ _ (mem_leaves isPresent)
  have inPage := Address.lt_pageBase_add address
  simp only [Address.pageBase, pageSize, addressLimit] at *
  omega

theorem exclusive
    (isValid : ((pager state).entryAt address).isValid = true) :
    ((pager state).entryAt address).isPagedOut = false := by
  rw [← Bool.not_eq_true]
  exact fun isPagedOut => formed.agrees.exclusive _ _
    (mem_leaves (Pager.isPresent_of_isValid isValid)) ⟨isValid, isPagedOut⟩

variable (isPaging : state.focus.isPaging = true)

include isPaging

theorem residenceOf?_of_isValid
    (isValid : ((pager state).entryAt address).isValid = true) :
    (pager state).residenceOf? (Address.pageBase address) =
      some (.resident (Address.pageBase address)) := by
  refine formed.isCopyable.resident isPaging _
    (Address.pageBase_pageBase address) ?_ ?_
  · rwa [Pager.entryAt_pageBase]
  · rw [Pager.entryAt_pageBase]
    exact formed.exclusive isValid

/-- A page that is tracked begins a page and is where its entry says. -/
theorem tracked {residence : Residence}
    (known : (pager state).residenceOf? page = some residence) :
    Address.pageBase page = page ∧
      ((pager state).entryAt page).isValid = residence.isResident ∧
        ((pager state).entryAt page).isPagedOut = residence.isSwapped := by
  have tracks := formed.agrees.tracks isPaging
  obtain rfl | ⟨slot, rfl⟩ := formed.ledger.resident_or_swapped known
  · obtain ⟨aligned, isValid⟩ := (isMapped_iff state page).mp
      ((tracks.isMapped_iff page).mpr
        ((isResident_iff formed.ledger).mpr known))
    exact ⟨aligned, isValid, formed.exclusive isValid⟩
  · obtain ⟨aligned, isPagedOut⟩ := (isPagedOut_iff state page).mp
      ((tracks.isPagedOut_iff page).mpr
        ⟨slot, (holdsSlot_iff formed.ledger).mpr known⟩)
    exact ⟨aligned, Entry.isValid_of_isPagedOut formed.exclusive isPagedOut,
      isPagedOut⟩

theorem isAligned : state.focus.ledger.IsAligned := fun _ _ known =>
  (formed.tracked isPaging
    (residenceOf?_of_residenceAt? formed.ledger known)).1

theorem swapped
    (isPagedOut : ((pager state).entryAt address).isPagedOut = true) :
    ∃ slot, (pager state).residenceOf? (Address.pageBase address) =
      some (.swapped (Address.pageBase address) slot) := by
  have tracks := formed.agrees.tracks isPaging
  obtain ⟨slot, holds⟩ := (tracks.isPagedOut_iff _).mp
    ((isPagedOut_iff state _).mpr ⟨Address.pageBase_pageBase address,
      by rwa [Pager.entryAt_pageBase]⟩)
  exact ⟨slot, (holdsSlot_iff formed.ledger).mp holds⟩

theorem sound (stored : IsStored state) : (pager state).Sound none where
  fits := formed.fits
  ledger := formed.ledger
  swap := formed.swap
  frames := formed.pool
  page_lt _ isPresent := formed.lt_addressLimit isPresent
  resident _ _ isValid _ := formed.residenceOf?_of_isValid isPaging isValid
  swapped _ isPagedOut _ := formed.swapped isPaging isPagedOut
  tracked _ _ known := by
    obtain ⟨aligned, agrees⟩ := formed.tracked isPaging known
    exact ⟨isPaging, aligned, nofun, agrees⟩
  claimed slot := by
    have tracks := formed.agrees.tracks isPaging
    simp only [← holdsSlot_iff formed.ledger]
    exact tracks.isClaimed_iff slot
  slot_inj _ _ _ first second :=
    (formed.agrees.tracks isPaging).slot_inj
      ((holdsSlot_iff formed.ledger).mpr first)
      ((holdsSlot_iff formed.ledger).mpr second)
  stored page slot known := Option.isSome_iff_exists.mp
    (stored page slot ((holdsSlot_iff formed.ledger).mpr known))
  framed := formed.isCopyable.framed
  frame_inj _ _ firstValid secondValid same :=
    formed.frame_inj _ _ _ _
      (mem_leaves (Pager.isPresent_of_isValid firstValid))
      (mem_leaves (Pager.isPresent_of_isValid secondValid))
      firstValid secondValid same

end IsFormed

/-- It does not matter which frames there are, as long as the pages in memory
keep theirs. -/
theorem IsFormed.withFrames {frames : FramePool}
    (formed : IsFormed state) (held : (pager state).HeldBy frames) :
    IsFormed (withFrames state frames) := by
  have holder := pool_withFrames formed.pool_lt frames
  exact { formed with
    pool := by
      change ((AddressSpace.withFrames state frames).host.pool
        state.focus.pool).IsConsistent
      rw [holder]
      exact held.isConsistent
    pool_lt := by
      change _ < (state.host.pools.setIfInBounds _ _).size
      rw [Array.size_setIfInBounds]
      exact formed.pool_lt
    total_le := by
      change ((AddressSpace.withFrames state frames).host.pool
        state.focus.pool).total ≤ _
      rw [holder, held.total]
      exact formed.total_le
    framed := by
      intro page entry member isValid
      obtain ⟨contents, read⟩ := formed.framed page entry member isValid
      obtain ⟨_, rfl, _⟩ := PageTable.mem_leaves_iff_entryAt.mp member
      refine ⟨contents, ?_⟩
      change ((AddressSpace.withFrames state frames).host.pool
        state.focus.pool).read _ = _
      rw [holder, ← FramePool.contents?_eq_some_iff]
      exact (held.owned page isValid).trans
        (FramePool.contents?_eq_some_iff.mpr read) }

/-- The space with a swap file that has room for every slot. -/
def backed (state : Hosted AddressSpace) : Hosted AddressSpace :=
  withSpace state fun space => { space with
    swap := { space.swap with
      file := ⟨Array.replicate (space.swap.capacity * pageSize) 0⟩ } }

theorem IsFormed.backed (formed : IsFormed state) :
    IsFormed (backed state) :=
  { formed with
    agrees :=
      { formed.agrees with
        tracks := fun isPaging =>
          { formed.agrees.tracks isPaging with } } }

theorem isSome_slotBytes?_backed
    (claimed : state.focus.swap.isClaimed slot = true) :
    ((backed state).focus.slotBytes? slot).isSome = true := by
  have inside := SwapSpace.lt_capacity_of_isClaimed claimed
  have fits : slot * pageSize + pageSize ≤
      state.focus.swap.capacity * pageSize := by
    simp only [pageSize]
    omega
  rw [slotBytes?, SwapFile.read, if_pos]
  · rfl
  · exact fits.trans_eq Array.size_replicate.symm

theorem isStored_backed (formed : IsFormed state)
    (isPaging : state.focus.isPaging = true) : IsStored (backed state) :=
  fun page slot holds => isSome_slotBytes?_backed
    (((formed.agrees.tracks isPaging).isClaimed_iff slot).mpr ⟨page, holds⟩)

section Chosen

variable {pending : Option Nat}
  (sound : (pager (backed state)).Sound pending)
  (isPaging : state.focus.isPaging = true)

include sound isPaging

/-- The policy chooses a resident page, unless the clock runs out. -/
theorem select_cases_of_sound
    (occupied : 0 < state.focus.ledger.residentCount) :
    (∃ cause, state.focus.config.policy.select state.focus.ledger
        state.focus.table = .error cause ∧
      RunsLate state state.focus.ledger.residentCount cause) ∨
      ∃ victim ledger table, state.focus.config.policy.select
        state.focus.ledger state.focus.table = .ok (victim, ledger, table) := by
  have length : state.focus.ledger.residents.length =
      state.focus.ledger.residentCount := sound.ledger.length_residents
  obtain ⟨cause, refused, reason⟩ | ⟨victim, ledger, table, chosen, _⟩ :=
    Pager.select_cases sound state.focus.config.policy
  · refine .inl ⟨cause, refused, ?_⟩
    rcases reason with isEmpty | isOff | ⟨rfl, policy, late⟩
    · have isNone : state.focus.ledger.residents = [] := isEmpty
      rw [isNone] at length
      exact absurd length (Nat.ne_of_lt occupied)
    · cases isOff.symm.trans (sound.fits.isPaging_policy isPaging)
    · refine ⟨rfl, policy, occupied, ?_⟩
      rw [← length]
      exact late
  · exact .inr ⟨victim, ledger, table, chosen⟩

omit isPaging in
/-- The page that the policy chose can leave memory. -/
theorem canLeave_of_sound {victim : Victim} {ledger : Ledger}
    {table : PageTable} {recency : Nat}
    (selects : state.focus.config.policy.select state.focus.ledger
      state.focus.table = .ok (victim, ledger, table))
    (place : ledger.places[victim.handle]? =
      some ⟨.resident page, recency⟩) :
    ∃ entry contents, CanLeave (state.host.pool state.focus.pool) table page
      entry contents := by
  have consistent : state.focus.ledger.IsConsistent := sound.ledger
  have aligned : state.focus.ledger.IsAligned := fun _ page known =>
    (sound.tracked page _ (residenceOf?_of_residenceAt? consistent known)).2.1
  have chances := chances_of_select consistent aligned selects
  have known := Ledger.residenceAt?_of_place place
  rw [chances.residence] at known
  obtain ⟨_, _, _, isValid, notPagedOut⟩ := sound.tracked page _
    (residenceOf?_of_residenceAt? consistent known)
  have isPresent := Pager.isPresent_of_isValid isValid
  have found := PageTable.get?_of_isPresent isPresent
  obtain ⟨contents, lent⟩ := sound.framed page isValid
  have same := sameButMarks_afterChances victim.spared page
    ((pager state).entryAt page)
  refine ⟨afterChances victim.spared page ((pager state).entryAt page),
    contents, sound.page_lt page isPresent, ?_, same.isValid.trans isValid,
    same.isPagedOut.trans notPagedOut, ?_⟩
  · rw [chances.entry]
    exact congrArg (Option.map _) found
  · rw [same.address]
    exact lent

/-- An eviction ends the run only if the clock runs out or the slot is beyond
what a word can address. -/
theorem runsLate_of_evictionEnds_of_sound
    (occupied : 0 < state.focus.ledger.residentCount)
    (room : spare = none → state.focus.swap.freeSlots ≠ 0)
    (ends : EvictionEnds state spare cause) :
    RunsLate state state.focus.ledger.residentCount cause ∨
      cause = .overflow ∧ ∃ slot, spare = some slot ∧
        Word.limit ≤ slot * pageSize := by
  have slots : state.focus.swap.IsConsistent := sound.swap
  cases ends with
  | full isNone taken =>
      obtain ⟨slot, _, claims⟩ :=
        SwapSpace.claim_of_freeSlots slots (room isNone)
      rw [claims] at taken
      cases taken
  | refused refuses =>
      obtain ⟨_, refused, late⟩ | ⟨_, _, _, chosen⟩ :=
        select_cases_of_sound sound isPaging occupied
      · cases refused.symm.trans refuses
        exact .inl late
      · cases refuses.symm.trans chosen
  | unfit selects place stuck =>
      obtain ⟨entry, contents, can⟩ := canLeave_of_sound sound selects place
      exact absurd can (stuck entry contents)
  | beyond candidate large =>
      refine .inr ⟨rfl, ?_⟩
      have targets := candidate.targets
      cases spare with
      | some given =>
          obtain ⟨same, _⟩ := targets
          exact ⟨given, rfl, same ▸ large⟩
      | none =>
          -- A slot that is claimed for a page is one of the lowest.
          have low : candidate.slot ≤ state.focus.swap.inUse :=
            SwapSpace.le_inUse_of_claim slots targets
          exact absurd large (Nat.not_le.mpr (Pager.offset_lt
            (Nat.le_trans low sound.inUse_le_pages)))

end Chosen

/-- In a space where no page is pending, an eviction ends the run only for the
same reasons. -/
theorem IsFormed.runsLate_of_evictionEnds (formed : IsFormed state)
    (isPaging : state.focus.isPaging = true)
    (occupied : 0 < state.focus.ledger.residentCount)
    (room : spare = none → state.focus.swap.freeSlots ≠ 0)
    (ends : EvictionEnds state spare cause) :
    RunsLate state state.focus.ledger.residentCount cause ∨
      cause = .overflow ∧ ∃ slot, spare = some slot ∧
        Word.limit ≤ slot * pageSize :=
  runsLate_of_evictionEnds_of_sound
    (formed.backed.sound isPaging (isStored_backed formed isPaging)) isPaging
    occupied room ends

end AddressSpace

end DemandPaging
