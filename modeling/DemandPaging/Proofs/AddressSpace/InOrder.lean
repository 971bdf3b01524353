import DemandPaging.Proofs.AddressSpace.Ready
import DemandPaging.Proofs.FlatMemory
import DemandPaging.Proofs.Pager.Growth

/-!
# Spaces that are in order

A space without pages is in order, which is where every run begins.  What it
means to be in order is said of the single pages; a space that is in order is
also well-formed, which is what its leaves, places and slots say.
-/

namespace DemandPaging

namespace Pager

variable {pager : Pager} {terms : Terms} {time : Nat}

/-- There is no page, none is tracked, and no slot is claimed. -/
structure IsVacant (pager : Pager) : Prop where
  entries : ∀ address, (pager.entryAt address).isPresent = false
  places : ∀ page, pager.residenceOf? page = none
  slots : ∀ slot, pager.swap.isClaimed slot = false

namespace IsVacant

theorem not_isValid (vacant : pager.IsVacant) (address : Nat) :
    (pager.entryAt address).isValid ≠ true := by
  rw [(Bool.or_eq_false_iff.mp (vacant.entries address)).1]
  exact Bool.false_ne_true

theorem not_isPagedOut (vacant : pager.IsVacant) (address : Nat) :
    (pager.entryAt address).isPagedOut ≠ true := by
  rw [(Bool.or_eq_false_iff.mp (vacant.entries address)).2]
  exact Bool.false_ne_true

theorem not_known (vacant : pager.IsVacant) (page : Nat)
    (residence : Residence) : pager.residenceOf? page ≠ some residence := by
  rw [vacant.places]
  exact (Option.some_ne_none residence).symm

theorem sound (vacant : pager.IsVacant) (fits : pager.Fits)
    (ledger : pager.ledger.IsConsistent) (swap : pager.swap.IsConsistent)
    (frames : pager.frames.IsConsistent) : pager.Sound none where
  fits := fits
  ledger := ledger
  swap := swap
  frames := frames
  page_lt address isPresent :=
    absurd ((vacant.entries address).symm.trans isPresent) Bool.false_ne_true
  resident _ address isValid := absurd isValid (vacant.not_isValid address)
  swapped address isPagedOut :=
    absurd isPagedOut (vacant.not_isPagedOut address)
  tracked page _ known := absurd known (vacant.not_known page _)
  claimed slot := by
    rw [vacant.slots]
    refine iff_of_false Bool.false_ne_true ?_
    rintro ⟨page, known⟩
    exact vacant.not_known page _ known
  slot_inj page _ _ known := absurd known (vacant.not_known page _)
  stored page _ known := absurd known (vacant.not_known page _)
  framed address isValid := absurd isValid (vacant.not_isValid address)
  frame_inj address _ isValid := absurd isValid (vacant.not_isValid address)

theorem strict (vacant : pager.IsVacant) : pager.Strict where
  entries address := by
    constructor
    · intro isPresent
      exact absurd ((vacant.entries address).symm.trans isPresent)
        Bool.false_ne_true
    · intro isValid
      exact absurd isValid (vacant.not_isValid address)
  slot_le slot claimed :=
    absurd ((vacant.slots slot).symm.trans claimed) Bool.false_ne_true

theorem logicalPage? (vacant : pager.IsVacant) (address : Nat) :
    pager.logicalPage? address = none := by
  rw [Pager.logicalPage?, bytesAt?, entryAt_pageBase,
    if_neg (vacant.not_isValid address),
    if_neg (vacant.not_isPagedOut address)]
  rfl

theorem unowned_iff (vacant : pager.IsVacant) {frame : Nat}
    {contents : Page} : pager.Unowned frame contents ↔
      pager.frames.contents? frame = some contents :=
  and_iff_left fun address isValid =>
    absurd isValid (vacant.not_isValid address)

theorem spans (vacant : pager.IsVacant) :
    FlatMemory.Spans pager.logicalPage? 0 := by
  intro address
  rw [vacant.logicalPage?]
  simp [Address.pageCeil, pageSize]

end IsVacant

theorem Sound.exclusive (sound : pager.Sound none)
    (isPaging : pager.isPaging = true) (address : Nat)
    (isValid : (pager.entryAt address).isValid = true) :
    (pager.entryAt address).isPagedOut = false := by
  have known := sound.resident isPaging address isValid nofun
  have agrees := (sound.tracked _ _ known).2.2.2.2
  rwa [entryAt_pageBase] at agrees

theorem Sound.isVacant (sound : pager.Sound none)
    (nothing : ∀ address, pager.logicalPage? address = none) :
    pager.IsVacant := by
  have entries : ∀ address, (pager.entryAt address).isPresent = false := by
    intro address
    rw [← sound.isSome_logicalPage?, nothing]
    rfl
  have places : ∀ page, pager.residenceOf? page = none := by
    intro page
    refine Option.eq_none_iff_forall_ne_some.mpr fun residence known => ?_
    cases (entries page).symm.trans (sound.isPresent_of_residenceOf? known)
  refine ⟨entries, places, fun slot => ?_⟩
  rw [← Bool.not_eq_true, sound.claimed]
  rintro ⟨page, known⟩
  cases (places page).symm.trans known

end Pager

namespace AddressSpace

open Pager (Terms)

variable {state : Hosted AddressSpace} {page slot : Nat}
  {config : Config} {isEligible isMetered : Bool} {pool slots : Nat}
  {budget : Option Nat} {file : SwapFile} {host after : Host}
  {space : AddressSpace}

/-- The space and its host are as operations leave them, but for what user code
may do with the pages. -/
structure IsFormed (state : Hosted AddressSpace) : Prop where
  agrees : state.focus.Agrees
  ledger : state.focus.ledger.IsConsistent
  swap : state.focus.swap.IsConsistent
  pool : (state.host.pool state.focus.pool).IsConsistent
  pool_lt : state.focus.pool < state.host.pools.size
  total_le :
    (state.host.pool state.focus.pool).total ≤ FramePool.sizeLimit
  maxResident_eq :
    state.focus.ledger.maxResident = state.focus.config.maxResident
  capacity_eq : state.focus.ledger.capacity =
    state.focus.config.maxResident + state.focus.config.maxSwap
  maxSwap_le : state.focus.config.maxSwap ≤ state.focus.swap.capacity
  maxResident_pos :
    state.focus.isPaging = true → 0 < state.focus.config.maxResident
  isPaging_policy :
    state.focus.isPaging = true → state.focus.config.policy.isPaging = true
  page_lt : ∀ page entry, (page, entry) ∈ state.focus.table.leaves →
    page < addressLimit
  framed : ∀ page entry, (page, entry) ∈ state.focus.table.leaves →
    entry.isValid = true → ∃ contents,
      (state.host.pool state.focus.pool).read entry.address = .ok contents
  frame_inj : ∀ first second firstEntry secondEntry,
    (first, firstEntry) ∈ state.focus.table.leaves →
      (second, secondEntry) ∈ state.focus.table.leaves →
        firstEntry.isValid = true → secondEntry.isValid = true →
          firstEntry.address = secondEntry.address → first = second

theorem WellFormed.isFormed (wellFormed : WellFormed state) :
    IsFormed state :=
  { wellFormed with }

theorem IsFormed.fits (formed : IsFormed state) : (pager state).Fits where
  total_le := formed.total_le
  maxResident_eq := formed.maxResident_eq
  capacity_eq := formed.capacity_eq
  maxSwap_le := formed.maxSwap_le
  maxResident_pos := formed.maxResident_pos
  isPaging_policy := formed.isPaging_policy

/-- What it takes that a space is formed, said of its parts. -/
theorem isFormed_of_parts (agrees : state.focus.Agrees)
    (ledger : state.focus.ledger.IsConsistent)
    (swap : state.focus.swap.IsConsistent)
    (consistent : (pager state).frames.IsConsistent)
    (served : IsServed state) (fits : (pager state).Fits)
    (page_lt : ∀ address, ((pager state).entryAt address).isPresent = true →
      address < addressLimit)
    (framed : ∀ address, ((pager state).entryAt address).isValid = true →
      ∃ contents, (pager state).frames.contents?
        ((pager state).entryAt address).address = some contents)
    (frame_inj : ∀ first second,
      ((pager state).entryAt first).isValid = true →
        ((pager state).entryAt second).isValid = true →
          ((pager state).entryAt first).address =
            ((pager state).entryAt second).address →
              Address.pageBase first = Address.pageBase second) :
    IsFormed state where
  agrees := agrees
  ledger := ledger
  swap := swap
  pool := consistent
  pool_lt := served
  total_le := fits.total_le
  maxResident_eq := fits.maxResident_eq
  capacity_eq := fits.capacity_eq
  maxSwap_le := fits.maxSwap_le
  maxResident_pos := fits.maxResident_pos
  isPaging_policy := fits.isPaging_policy
  page_lt page entry member := by
    obtain ⟨_, rfl, isPresent⟩ := PageTable.mem_leaves_iff_entryAt.mp member
    exact page_lt page isPresent
  framed page entry member isValid := by
    obtain ⟨_, rfl, _⟩ := PageTable.mem_leaves_iff_entryAt.mp member
    obtain ⟨contents, lent⟩ := framed page isValid
    exact ⟨contents, FramePool.contents?_eq_some_iff.mp lent⟩
  frame_inj first second firstEntry secondEntry firstLeaf secondLeaf := by
    obtain ⟨firstAligned, rfl, _⟩ :=
      PageTable.mem_leaves_iff_entryAt.mp firstLeaf
    obtain ⟨secondAligned, rfl, _⟩ :=
      PageTable.mem_leaves_iff_entryAt.mp secondLeaf
    intro firstValid secondValid same
    rw [← firstAligned, ← secondAligned]
    exact frame_inj first second firstValid secondValid same

theorem WellFormed.fits (wellFormed : WellFormed state) :
    (pager state).Fits :=
  wellFormed.isFormed.fits

theorem IsMade.isVacant (isMade : IsMade state) :
    (pager state).IsVacant := by
  obtain @⟨_, _, _, _, slots, _, _, _, _, _, ran⟩ := isMade
  obtain ⟨_, _, ledger, ledgerMade, rfl, rfl⟩ := run_make_eq_done_iff.mp ran
  have consistent := Ledger.isConsistent_new ledgerMade
  obtain ⟨_, rfl⟩ := Ledger.new_eq_ok_iff.mp ledgerMade
  refine ⟨fun _ => rfl, fun page => ?_, fun slot => ?_⟩
  · exact consistent.residenceOf?_eq_none_iff.mpr Std.TreeMap.getElem?_emptyc
  · change ((Array.replicate slots false)[slot]?).getD false = false
    rw [Array.getElem?_replicate]
    split <;> rfl

theorem logicalPage?_eq_pager (state : Hosted AddressSpace) :
    logicalPage? state = (pager state).logicalPage? :=
  funext (logicalPage?_eq state)

/-- What every request finds and leaves: the parts agree, the clock has not
advanced by more than `ticks`, and the pages are those of the first `size`
bytes. -/
structure InOrder (size ticks : Nat) (state : Hosted AddressSpace) :
    Prop where
  served : IsServed state
  sound : (pager state).Sound none
  strict : (pager state).Strict
  ceiling : (pager state).ledger.residentCount ≤
    (pager state).ledger.maxResident
  generation_le : (pager state).ledger.generation ≤ ticks
  spans : FlatMemory.Spans (logicalPage? state) size

theorem IsNew.inOrder (isNew : IsNew state) : InOrder 0 0 state := by
  have vacant := isNew.isMade.isVacant
  have wellFormed := isNew.wellFormed
  have inside := isNew.pool_lt
  obtain ⟨ran⟩ := isNew.isMade
  obtain ⟨_, _, ledger, ledgerMade, rfl, rfl⟩ := run_make_eq_done_iff.mp ran
  obtain ⟨_, rfl⟩ := Ledger.new_eq_ok_iff.mp ledgerMade
  exact {
    served := inside
    sound := vacant.sound wellFormed.fits wellFormed.ledger wellFormed.swap
      wellFormed.pool
    strict := vacant.strict
    ceiling := Nat.zero_le _
    generation_le := Nat.le_refl 0
    spans := by
      rw [logicalPage?_eq_pager]
      exact vacant.spans }

theorem isMapped_iff (state : Hosted AddressSpace) (page : Nat) :
    state.focus.IsMapped page ↔ Address.pageBase page = page ∧
      ((pager state).entryAt page).isValid = true := by
  simp only [IsMapped, PageTable.mem_leaves_iff_entryAt]
  constructor
  · rintro ⟨_, ⟨aligned, rfl, _⟩, isValid⟩
    exact ⟨aligned, isValid⟩
  · rintro ⟨aligned, isValid⟩
    exact ⟨_, ⟨aligned, rfl, Bool.or_eq_true_iff.mpr (.inl isValid)⟩, isValid⟩

theorem isPagedOut_iff (state : Hosted AddressSpace) (page : Nat) :
    state.focus.IsPagedOut page ↔ Address.pageBase page = page ∧
      ((pager state).entryAt page).isPagedOut = true := by
  simp only [IsPagedOut, PageTable.mem_leaves_iff_entryAt]
  constructor
  · rintro ⟨_, ⟨aligned, rfl, _⟩, isPagedOut⟩
    exact ⟨aligned, isPagedOut⟩
  · rintro ⟨aligned, isPagedOut⟩
    exact ⟨_, ⟨aligned, rfl, Bool.or_eq_true_iff.mpr (.inr isPagedOut)⟩,
      isPagedOut⟩

theorem isResident_iff (consistent : state.focus.ledger.IsConsistent) :
    state.focus.IsResident page ↔
      (pager state).residenceOf? page = some (.resident page) := by
  constructor
  · rintro ⟨_, _, place, resident⟩
    exact consistent.residenceOf?_of_resident place resident
  · intro known
    obtain ⟨handle, tracked, _, place, resident⟩ :=
      consistent.find?_of_residenceOf? known
    exact ⟨handle, tracked, place, resident⟩

theorem holdsSlot_iff (consistent : state.focus.ledger.IsConsistent) :
    state.focus.HoldsSlot page slot ↔
      (pager state).residenceOf? page = some (.swapped page slot) := by
  constructor
  · rintro ⟨_, _, place, swapped⟩
    exact consistent.residenceOf?_of_swapped place swapped
  · intro known
    obtain ⟨handle, tracked, _, place, swapped⟩ :=
      consistent.find?_of_residenceOf? known
    exact ⟨handle, tracked, place, swapped⟩

theorem tracks_of_sound (sound : (pager state).Sound none)
    (ceiling : (pager state).ledger.residentCount ≤
      (pager state).ledger.maxResident)
    (isPaging : state.focus.isPaging = true) : state.focus.Tracks := by
  have consistent : state.focus.ledger.IsConsistent := sound.ledger
  refine ⟨fun page => ?_, fun page => ?_, fun slot => ?_, ?_, ceiling⟩
  · rw [isMapped_iff, isResident_iff consistent]
    constructor
    · rintro ⟨aligned, isValid⟩
      have known := sound.resident isPaging page isValid nofun
      rwa [aligned] at known
    · intro known
      obtain ⟨_, aligned, _, isValid, _⟩ := sound.tracked page _ known
      exact ⟨aligned, isValid⟩
  · simp only [isPagedOut_iff, holdsSlot_iff consistent]
    constructor
    · rintro ⟨aligned, isPagedOut⟩
      have known := sound.swapped page isPagedOut
        (Entry.isValid_of_isPagedOut (sound.exclusive isPaging page)
          isPagedOut)
      rwa [aligned] at known
    · rintro ⟨slot, known⟩
      obtain ⟨_, aligned, _, _, isPagedOut⟩ := sound.tracked page _ known
      exact ⟨aligned, isPagedOut⟩
  · simp only [holdsSlot_iff consistent]
    exact sound.claimed slot
  · intro first second slot
    rw [holdsSlot_iff consistent, holdsSlot_iff consistent]
    exact sound.slot_inj first second slot

/-- The parts of a space agree if no page is in memory and in swap. -/
theorem agrees_of_sound (sound : (pager state).Sound none)
    (exclusive : ∀ address, ((pager state).entryAt address).isValid = true →
      ((pager state).entryAt address).isPagedOut = false)
    (ceiling : (pager state).ledger.residentCount ≤
      (pager state).ledger.maxResident) : state.focus.Agrees where
  exclusive page entry member := by
    obtain ⟨_, rfl, _⟩ := PageTable.mem_leaves_iff_entryAt.mp member
    rintro ⟨isValid, isPagedOut⟩
    cases (exclusive page isValid).symm.trans isPagedOut
  tracks := tracks_of_sound sound ceiling
  not_isPagedOut notPaging page := by
    rw [isPagedOut_iff]
    rintro ⟨_, isPagedOut⟩
    obtain ⟨slot, known⟩ := sound.swapped page isPagedOut
      (Entry.isValid_of_isPagedOut (exclusive page) isPagedOut)
    cases notPaging.symm.trans (sound.tracked _ _ known).1

theorem InOrder.wellFormed {size ticks : Nat}
    (inOrder : InOrder size ticks state) : WellFormed state where
  agrees := agrees_of_sound inOrder.sound
    (fun address => (inOrder.strict.entries address).exclusive)
    inOrder.ceiling
  ledger := inOrder.sound.ledger
  swap := inOrder.sound.swap
  pool := inOrder.sound.frames
  pool_lt := inOrder.served
  total_le := inOrder.sound.fits.total_le
  maxResident_eq := inOrder.sound.fits.maxResident_eq
  capacity_eq := inOrder.sound.fits.capacity_eq
  maxSwap_le := inOrder.sound.fits.maxSwap_le
  maxResident_pos := inOrder.sound.fits.maxResident_pos
  isPaging_policy := inOrder.sound.fits.isPaging_policy
  page_lt page entry member := by
    obtain ⟨_, rfl, isPresent⟩ := PageTable.mem_leaves_iff_entryAt.mp member
    exact inOrder.sound.page_lt page isPresent
  readable page entry member _ := by
    obtain ⟨_, rfl, isPresent⟩ := PageTable.mem_leaves_iff_entryAt.mp member
    exact (inOrder.strict.entries page).readable isPresent
  framed page entry member isValid := by
    obtain ⟨_, rfl, _⟩ := PageTable.mem_leaves_iff_entryAt.mp member
    obtain ⟨contents, lent⟩ := inOrder.sound.framed page isValid
    exact ⟨contents, FramePool.contents?_eq_some_iff.mp lent⟩
  frame_inj first second firstEntry secondEntry := by
    intro firstMember secondMember firstValid secondValid same
    obtain ⟨firstAligned, rfl, _⟩ :=
      PageTable.mem_leaves_iff_entryAt.mp firstMember
    obtain ⟨secondAligned, rfl, _⟩ :=
      PageTable.mem_leaves_iff_entryAt.mp secondMember
    rw [← firstAligned, ← secondAligned]
    exact inOrder.sound.frame_inj first second firstValid secondValid same

end AddressSpace

end DemandPaging
