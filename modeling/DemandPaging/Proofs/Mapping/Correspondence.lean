import DemandPaging.Proofs.AddressSpace.Extent
import DemandPaging.Proofs.Effects.Departures

/-!
# When leaves, places and slots nearly correspond

While a page is being added it is mapped and not yet tracked.  `NearlyTracks` is
the correspondence of leaves, places and slots with allowance for such a page.
Every step of an operation changes what is known of one page
(`Pager.DiffersAt`), so it keeps the correspondence if all is well at that page
(`TracksAt`).
-/

namespace DemandPaging

/-- The books differ at the page `page` only, but for marks of references. -/
structure Pager.DiffersAt (before after : Pager) (page : Nat) : Prop where
  aligned : Address.pageBase page = page
  marks : ∀ address, Address.pageBase address ≠ page →
    (before.entryAt address).SameButMarks (after.entryAt address)
  residenceOf? : ∀ other, other ≠ page →
    after.residenceOf? other = before.residenceOf? other

/-- The page `page` has the entry `entry` from now on, and that is all that the
books show of the change. -/
structure Pager.Rewrites (before after : Pager) (page : Nat) (entry : Entry) :
    Prop where
  aligned : Address.pageBase page = page
  entryAt : ∀ address, after.entryAt address =
    if Address.pageBase address = page then entry else before.entryAt address
  ledger : after.ledger = before.ledger
  swap : after.swap = before.swap

namespace Pager.Rewrites

variable {before after : Pager} {page : Nat} {entry : Entry}

theorem entryAt_page (rewrites : before.Rewrites after page entry) :
    after.entryAt page = entry :=
  (rewrites.entryAt page).trans (if_pos rewrites.aligned)

theorem residenceOf? (rewrites : before.Rewrites after page entry)
    (other : Nat) : after.residenceOf? other = before.residenceOf? other := by
  rw [Pager.residenceOf?, rewrites.ledger, Pager.residenceOf?]

theorem differsAt (rewrites : before.Rewrites after page entry) :
    before.DiffersAt after page where
  aligned := rewrites.aligned
  marks address elsewhere := by
    rw [rewrites.entryAt, if_neg elsewhere]
    exact .refl _
  residenceOf? other _ := rewrites.residenceOf? other

end Pager.Rewrites

namespace AddressSpace

variable {space : AddressSpace} {state before after : Hosted AddressSpace}
  {pending pendingBefore : Option Nat}
  {page address other slot : Nat} {residence : Residence}

/-- Leaves, places and slots correspond, except that the page `pending` may be
mapped without being resident. -/
structure NearlyTracks (space : AddressSpace) (pending : Option Nat) :
    Prop where
  exclusive : ∀ page, space.IsMapped page → ¬space.IsPagedOut page
  isResident : ∀ page, space.IsMapped page → pending ≠ some page →
    space.IsResident page
  isMapped : ∀ page, space.IsResident page → space.IsMapped page
  holdsSlot : ∀ page, space.IsPagedOut page →
    ∃ slot, space.HoldsSlot page slot
  isPagedOut : ∀ page slot, space.HoldsSlot page slot →
    space.IsPagedOut page
  isClaimed_iff : ∀ slot,
    space.swap.isClaimed slot = true ↔ ∃ page, space.HoldsSlot page slot
  slot_inj : ∀ {first second slot : Nat}, space.HoldsSlot first slot →
    space.HoldsSlot second slot → first = second
  residentCount_le : space.ledger.residentCount ≤ space.ledger.maxResident

theorem Agrees.nearlyTracks (agrees : space.Agrees)
    (isPaging : space.isPaging = true) : space.NearlyTracks none := by
  have tracks := agrees.tracks isPaging
  exact {
    exclusive := by
      rintro page ⟨entry, leaf, isValid⟩ ⟨other, otherLeaf, isPagedOut⟩
      obtain ⟨_, found, _⟩ := PageTable.mem_leaves_iff.mp leaf
      obtain ⟨_, otherFound, _⟩ := PageTable.mem_leaves_iff.mp otherLeaf
      cases found.symm.trans otherFound
      exact agrees.exclusive page entry leaf ⟨isValid, isPagedOut⟩
    isResident := fun page mapped _ => (tracks.isMapped_iff page).mp mapped
    isMapped := fun page => (tracks.isMapped_iff page).mpr
    holdsSlot := fun page => (tracks.isPagedOut_iff page).mp
    isPagedOut := fun page slot holds =>
      (tracks.isPagedOut_iff page).mpr ⟨slot, holds⟩
    isClaimed_iff := tracks.isClaimed_iff
    slot_inj := tracks.slot_inj
    residentCount_le := tracks.residentCount_le }

namespace NearlyTracks

theorem tracks (nearly : space.NearlyTracks none) : space.Tracks where
  isMapped_iff page := ⟨fun mapped => nearly.isResident page mapped nofun,
    nearly.isMapped page⟩
  isPagedOut_iff page := ⟨nearly.holdsSlot page,
    fun ⟨slot, holds⟩ => nearly.isPagedOut page slot holds⟩
  isClaimed_iff := nearly.isClaimed_iff
  slot_inj := nearly.slot_inj
  residentCount_le := nearly.residentCount_le

theorem agrees (nearly : space.NearlyTracks none)
    (isPaging : space.isPaging = true) : space.Agrees where
  exclusive page entry leaf := by
    rintro ⟨isValid, isPagedOut⟩
    exact nearly.exclusive page ⟨entry, leaf, isValid⟩
      ⟨entry, leaf, isPagedOut⟩
  tracks _ := nearly.tracks
  not_isPagedOut notPaging := by
    cases isPaging.symm.trans notPaging

variable (nearly : state.focus.NearlyTracks pending)

include nearly

theorem isPagedOut_eq_false
    (isValid : ((pager state).entryAt address).isValid = true) :
    ((pager state).entryAt address).isPagedOut = false := by
  rw [← Bool.not_eq_true, ← Pager.entryAt_pageBase]
  intro isPagedOut
  rw [← Pager.entryAt_pageBase] at isValid
  have aligned := Address.pageBase_pageBase address
  exact nearly.exclusive _ ((isMapped_iff state _).mpr ⟨aligned, isValid⟩)
    ((isPagedOut_iff state _).mpr ⟨aligned, isPagedOut⟩)

/-- A page in memory is resident, unless it is the pending one. -/
theorem residenceOf?_of_isValid
    (consistent : state.focus.ledger.IsConsistent)
    (aligned : Address.pageBase page = page)
    (isValid : ((pager state).entryAt page).isValid = true)
    (notPending : pending ≠ some page) :
    (pager state).residenceOf? page = some (.resident page) :=
  (isResident_iff consistent).mp (nearly.isResident page
    ((isMapped_iff state page).mpr ⟨aligned, isValid⟩) notPending)

/-- A page in swap has a slot. -/
theorem residenceOf?_of_isPagedOut
    (consistent : state.focus.ledger.IsConsistent)
    (aligned : Address.pageBase page = page)
    (isPagedOut : ((pager state).entryAt page).isPagedOut = true) :
    ∃ slot, (pager state).residenceOf? page = some (.swapped page slot) := by
  obtain ⟨slot, holds⟩ := nearly.holdsSlot page
    ((isPagedOut_iff state page).mpr ⟨aligned, isPagedOut⟩)
  exact ⟨slot, (holdsSlot_iff consistent).mp holds⟩

theorem isValid_of_resident (consistent : state.focus.ledger.IsConsistent)
    (known : (pager state).residenceOf? page = some (.resident page)) :
    Address.pageBase page = page ∧
      ((pager state).entryAt page).isValid = true :=
  (isMapped_iff state page).mp
    (nearly.isMapped page ((isResident_iff consistent).mpr known))

theorem isAligned (consistent : state.focus.ledger.IsConsistent) :
    state.focus.ledger.IsAligned := fun _ _ known =>
  (nearly.isValid_of_resident consistent
    (residenceOf?_of_residenceAt? consistent known)).1

theorem isPagedOut_of_swapped (consistent : state.focus.ledger.IsConsistent)
    (known : (pager state).residenceOf? page = some (.swapped page slot)) :
    Address.pageBase page = page ∧
      ((pager state).entryAt page).isPagedOut = true :=
  (isPagedOut_iff state page).mp
    (nearly.isPagedOut page slot ((holdsSlot_iff consistent).mpr known))

theorem isClaimed_iff_residenceOf?
    (consistent : state.focus.ledger.IsConsistent) (slot : Nat) :
    state.focus.swap.isClaimed slot = true ↔
      ∃ page, (pager state).residenceOf? page =
        some (.swapped page slot) := by
  simp only [← holdsSlot_iff consistent]
  exact nearly.isClaimed_iff slot

theorem eq_of_swapped (consistent : state.focus.ledger.IsConsistent)
    (first : (pager state).residenceOf? page = some (.swapped page slot))
    (second : (pager state).residenceOf? other =
      some (.swapped other slot)) : page = other :=
  nearly.slot_inj ((holdsSlot_iff consistent).mpr first)
    ((holdsSlot_iff consistent).mpr second)

end NearlyTracks

/-- The page at `page` is where it was, as page table and ledger have it. -/
structure SameStanding (before after : AddressSpace) (page : Nat) : Prop where
  isMapped_iff : after.IsMapped page ↔ before.IsMapped page
  isPagedOut_iff : after.IsPagedOut page ↔ before.IsPagedOut page
  isResident_iff : after.IsResident page ↔ before.IsResident page
  holdsSlot_iff : ∀ slot,
    after.HoldsSlot page slot ↔ before.HoldsSlot page slot

theorem sameStanding_of_books
    (consistent : before.focus.ledger.IsConsistent)
    (isConsistent : after.focus.ledger.IsConsistent)
    (entry : Address.pageBase page = page →
      ((pager after).entryAt page).isValid =
          ((pager before).entryAt page).isValid ∧
        ((pager after).entryAt page).isPagedOut =
          ((pager before).entryAt page).isPagedOut)
    (known : (pager after).residenceOf? page =
      (pager before).residenceOf? page) :
    SameStanding before.focus after.focus page where
  isMapped_iff := by
    rw [isMapped_iff, isMapped_iff]
    refine and_congr_right fun aligned => ?_
    rw [(entry aligned).1]
  isPagedOut_iff := by
    rw [isPagedOut_iff, isPagedOut_iff]
    refine and_congr_right fun aligned => ?_
    rw [(entry aligned).2]
  isResident_iff := by
    rw [isResident_iff isConsistent, isResident_iff consistent, known]
  holdsSlot_iff slot := by
    rw [holdsSlot_iff isConsistent, holdsSlot_iff consistent, known]

/-- A change at one page leaves every other page where it was. -/
theorem sameStanding_of_differsAt
    (consistent : before.focus.ledger.IsConsistent)
    (differs : (pager before).DiffersAt (pager after) page)
    (isConsistent : after.focus.ledger.IsConsistent) (other : Nat)
    (elsewhere : other ≠ page) :
    SameStanding before.focus after.focus other := by
  refine sameStanding_of_books consistent isConsistent (fun aligned => ?_)
    (differs.residenceOf? other elsewhere)
  have marks := differs.marks other (by rwa [aligned])
  exact ⟨marks.isValid, marks.isPagedOut⟩

/-- All is well at the page `page`, where everything else is as `before` has
it. -/
structure TracksAt (before after : Hosted AddressSpace)
    (pending : Option Nat) (page : Nat) : Prop where
  exclusive : ((pager after).entryAt page).isValid = true →
    ((pager after).entryAt page).isPagedOut = false
  isResident : ((pager after).entryAt page).isValid = true →
    pending ≠ some page →
      (pager after).residenceOf? page = some (.resident page)
  isMapped : (pager after).residenceOf? page = some (.resident page) →
    ((pager after).entryAt page).isValid = true
  holdsSlot : ((pager after).entryAt page).isPagedOut = true →
    ∃ slot, (pager after).residenceOf? page = some (.swapped page slot)
  isPagedOut : ∀ slot,
    (pager after).residenceOf? page = some (.swapped page slot) →
      ((pager after).entryAt page).isPagedOut = true
  isClaimed_iff : ∀ slot, after.focus.swap.isClaimed slot = true ↔
    (pager after).residenceOf? page = some (.swapped page slot) ∨
      ∃ other, other ≠ page ∧
        (pager before).residenceOf? other = some (.swapped other slot)
  slot_new : ∀ slot other, other ≠ page →
    (pager after).residenceOf? page = some (.swapped page slot) →
      (pager before).residenceOf? other ≠ some (.swapped other slot)
  residentCount_le :
    after.focus.ledger.residentCount ≤ after.focus.ledger.maxResident

section

variable (here : TracksAt before after pending page)
  (consistent : before.focus.ledger.IsConsistent)
  (isConsistent : after.focus.ledger.IsConsistent)
  (standing : ∀ other, other ≠ page →
    SameStanding before.focus after.focus other)

include here consistent isConsistent standing

theorem TracksAt.isClaimed_iff_holdsSlot (slot : Nat) :
    after.focus.swap.isClaimed slot = true ↔
      ∃ other, after.focus.HoldsSlot other slot := by
  rw [here.isClaimed_iff slot]
  constructor
  · rintro (known | ⟨other, elsewhere, known⟩)
    · exact ⟨page, (holdsSlot_iff isConsistent).mpr known⟩
    · exact ⟨other, ((standing other elsewhere).holdsSlot_iff slot).mpr
        ((holdsSlot_iff consistent).mpr known)⟩
  · rintro ⟨other, holds⟩
    by_cases samePage : other = page
    · subst samePage
      exact .inl ((holdsSlot_iff isConsistent).mp holds)
    · have held := ((standing other samePage).holdsSlot_iff slot).mp holds
      exact .inr ⟨other, samePage, (holdsSlot_iff consistent).mp held⟩

theorem TracksAt.slot_inj
    (nearly : before.focus.NearlyTracks pendingBefore) {first second : Nat}
    (firstHolds : after.focus.HoldsSlot first slot)
    (secondHolds : after.focus.HoldsSlot second slot) : first = second := by
  have fresh : ∀ {other}, other ≠ page → after.focus.HoldsSlot page slot →
      ¬before.focus.HoldsSlot other slot := by
    intro other elsewhere new old
    exact here.slot_new slot other elsewhere
      ((holdsSlot_iff isConsistent).mp new) ((holdsSlot_iff consistent).mp old)
  by_cases firstHere : first = page
  · by_cases secondHere : second = page
    · rw [firstHere, secondHere]
    · rw [firstHere] at firstHolds
      have held := ((standing second secondHere).holdsSlot_iff slot).mp
        secondHolds
      exact absurd held (fresh secondHere firstHolds)
  · have held := ((standing first firstHere).holdsSlot_iff slot).mp firstHolds
    by_cases secondHere : second = page
    · rw [secondHere] at secondHolds
      exact absurd held (fresh firstHere secondHolds)
    · exact nearly.slot_inj held
        (((standing second secondHere).holdsSlot_iff slot).mp secondHolds)

end

/-- A change at one page keeps the correspondence if all is well there. -/
theorem NearlyTracks.of_differsAt
    (nearly : before.focus.NearlyTracks pendingBefore)
    (consistent : before.focus.ledger.IsConsistent)
    (differs : (pager before).DiffersAt (pager after) page)
    (isConsistent : after.focus.ledger.IsConsistent)
    (here : TracksAt before after pending page)
    (samePending : ∀ other, other ≠ page → pending ≠ some other →
      pendingBefore ≠ some other) :
    after.focus.NearlyTracks pending := by
  have standing :=
    sameStanding_of_differsAt consistent differs isConsistent
  have isMapped_iff_here : after.focus.IsMapped page ↔
      ((pager after).entryAt page).isValid = true :=
    (isMapped_iff after page).trans (and_iff_right differs.aligned)
  have isPagedOut_iff_here : after.focus.IsPagedOut page ↔
      ((pager after).entryAt page).isPagedOut = true :=
    (isPagedOut_iff after page).trans (and_iff_right differs.aligned)
  refine ⟨fun other isMapped => ?_, fun other isMapped notPending => ?_,
    fun other isResident => ?_, fun other isPagedOut => ?_,
    fun other slot isHeld => ?_,
    here.isClaimed_iff_holdsSlot consistent isConsistent standing,
    here.slot_inj consistent isConsistent standing nearly,
    here.residentCount_le⟩
  · by_cases samePage : other = page
    · subst samePage
      rw [isPagedOut_iff_here, here.exclusive (isMapped_iff_here.mp isMapped)]
      exact Bool.false_ne_true
    · have same := standing other samePage
      rw [same.isPagedOut_iff]
      exact nearly.exclusive other (same.isMapped_iff.mp isMapped)
  · by_cases samePage : other = page
    · subst samePage
      exact (isResident_iff isConsistent).mpr
        (here.isResident (isMapped_iff_here.mp isMapped) notPending)
    · have same := standing other samePage
      exact same.isResident_iff.mpr (nearly.isResident other
        (same.isMapped_iff.mp isMapped)
        (samePending other samePage notPending))
  · by_cases samePage : other = page
    · subst samePage
      exact isMapped_iff_here.mpr
        (here.isMapped ((isResident_iff isConsistent).mp isResident))
    · have same := standing other samePage
      exact same.isMapped_iff.mpr
        (nearly.isMapped other (same.isResident_iff.mp isResident))
  · by_cases samePage : other = page
    · subst samePage
      obtain ⟨slot, known⟩ := here.holdsSlot (isPagedOut_iff_here.mp isPagedOut)
      exact ⟨slot, (holdsSlot_iff isConsistent).mpr known⟩
    · have same := standing other samePage
      obtain ⟨slot, isHeld⟩ :=
        nearly.holdsSlot other (same.isPagedOut_iff.mp isPagedOut)
      exact ⟨slot, (same.holdsSlot_iff slot).mpr isHeld⟩
  · by_cases samePage : other = page
    · subst samePage
      exact isPagedOut_iff_here.mpr
        (here.isPagedOut slot ((holdsSlot_iff isConsistent).mp isHeld))
    · have same := standing other samePage
      exact same.isPagedOut_iff.mpr (nearly.isPagedOut other slot
        ((same.holdsSlot_iff slot).mp isHeld))

/-- A new entry keeps the correspondence if it suits what the ledger has of its
page. -/
theorem NearlyTracks.of_rewrites {entry : Entry}
    (nearly : before.focus.NearlyTracks pendingBefore)
    (consistent : before.focus.ledger.IsConsistent)
    (rewrites : (pager before).Rewrites (pager after) page entry)
    (exclusive : entry.isValid = true → entry.isPagedOut = false)
    (isResident : entry.isValid = true → pending ≠ some page →
      (pager before).residenceOf? page = some (.resident page))
    (isMapped : (pager before).residenceOf? page = some (.resident page) →
      entry.isValid = true)
    (holdsSlot : entry.isPagedOut = true →
      ∃ slot, (pager before).residenceOf? page = some (.swapped page slot))
    (isPagedOut : ∀ slot,
      (pager before).residenceOf? page = some (.swapped page slot) →
        entry.isPagedOut = true)
    (samePending : ∀ other, other ≠ page → pending ≠ some other →
      pendingBefore ≠ some other) :
    after.focus.NearlyTracks pending := by
  have ledger : after.focus.ledger = before.focus.ledger := rewrites.ledger
  have swap : after.focus.swap = before.focus.swap := rewrites.swap
  have entryAt := rewrites.entryAt_page
  have residence := rewrites.residenceOf? page
  refine nearly.of_differsAt consistent rewrites.differsAt
    (ledger ▸ consistent) ?_ samePending
  exact {
    exclusive := by rwa [entryAt]
    isResident := by rwa [entryAt, residence]
    isMapped := by rwa [entryAt, residence]
    holdsSlot := by rwa [entryAt, residence]
    isPagedOut := by rwa [entryAt, residence]
    isClaimed_iff := by
      intro slot
      rw [swap, residence, nearly.isClaimed_iff_residenceOf? consistent]
      constructor
      · rintro ⟨other, held⟩
        by_cases samePage : other = page
        · exact .inl (samePage ▸ held)
        · exact .inr ⟨other, samePage, held⟩
      · rintro (held | ⟨other, _, held⟩)
        · exact ⟨page, held⟩
        · exact ⟨other, held⟩
    slot_new := by
      intro slot other elsewhere held otherHeld
      rw [residence] at held
      exact elsewhere (nearly.eq_of_swapped consistent otherHeld held)
    residentCount_le := by
      rw [ledger]
      exact nearly.residentCount_le }

end AddressSpace

end DemandPaging
