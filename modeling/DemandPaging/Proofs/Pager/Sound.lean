import DemandPaging.AddressSpace.Memory
import DemandPaging.AddressSpace.WellFormed
import DemandPaging.Proofs.FramePool.Lending
import DemandPaging.Proofs.Ledger.Residences
import DemandPaging.Proofs.PageTable.Entries
import DemandPaging.Proofs.Swap.Contents

/-!
# The parts of an address space that have to agree

Events, statistics and the metering of transfers play no part in whether an
address space is in order.  A `Pager` is what remains: page table, ledger, swap
slots and the frames of the pool.  `Pager.Sound` says that they agree, page by
page, and every step of every operation keeps it.

While a page is being added it is mapped and not yet tracked.  Such a page is
pending, and soundness allows for one.
-/

namespace DemandPaging

/-- The parts of an address space that have to agree, and the frames of its
pool. -/
structure Pager where
  table : PageTable
  ledger : Ledger
  swap : SwapSpace
  frames : FramePool
  config : Config
  isPaging : Bool

namespace Pager

variable {pager before after : Pager} {pending : Option Nat}
  {address page other slot frame : Nat} {contents : Page}

/-- The entry of the page that holds `address`. -/
def entryAt (pager : Pager) (address : Nat) : Entry :=
  pager.table.entryAt address

/-- Where the ledger has the page at `page`. -/
def residenceOf? (pager : Pager) (page : Nat) : Option Residence :=
  pager.ledger.residenceOf? page

@[simp]
theorem entryAt_pageBase (pager : Pager) (address : Nat) :
    pager.entryAt (Address.pageBase address) = pager.entryAt address :=
  pager.table.entryAt_pageBase address

theorem entryAt_updated (change : Entry → Entry)
    (aligned : Address.pageBase page = page)
    (isPresent : (pager.entryAt page).isPresent = true) (address : Nat) :
    (pager.table.update page change).entryAt address =
      if Address.pageBase address = page then change (pager.entryAt page)
      else pager.entryAt address := by
  have shown := PageTable.entryAt_update_of_isPresent change isPresent address
  rw [aligned] at shown
  exact shown

/-- The bytes of the page at `page`, in its frame or in its slot. -/
def bytesAt? (pager : Pager) (page : Nat) : Option (List UInt8) :=
  if (pager.entryAt page).isValid then
    (pager.frames.contents? (pager.entryAt page).address).map Vector.toList
  else if (pager.entryAt page).isPagedOut then
    ((pager.residenceOf? page).bind Residence.slot?).bind pager.swap.contents?
  else
    none

/-- The page that holds `address`, as user code sees it. -/
def logicalPage? (pager : Pager) (address : Nat) : Option LogicalPage :=
  (pager.bytesAt? (Address.pageBase address)).map fun bytes =>
    { bytes, permissions := (pager.entryAt address).flags.permissions }

/-- The frame at `frame` is lent, and no page of the space is in it. -/
def Unowned (pager : Pager) (frame : Nat) (contents : Page) : Prop :=
  pager.frames.contents? frame = some contents ∧
    ∀ address, (pager.entryAt address).isValid = true →
      (pager.entryAt address).address ≠ frame

/-- The sizes of the parts are those that the configuration asks for. -/
structure Fits (pager : Pager) : Prop where
  total_le : pager.frames.total ≤ FramePool.sizeLimit
  maxResident_eq : pager.ledger.maxResident = pager.config.maxResident
  capacity_eq : pager.ledger.capacity =
    pager.config.maxResident + pager.config.maxSwap
  maxSwap_le : pager.config.maxSwap ≤ pager.swap.capacity
  maxResident_pos : pager.isPaging = true → 0 < pager.config.maxResident
  isPaging_policy : pager.isPaging = true →
    pager.config.policy.isPaging = true

/-- What no operation changes. -/
structure SameShape (before after : Pager) : Prop where
  config : after.config = before.config
  isPaging : after.isPaging = before.isPaging
  maxResident : after.ledger.maxResident = before.ledger.maxResident
  ledgerCapacity : after.ledger.capacity = before.ledger.capacity
  swapCapacity : after.swap.capacity = before.swap.capacity
  total : after.frames.total = before.frames.total

theorem SameShape.refl (pager : Pager) : pager.SameShape pager :=
  ⟨rfl, rfl, rfl, rfl, rfl, rfl⟩

theorem SameShape.trans {middle : Pager} (first : before.SameShape middle)
    (second : middle.SameShape after) : before.SameShape after where
  config := second.config.trans first.config
  isPaging := second.isPaging.trans first.isPaging
  maxResident := second.maxResident.trans first.maxResident
  ledgerCapacity := second.ledgerCapacity.trans first.ledgerCapacity
  swapCapacity := second.swapCapacity.trans first.swapCapacity
  total := second.total.trans first.total

/-- The most pages that can be in memory, and so the most that the clock
advances while a victim is chosen. -/
def turns (pager : Pager) : Nat :=
  min pager.ledger.maxResident (addressLimit / pageSize)

theorem SameShape.turns (same : before.SameShape after) :
    after.turns = before.turns := by
  rw [Pager.turns, Pager.turns, same.maxResident]

theorem Fits.of_sameShape (fits : before.Fits)
    (same : before.SameShape after) : after.Fits where
  total_le := same.total ▸ fits.total_le
  maxResident_eq := by
    rw [same.maxResident, same.config]
    exact fits.maxResident_eq
  capacity_eq := by
    rw [same.ledgerCapacity, same.config]
    exact fits.capacity_eq
  maxSwap_le := by
    rw [same.config, same.swapCapacity]
    exact fits.maxSwap_le
  maxResident_pos isPaging := by
    rw [same.config]
    exact fits.maxResident_pos (same.isPaging ▸ isPaging)
  isPaging_policy isPaging := by
    rw [same.config]
    exact fits.isPaging_policy (same.isPaging ▸ isPaging)

/-- The parts agree, except that the page `pending` is not yet tracked. -/
structure Sound (pending : Option Nat) (pager : Pager) : Prop where
  fits : pager.Fits
  ledger : pager.ledger.IsConsistent
  swap : pager.swap.IsConsistent
  frames : pager.frames.IsConsistent
  page_lt : ∀ address, (pager.entryAt address).isPresent = true →
    address < addressLimit
  resident : pager.isPaging = true → ∀ address,
    (pager.entryAt address).isValid = true →
      pending ≠ some (Address.pageBase address) →
        pager.residenceOf? (Address.pageBase address) =
          some (.resident (Address.pageBase address))
  swapped : ∀ address, (pager.entryAt address).isPagedOut = true →
    (pager.entryAt address).isValid = false →
      ∃ slot, pager.residenceOf? (Address.pageBase address) =
        some (.swapped (Address.pageBase address) slot)
  tracked : ∀ page residence, pager.residenceOf? page = some residence →
    pager.isPaging = true ∧ Address.pageBase page = page ∧
      pending ≠ some page ∧
        (pager.entryAt page).isValid = residence.isResident ∧
          (pager.entryAt page).isPagedOut = residence.isSwapped
  claimed : ∀ slot, pager.swap.isClaimed slot = true ↔
    ∃ page, pager.residenceOf? page = some (.swapped page slot)
  slot_inj : ∀ first second slot,
    pager.residenceOf? first = some (.swapped first slot) →
      pager.residenceOf? second = some (.swapped second slot) →
        first = second
  stored : ∀ page slot, pager.residenceOf? page = some (.swapped page slot) →
    ∃ bytes, pager.swap.contents? slot = some bytes
  framed : ∀ address, (pager.entryAt address).isValid = true →
    ∃ contents,
      pager.frames.contents? (pager.entryAt address).address = some contents
  frame_inj : ∀ first second, (pager.entryAt first).isValid = true →
    (pager.entryAt second).isValid = true →
      (pager.entryAt first).address = (pager.entryAt second).address →
        Address.pageBase first = Address.pageBase second

/-- All that happened is at the page `page`. -/
structure Alters (before after : Pager) (page : Nat) : Prop where
  shape : before.SameShape after
  aligned : Address.pageBase page = page
  entryAt : ∀ address, Address.pageBase address ≠ page →
    after.entryAt address = before.entryAt address
  residenceOf? : ∀ other, other ≠ page →
    after.residenceOf? other = before.residenceOf? other
  slots : ∀ other slot, other ≠ page →
    before.residenceOf? other = some (.swapped other slot) →
      after.swap.contents? slot = before.swap.contents? slot
  frames : ∀ address, Address.pageBase address ≠ page →
    (before.entryAt address).isValid = true →
      after.frames.contents? (before.entryAt address).address =
        before.frames.contents? (before.entryAt address).address

/-- The parts agree on the page `page`, where everything else is as `before`
has it. -/
structure SoundAt (before after : Pager) (pending : Option Nat)
    (page : Nat) : Prop where
  ledger : after.ledger.IsConsistent
  swap : after.swap.IsConsistent
  frames : after.frames.IsConsistent
  page_lt : (after.entryAt page).isPresent = true → page < addressLimit
  resident : after.isPaging = true → (after.entryAt page).isValid = true →
    pending ≠ some page → after.residenceOf? page = some (.resident page)
  swapped : (after.entryAt page).isPagedOut = true →
    (after.entryAt page).isValid = false →
      ∃ slot, after.residenceOf? page = some (.swapped page slot)
  tracked : ∀ residence, after.residenceOf? page = some residence →
    after.isPaging = true ∧ pending ≠ some page ∧
      (after.entryAt page).isValid = residence.isResident ∧
        (after.entryAt page).isPagedOut = residence.isSwapped
  claimed : ∀ slot, after.swap.isClaimed slot = true ↔
    after.residenceOf? page = some (.swapped page slot) ∨
      ∃ other, other ≠ page ∧
        before.residenceOf? other = some (.swapped other slot)
  slot_new : ∀ slot other, other ≠ page →
    after.residenceOf? page = some (.swapped page slot) →
      before.residenceOf? other ≠ some (.swapped other slot)
  stored : ∀ slot, after.residenceOf? page = some (.swapped page slot) →
    ∃ bytes, after.swap.contents? slot = some bytes
  framed : (after.entryAt page).isValid = true → ∃ contents,
    after.frames.contents? (after.entryAt page).address = some contents
  frame_new : (after.entryAt page).isValid = true → ∀ address,
    Address.pageBase address ≠ page →
      (before.entryAt address).isValid = true →
        (before.entryAt address).address ≠ (after.entryAt page).address

theorem entryAt_of_pageBase_eq (here : Address.pageBase address = page) :
    pager.entryAt address = pager.entryAt page := by
  rw [← here, entryAt_pageBase]

namespace Alters

/-- A change at one page keeps the parts in agreement if they agree on that
page. -/
theorem sound {pendingBefore : Option Nat} (alters : before.Alters after page)
    (sound : before.Sound pendingBefore)
    (here : SoundAt before after pending page)
    (samePending : ∀ other, other ≠ page →
      (pending = some other ↔ pendingBefore = some other)) :
    after.Sound pending where
  fits := sound.fits.of_sameShape alters.shape
  ledger := here.ledger
  swap := here.swap
  frames := here.frames
  page_lt address isPresent := by
    by_cases samePage : Address.pageBase address = page
    · rw [entryAt_of_pageBase_eq samePage] at isPresent
      have base_lt := here.page_lt isPresent
      have inPage := Address.lt_pageBase_add address
      have aligned := alters.aligned
      rw [samePage] at inPage
      simp only [Address.pageBase, pageSize, addressLimit] at *
      omega
    · rw [alters.entryAt address samePage] at isPresent
      exact sound.page_lt address isPresent
  resident isPaging address isValid notPending := by
    by_cases samePage : Address.pageBase address = page
    · rw [samePage] at notPending ⊢
      rw [entryAt_of_pageBase_eq samePage] at isValid
      exact here.resident isPaging isValid notPending
    · rw [alters.entryAt address samePage] at isValid
      rw [alters.residenceOf? _ samePage]
      refine sound.resident (alters.shape.isPaging ▸ isPaging) address isValid ?_
      rwa [Ne, ← samePending _ samePage]
  swapped address isPagedOut notValid := by
    by_cases samePage : Address.pageBase address = page
    · rw [entryAt_of_pageBase_eq samePage] at isPagedOut notValid
      rw [samePage]
      exact here.swapped isPagedOut notValid
    · rw [alters.entryAt address samePage] at isPagedOut notValid
      rw [alters.residenceOf? _ samePage]
      exact sound.swapped address isPagedOut notValid
  tracked other residence known := by
    by_cases samePage : other = page
    · subst samePage
      obtain ⟨isPaging, notPending, agrees⟩ := here.tracked residence known
      exact ⟨isPaging, alters.aligned, notPending, agrees⟩
    · rw [alters.residenceOf? other samePage] at known
      obtain ⟨isPaging, aligned, notPending, agrees⟩ :=
        sound.tracked other residence known
      have elsewhere : Address.pageBase other ≠ page := by
        rw [aligned]
        exact samePage
      rw [alters.entryAt other elsewhere]
      refine ⟨alters.shape.isPaging ▸ isPaging, aligned, ?_, agrees⟩
      rwa [Ne, samePending other samePage]
  claimed slot := by
    rw [here.claimed slot]
    constructor
    · rintro (known | ⟨other, elsewhere, known⟩)
      · exact ⟨page, known⟩
      · exact ⟨other, (alters.residenceOf? other elsewhere).trans known⟩
    · rintro ⟨other, known⟩
      by_cases samePage : other = page
      · subst samePage
        exact .inl known
      · rw [alters.residenceOf? other samePage] at known
        exact .inr ⟨other, samePage, known⟩
  slot_inj first second slot firstKnown secondKnown := by
    by_cases firstHere : first = page
    · by_cases secondHere : second = page
      · rw [firstHere, secondHere]
      · rw [alters.residenceOf? second secondHere] at secondKnown
        rw [firstHere] at firstKnown
        exact absurd secondKnown
          (here.slot_new slot second secondHere firstKnown)
    · rw [alters.residenceOf? first firstHere] at firstKnown
      by_cases secondHere : second = page
      · rw [secondHere] at secondKnown
        exact absurd firstKnown
          (here.slot_new slot first firstHere secondKnown)
      · rw [alters.residenceOf? second secondHere] at secondKnown
        exact sound.slot_inj first second slot firstKnown secondKnown
  stored other slot known := by
    by_cases samePage : other = page
    · rw [samePage] at known
      exact here.stored slot known
    · rw [alters.residenceOf? other samePage] at known
      rw [alters.slots other slot samePage known]
      exact sound.stored other slot known
  framed address isValid := by
    by_cases samePage : Address.pageBase address = page
    · rw [entryAt_of_pageBase_eq samePage] at isValid ⊢
      exact here.framed isValid
    · rw [alters.entryAt address samePage] at isValid ⊢
      rw [alters.frames address samePage isValid]
      exact sound.framed address isValid
  frame_inj first second firstValid secondValid same := by
    by_cases firstHere : Address.pageBase first = page
    · by_cases secondHere : Address.pageBase second = page
      · rw [firstHere, secondHere]
      · rw [entryAt_of_pageBase_eq firstHere] at firstValid same
        rw [alters.entryAt second secondHere] at secondValid same
        exact absurd same.symm
          (here.frame_new firstValid second secondHere secondValid)
    · rw [alters.entryAt first firstHere] at firstValid same
      by_cases secondHere : Address.pageBase second = page
      · rw [entryAt_of_pageBase_eq secondHere] at secondValid same
        exact absurd same
          (here.frame_new secondValid first firstHere firstValid)
      · rw [alters.entryAt second secondHere] at secondValid same
        exact sound.frame_inj first second firstValid secondValid same

/-- A change at one page leaves the bytes of every other page. -/
theorem bytesAt? (alters : before.Alters after page)
    (sound : before.Sound pending)
    (elsewhere : Address.pageBase address ≠ page) :
    after.bytesAt? (Address.pageBase address) =
      before.bytesAt? (Address.pageBase address) := by
  have sameBase : after.entryAt (Address.pageBase address) =
      before.entryAt (Address.pageBase address) := by
    rw [entryAt_pageBase, entryAt_pageBase, alters.entryAt address elsewhere]
  rw [Pager.bytesAt?, Pager.bytesAt?, sameBase, entryAt_pageBase]
  by_cases isValid : (before.entryAt address).isValid = true
  · rw [if_pos isValid, if_pos isValid,
      alters.frames address elsewhere isValid]
  · rw [if_neg isValid, if_neg isValid]
    by_cases isPagedOut : (before.entryAt address).isPagedOut = true
    · rw [if_pos isPagedOut, if_pos isPagedOut,
        alters.residenceOf? _ elsewhere]
      obtain ⟨slot, known⟩ := sound.swapped address isPagedOut
        (Bool.eq_false_iff.mpr isValid)
      rw [known]
      exact alters.slots _ slot elsewhere known
    · rw [if_neg isPagedOut, if_neg isPagedOut]

theorem logicalPage? (alters : before.Alters after page)
    (sound : before.Sound pending)
    (elsewhere : Address.pageBase address ≠ page) :
    after.logicalPage? address = before.logicalPage? address := by
  rw [Pager.logicalPage?, Pager.logicalPage?,
    alters.bytesAt? sound elsewhere, alters.entryAt address elsewhere]

/-- A frame is nobody's after a change at one page if it was no other page's
before and is not that page's now. -/
theorem unowned_iff (alters : before.Alters after page)
    (frames : after.frames = before.frames) :
    after.Unowned frame contents ↔
      before.frames.contents? frame = some contents ∧
        (∀ address, Address.pageBase address ≠ page →
          (before.entryAt address).isValid = true →
            (before.entryAt address).address ≠ frame) ∧
          ((after.entryAt page).isValid = true →
            (after.entryAt page).address ≠ frame) := by
  rw [Unowned, frames]
  refine and_congr_right fun _ => ?_
  constructor
  · intro notOwned
    refine ⟨fun address elsewhere isValid => ?_, notOwned page⟩
    rw [← alters.entryAt address elsewhere] at isValid ⊢
    exact notOwned address isValid
  · rintro ⟨elsewhere, atPage⟩ address isValid
    by_cases samePage : Address.pageBase address = page
    · rw [entryAt_of_pageBase_eq samePage] at isValid ⊢
      exact atPage isValid
    · rw [alters.entryAt address samePage] at isValid ⊢
      exact elsewhere address samePage isValid

end Alters

/-- A frame is nobody's if it is no other page's and not that page's. -/
theorem unowned_iff_of_aligned (aligned : Address.pageBase page = page) :
    pager.Unowned frame contents ↔
      pager.frames.contents? frame = some contents ∧
        (∀ address, Address.pageBase address ≠ page →
          (pager.entryAt address).isValid = true →
            (pager.entryAt address).address ≠ frame) ∧
          ((pager.entryAt page).isValid = true →
            (pager.entryAt page).address ≠ frame) :=
  Alters.unowned_iff
    { shape := .refl pager
      aligned := aligned
      entryAt := fun _ _ => rfl
      residenceOf? := fun _ _ => rfl
      slots := fun _ _ _ _ => rfl
      frames := fun _ _ _ => rfl } rfl

end Pager

end DemandPaging
