import DemandPaging.Proofs.Pager.Sound

/-!
# Moves that user code does not see

Whatever an address space does to its parts is made of a few moves.  Each is
described by what it does to the views, and has three statements: it keeps the
parts in agreement, it changes at most one page as user code sees it, and it
says which frames it takes or leaves.

The moves of this module are those that leave memory as user code sees it:
entries are relabelled, a page goes to swap, and a page comes back.
-/

namespace DemandPaging

namespace Pager

variable {pager before after : Pager} {pending : Option Nat}
  {address page other slot frame : Nat} {contents : Page} {flags : Flags}

theorem not_tracked_of_pending (sound : before.Sound (some page)) :
    before.residenceOf? page = none := by
  cases known : before.residenceOf? page with
  | none => rfl
  | some residence =>
      have notPending := (sound.tracked page residence known).2.2.1
      exact absurd rfl notPending

theorem Sound.isPresent_of_residenceOf? {residence : Residence}
    (sound : before.Sound pending)
    (known : before.residenceOf? page = some residence) :
    (before.entryAt page).isPresent = true := by
  obtain ⟨_, _, _, isValid, isPagedOut⟩ := sound.tracked page residence known
  rw [Entry.isPresent, isValid, isPagedOut]
  obtain rfl | ⟨_, rfl⟩ := sound.ledger.resident_or_swapped known
  · rfl
  · rfl

theorem Sound.residenceOf?_of_not_isPresent (sound : before.Sound pending)
    (absent : (before.entryAt page).isPresent = false) :
    before.residenceOf? page = none := by
  cases known : before.residenceOf? page with
  | none => rfl
  | some residence =>
      rw [sound.isPresent_of_residenceOf? known] at absent
      cases absent

theorem isPresent_of_isValid {entry : Entry} (isValid : entry.isValid = true) :
    entry.isPresent = true := by
  rw [Entry.isPresent, isValid, Bool.true_or]

/-- Every claimed slot is held by a page, and by no second one. -/
theorem Sound.isClaimed_iff (sound : before.Sound pending)
    (known : before.residenceOf? page = some (.swapped page slot)) (other : Nat) :
    (other ≠ slot ∧ before.swap.isClaimed other = true) ↔
      ∃ holder, holder ≠ page ∧
        before.residenceOf? holder = some (.swapped holder other) := by
  rw [sound.claimed other]
  constructor
  · rintro ⟨different, holder, holds⟩
    refine ⟨holder, ?_, holds⟩
    rintro rfl
    rw [known] at holds
    cases holds
    exact different rfl
  · rintro ⟨holder, different, holds⟩
    refine ⟨?_, holder, holds⟩
    rintro rfl
    exact different (sound.slot_inj holder page other holds known)

/-- A page that is not in swap holds no slot. -/
theorem Sound.isClaimed_iff_of_not_swapped (sound : before.Sound pending)
    (notSwapped : ∀ slot,
      before.residenceOf? page ≠ some (.swapped page slot)) (other : Nat) :
    before.swap.isClaimed other = true ↔
      ∃ holder, holder ≠ page ∧
        before.residenceOf? holder = some (.swapped holder other) := by
  rw [sound.claimed other]
  constructor
  · rintro ⟨holder, holds⟩
    refine ⟨holder, ?_, holds⟩
    rintro rfl
    exact notSwapped other holds
  · rintro ⟨holder, _, holds⟩
    exact ⟨holder, holds⟩

/-- Entries may have other flags, but none becomes valid or invalid, goes to
swap or comes from there, or points elsewhere. -/
structure Relabels (before after : Pager) : Prop where
  shape : before.SameShape after
  ledger : after.ledger.IsConsistent
  swap : after.swap = before.swap
  frames : after.frames = before.frames
  isValid : ∀ address,
    (after.entryAt address).isValid = (before.entryAt address).isValid
  isPagedOut : ∀ address,
    (after.entryAt address).isPagedOut = (before.entryAt address).isPagedOut
  address : ∀ address,
    (after.entryAt address).address = (before.entryAt address).address
  residenceOf? : ∀ page, after.residenceOf? page = before.residenceOf? page

namespace Relabels

theorem isPresent (relabels : before.Relabels after) (address : Nat) :
    (after.entryAt address).isPresent =
      (before.entryAt address).isPresent := by
  rw [Entry.isPresent, Entry.isPresent, relabels.isValid, relabels.isPagedOut]

theorem sound (relabels : before.Relabels after)
    (sound : before.Sound pending) : after.Sound pending where
  fits := sound.fits.of_sameShape relabels.shape
  ledger := relabels.ledger
  swap := relabels.swap ▸ sound.swap
  frames := relabels.frames ▸ sound.frames
  page_lt address isPresent :=
    sound.page_lt address (relabels.isPresent address ▸ isPresent)
  resident isPaging address isValid notPending := by
    rw [relabels.residenceOf?]
    exact sound.resident (relabels.shape.isPaging ▸ isPaging) address
      (relabels.isValid address ▸ isValid) notPending
  swapped address isPagedOut notValid := by
    simp only [relabels.residenceOf?]
    exact sound.swapped address (relabels.isPagedOut address ▸ isPagedOut)
      (relabels.isValid address ▸ notValid)
  tracked page residence known := by
    rw [relabels.residenceOf?] at known
    rw [relabels.shape.isPaging, relabels.isValid, relabels.isPagedOut]
    exact sound.tracked page residence known
  claimed slot := by
    simp only [relabels.residenceOf?, relabels.swap]
    exact sound.claimed slot
  slot_inj first second slot firstKnown secondKnown := by
    rw [relabels.residenceOf?] at firstKnown secondKnown
    exact sound.slot_inj first second slot firstKnown secondKnown
  stored page slot known := by
    rw [relabels.residenceOf?] at known
    rw [relabels.swap]
    exact sound.stored page slot known
  framed address isValid := by
    rw [relabels.frames, relabels.address]
    exact sound.framed address (relabels.isValid address ▸ isValid)
  frame_inj first second firstValid secondValid same := by
    rw [relabels.address, relabels.address] at same
    exact sound.frame_inj first second (relabels.isValid first ▸ firstValid)
      (relabels.isValid second ▸ secondValid) same

theorem bytesAt? (relabels : before.Relabels after) (page : Nat) :
    after.bytesAt? page = before.bytesAt? page := by
  rw [Pager.bytesAt?, Pager.bytesAt?, relabels.isValid, relabels.isPagedOut,
    relabels.address, relabels.residenceOf?, relabels.swap, relabels.frames]

theorem logicalPage? (relabels : before.Relabels after)
    (permissions : (after.entryAt address).flags.permissions =
      (before.entryAt address).flags.permissions) :
    after.logicalPage? address = before.logicalPage? address := by
  rw [Pager.logicalPage?, Pager.logicalPage?, relabels.bytesAt?, permissions]

theorem unowned_iff (relabels : before.Relabels after) :
    after.Unowned frame contents ↔ before.Unowned frame contents := by
  rw [Unowned, Unowned, relabels.frames]
  refine and_congr_right fun _ => forall_congr' fun address => ?_
  rw [relabels.isValid, relabels.address]

end Relabels

/-- The page at `page` goes to the slot `slot`; its frame stays lent. -/
structure SwapsOut (before after : Pager) (page slot : Nat) : Prop where
  shape : before.SameShape after
  ledger : after.ledger.IsConsistent
  swap : after.swap.IsConsistent
  frames : after.frames = before.frames
  known : before.residenceOf? page = some (.resident page)
  isFree : before.swap.isClaimed slot = false
  entryAt : ∀ address, after.entryAt address =
    if Address.pageBase address = page then
      Entry.pagedOut (before.entryAt page).flags
    else before.entryAt address
  residenceOf? : ∀ other, after.residenceOf? other =
    if other = page then some (.swapped page slot)
    else before.residenceOf? other
  isClaimed : ∀ other, after.swap.isClaimed other =
    if other = slot then true else before.swap.isClaimed other
  contents? : ∀ other, after.swap.contents? other =
    if other = slot then before.bytesAt? page
    else before.swap.contents? other

namespace SwapsOut

theorem unheld (moves : before.SwapsOut after page slot)
    (sound : before.Sound pending) (other : Nat) :
    before.residenceOf? other ≠ some (.swapped other slot) := by
  intro holds
  have claimed := (sound.claimed slot).mpr ⟨other, holds⟩
  rw [moves.isFree] at claimed
  cases claimed

theorem alters (moves : before.SwapsOut after page slot)
    (sound : before.Sound pending) : before.Alters after page where
  shape := moves.shape
  aligned := (sound.tracked page _ moves.known).2.1
  entryAt address elsewhere := by rw [moves.entryAt, if_neg elsewhere]
  residenceOf? other elsewhere := by rw [moves.residenceOf?, if_neg elsewhere]
  slots other otherSlot _ holds := by
    rw [moves.contents?, if_neg]
    rintro rfl
    exact moves.unheld sound other holds
  frames _ _ _ := by rw [moves.frames]

theorem entryAt_page (moves : before.SwapsOut after page slot)
    (sound : before.Sound pending) :
    after.entryAt page = Entry.pagedOut (before.entryAt page).flags := by
  rw [moves.entryAt, if_pos (sound.tracked page _ moves.known).2.1]

theorem sound (moves : before.SwapsOut after page slot)
    (sound : before.Sound pending) : after.Sound pending := by
  have entry := moves.entryAt_page sound
  have residence : after.residenceOf? page = some (.swapped page slot) := by
    rw [moves.residenceOf?, if_pos rfl]
  obtain ⟨isPaging, _, notPending, isValid, _⟩ :=
    sound.tracked page _ moves.known
  refine (moves.alters sound).sound sound ?_ fun _ _ => Iff.rfl
  exact {
    ledger := moves.ledger
    swap := moves.swap
    frames := moves.frames ▸ sound.frames
    page_lt := fun _ =>
      sound.page_lt page (sound.isPresent_of_residenceOf? moves.known)
    resident := by
      intro _ isValid
      rw [entry] at isValid
      cases isValid
    swapped := fun _ _ => ⟨slot, residence⟩
    tracked := by
      intro held known
      rw [residence] at known
      cases known
      rw [moves.shape.isPaging, entry]
      exact ⟨isPaging, notPending, rfl, rfl⟩
    claimed := by
      intro other
      have notSwapped : ∀ slot,
          before.residenceOf? page ≠ some (.swapped page slot) := by
        intro slot swapped
        cases moves.known.symm.trans swapped
      rw [moves.isClaimed, residence,
        ← sound.isClaimed_iff_of_not_swapped notSwapped]
      by_cases same : other = slot
      · simp [same]
      · simp [same, Ne.symm same]
    slot_new := by
      intro held other _ known
      rw [residence] at known
      cases known
      exact moves.unheld sound other
    stored := by
      intro held known
      rw [residence] at known
      cases known
      have inFrame : (before.entryAt page).isValid = true := isValid
      obtain ⟨contents, lent⟩ := sound.framed page inFrame
      rw [moves.contents?, if_pos rfl, bytesAt?, if_pos inFrame]
      exact ⟨contents.toList, by rw [lent]; rfl⟩
    framed := by
      intro isValid
      rw [entry] at isValid
      cases isValid
    frame_new := by
      intro isValid
      rw [entry] at isValid
      cases isValid }

theorem logicalPage? (moves : before.SwapsOut after page slot)
    (sound : before.Sound pending) (address : Nat) :
    after.logicalPage? address = before.logicalPage? address := by
  by_cases samePage : Address.pageBase address = page
  · have entry := moves.entryAt_page sound
    have bytes : after.bytesAt? page = before.bytesAt? page := by
      rw [Pager.bytesAt?, entry]
      simp only [Entry.isValid_pagedOut, Entry.isPagedOut_pagedOut,
        Bool.false_eq_true, ↓reduceIte]
      rw [moves.residenceOf?, if_pos rfl]
      simp only [Option.bind_some, Residence.slot?]
      rw [moves.contents?, if_pos rfl]
    rw [Pager.logicalPage?, Pager.logicalPage?, samePage, bytes,
      entryAt_of_pageBase_eq samePage, entryAt_of_pageBase_eq samePage, entry]
    rfl
  · exact (moves.alters sound).logicalPage? sound samePage

/-- The frame of a page that went to swap is nobody's. -/
theorem unowned_iff (moves : before.SwapsOut after page slot)
    (sound : before.Sound pending) :
    after.Unowned frame contents ↔ before.Unowned frame contents ∨
      frame = (before.entryAt page).address ∧
        before.frames.contents? frame = some contents := by
  have aligned := (sound.tracked page _ moves.known).2.1
  have isValid : (before.entryAt page).isValid = true :=
    (sound.tracked page _ moves.known).2.2.2.1
  rw [(moves.alters sound).unowned_iff moves.frames,
    unowned_iff_of_aligned aligned, moves.entryAt_page sound]
  constructor
  · rintro ⟨lent, elsewhere, _⟩
    by_cases own : frame = (before.entryAt page).address
    · exact .inr ⟨own, lent⟩
    · exact .inl ⟨lent, elsewhere, fun _ => Ne.symm own⟩
  · rintro (⟨lent, elsewhere, _⟩ | ⟨rfl, lent⟩)
    · exact ⟨lent, elsewhere, fun impossible => nomatch impossible⟩
    · refine ⟨lent, fun address elsewhere addressValid same => ?_,
        fun impossible => nomatch impossible⟩
      have samePage := sound.frame_inj address page addressValid isValid same
      rw [aligned] at samePage
      exact elsewhere samePage

end SwapsOut

/-- The page at `page` comes from the slot `slot` into the frame `frame`, which
is nobody's. -/
structure SwapsIn (before after : Pager) (page slot frame : Nat) : Prop where
  shape : before.SameShape after
  ledger : after.ledger.IsConsistent
  swap : after.swap.IsConsistent
  frames : after.frames = before.frames
  known : before.residenceOf? page = some (.swapped page slot)
  filled : ∃ contents, before.Unowned frame contents ∧
    before.bytesAt? page = some contents.toList
  pointed : ∀ flags, (Entry.resident frame flags).address = frame
  entryAt : ∀ address, after.entryAt address =
    if Address.pageBase address = page then
      Entry.resident frame (before.entryAt page).flags
    else before.entryAt address
  residenceOf? : ∀ other, after.residenceOf? other =
    if other = page then some (.resident page)
    else before.residenceOf? other
  isClaimed : ∀ other, after.swap.isClaimed other =
    if other = slot then false else before.swap.isClaimed other
  contents? : ∀ other, after.swap.contents? other =
    before.swap.contents? other

namespace SwapsIn

theorem alters (moves : before.SwapsIn after page slot frame)
    (sound : before.Sound pending) : before.Alters after page where
  shape := moves.shape
  aligned := (sound.tracked page _ moves.known).2.1
  entryAt address elsewhere := by rw [moves.entryAt, if_neg elsewhere]
  residenceOf? other elsewhere := by rw [moves.residenceOf?, if_neg elsewhere]
  slots _ _ _ _ := moves.contents? _
  frames _ _ _ := by rw [moves.frames]

theorem entryAt_page (moves : before.SwapsIn after page slot frame)
    (sound : before.Sound pending) :
    after.entryAt page =
      Entry.resident frame (before.entryAt page).flags := by
  rw [moves.entryAt, if_pos (sound.tracked page _ moves.known).2.1]

theorem sound (moves : before.SwapsIn after page slot frame)
    (sound : before.Sound pending) : after.Sound pending := by
  have entry := moves.entryAt_page sound
  have residence : after.residenceOf? page = some (.resident page) := by
    rw [moves.residenceOf?, if_pos rfl]
  obtain ⟨isPaging, _, notPending, _⟩ := sound.tracked page _ moves.known
  obtain ⟨contents, ⟨lent, notOwned⟩, _⟩ := moves.filled
  refine (moves.alters sound).sound sound ?_ fun _ _ => Iff.rfl
  exact {
    ledger := moves.ledger
    swap := moves.swap
    frames := moves.frames ▸ sound.frames
    page_lt := fun _ =>
      sound.page_lt page (sound.isPresent_of_residenceOf? moves.known)
    resident := fun _ _ _ => residence
    swapped := by
      intro isPagedOut
      rw [entry] at isPagedOut
      cases isPagedOut
    tracked := by
      intro held known
      rw [residence] at known
      cases known
      rw [moves.shape.isPaging, entry]
      exact ⟨isPaging, notPending, rfl, rfl⟩
    claimed := by
      intro other
      rw [moves.isClaimed, residence, ← sound.isClaimed_iff moves.known]
      by_cases same : other = slot
      · simp [same]
      · simp [same]
    slot_new := by
      intro held other _ known
      rw [residence] at known
      cases known
    stored := by
      intro held known
      rw [residence] at known
      cases known
    framed := by
      intro _
      rw [entry, moves.pointed, moves.frames]
      exact ⟨contents, lent⟩
    frame_new := by
      intro _ address _ isValid
      rw [entry, moves.pointed]
      exact notOwned address isValid }

theorem logicalPage? (moves : before.SwapsIn after page slot frame)
    (sound : before.Sound pending) (address : Nat) :
    after.logicalPage? address = before.logicalPage? address := by
  by_cases samePage : Address.pageBase address = page
  · have entry := moves.entryAt_page sound
    obtain ⟨contents, ⟨lent, _⟩, held⟩ := moves.filled
    have bytes : after.bytesAt? page = before.bytesAt? page := by
      rw [Pager.bytesAt?, entry, held]
      simp only [Entry.isValid_resident, ↓reduceIte]
      rw [moves.pointed, moves.frames, lent]
      rfl
    rw [Pager.logicalPage?, Pager.logicalPage?, samePage, bytes,
      entryAt_of_pageBase_eq samePage, entryAt_of_pageBase_eq samePage, entry]
    rfl
  · exact (moves.alters sound).logicalPage? sound samePage

theorem unowned_iff (moves : before.SwapsIn after page slot frame)
    (sound : before.Sound pending) :
    after.Unowned other contents ↔
      before.Unowned other contents ∧ other ≠ frame := by
  obtain ⟨_, aligned, _, notValid, _⟩ := sound.tracked page _ moves.known
  have isInvalid : (before.entryAt page).isValid ≠ true := by
    rw [notValid]
    exact Bool.false_ne_true
  rw [(moves.alters sound).unowned_iff moves.frames,
    unowned_iff_of_aligned aligned, moves.entryAt_page sound, moves.pointed]
  constructor
  · rintro ⟨lent, elsewhere, different⟩
    exact ⟨⟨lent, elsewhere, fun isValid => absurd isValid isInvalid⟩,
      Ne.symm (different rfl)⟩
  · rintro ⟨⟨lent, elsewhere, _⟩, different⟩
    exact ⟨lent, elsewhere, fun _ => Ne.symm different⟩

end SwapsIn

end Pager

end DemandPaging
