import DemandPaging.Proofs.UserCopy.Formed

/-!
# A page comes and another one leaves

When a page comes back from swap, another one may leave memory for it, perhaps
to the very slot that is given up.  `Replaces` says page by page where
everything is then.  A formed space stays formed, and no page loses its
permissions or its bytes.
-/

namespace DemandPaging

namespace Pager

/-- Page table and ledger agree on where the page at `page` is. -/
structure Stands (pager : Pager) (page : Nat) : Prop where
  aligned : ∀ residence, pager.residenceOf? page = some residence →
    Address.pageBase page = page
  isValid_iff : Address.pageBase page = page →
    ((pager.entryAt page).isValid = true ↔
      pager.residenceOf? page = some (.resident page))
  isPagedOut_iff : Address.pageBase page = page →
    ((pager.entryAt page).isPagedOut = true ↔
      ∃ slot, pager.residenceOf? page = some (.swapped page slot))

/-- Marks of references do not matter for where a page stands. -/
theorem Stands.of_same {before after : Pager}
    (stands : before.Stands page)
    (marks : Address.pageBase page = page →
      (before.entryAt page).SameButMarks (after.entryAt page))
    (known : after.residenceOf? page = before.residenceOf? page) :
    after.Stands page where
  aligned := by
    rw [known]
    exact stands.aligned
  isValid_iff aligned := by
    rw [known, (marks aligned).isValid]
    exact stands.isValid_iff aligned
  isPagedOut_iff aligned := by
    rw [known, (marks aligned).isPagedOut]
    exact stands.isPagedOut_iff aligned

/-- A page that is there before and afterwards, with its permissions and its
bytes, has the view that it had. -/
theorem view?_eq_of_isPresent {before after : Pager} {address page : Nat}
    (here : Address.pageBase address = page)
    (isPresent : (before.entryAt page).isPresent = true)
    (stillPresent : (after.entryAt page).isPresent = true)
    (permissions : (after.entryAt page).flags.permissions =
      (before.entryAt page).flags.permissions)
    (bytes : after.bytesAt? page = before.bytesAt? page) :
    after.view? address = before.view? address := by
  rw [view?, view?, here, entryAt_of_pageBase_eq here,
    entryAt_of_pageBase_eq here, if_pos isPresent, if_pos stillPresent,
    permissions, bytes]

end Pager

namespace AddressSpace

variable {state before after : Hosted AddressSpace}
  {page slot frame address : Nat}

theorem IsFormed.stands (formed : IsFormed state)
    (isPaging : state.focus.isPaging = true) (page : Nat) :
    (pager state).Stands page where
  aligned _ known := (formed.tracked isPaging known).1
  isValid_iff aligned := by
    constructor
    · intro isValid
      have known := formed.residenceOf?_of_isValid isPaging isValid
      rwa [aligned] at known
    · exact fun known => (formed.tracked isPaging known).2.1
  isPagedOut_iff aligned := by
    constructor
    · intro isPagedOut
      have known := formed.swapped isPaging isPagedOut
      rwa [aligned] at known
    · rintro ⟨slot, known⟩
      exact (formed.tracked isPaging known).2.2

/-- The parts of a space under paging agree where every page stands and every
claimed slot is a page's. -/
theorem agrees_of_stands (isPaging : state.focus.isPaging = true)
    (consistent : state.focus.ledger.IsConsistent)
    (stands : ∀ page, (pager state).Stands page)
    (isClaimed_iff : ∀ slot, state.focus.swap.isClaimed slot = true ↔
      ∃ page, (pager state).residenceOf? page = some (.swapped page slot))
    (slot_inj : ∀ first second slot,
      (pager state).residenceOf? first = some (.swapped first slot) →
        (pager state).residenceOf? second = some (.swapped second slot) →
          first = second)
    (residentCount_le :
      state.focus.ledger.residentCount ≤ state.focus.ledger.maxResident) :
    state.focus.Agrees where
  exclusive page entry leaf := by
    obtain ⟨aligned, rfl, _⟩ := PageTable.mem_leaves_iff_entryAt.mp leaf
    rintro ⟨isValid, isPagedOut⟩
    have resident := ((stands page).isValid_iff aligned).mp isValid
    obtain ⟨slot, swapped⟩ :=
      ((stands page).isPagedOut_iff aligned).mp isPagedOut
    cases resident.symm.trans swapped
  tracks _ := {
    isMapped_iff := by
      intro page
      rw [isMapped_iff, isResident_iff consistent]
      constructor
      · rintro ⟨aligned, isValid⟩
        exact ((stands page).isValid_iff aligned).mp isValid
      · intro known
        have aligned := (stands page).aligned _ known
        exact ⟨aligned, ((stands page).isValid_iff aligned).mpr known⟩
    isPagedOut_iff := by
      intro page
      simp only [isPagedOut_iff, holdsSlot_iff consistent]
      constructor
      · rintro ⟨aligned, isPagedOut⟩
        exact ((stands page).isPagedOut_iff aligned).mp isPagedOut
      · rintro ⟨slot, known⟩
        have aligned := (stands page).aligned _ known
        exact ⟨aligned,
          ((stands page).isPagedOut_iff aligned).mpr ⟨slot, known⟩⟩
    isClaimed_iff := by
      intro slot
      simp only [holdsSlot_iff consistent]
      exact isClaimed_iff slot
    slot_inj := by
      intro first second slot firstHolds secondHolds
      exact slot_inj first second slot
        ((holdsSlot_iff consistent).mp firstHolds)
        ((holdsSlot_iff consistent).mp secondHolds)
    residentCount_le := residentCount_le }
  not_isPagedOut notPaging := by
    cases isPaging.symm.trans notPaging

/-- The page that holds `address` was neither brought in nor marked as
referenced. -/
structure Undisturbed (before after : Hosted AddressSpace) (address : Nat) :
    Prop where
  isValid : ((pager after).entryAt address).isValid = true →
    ((pager before).entryAt address).isValid = true
  accessed : ((pager after).entryAt address).flags.accessed = true →
    ((pager before).entryAt address).flags.accessed = true

/-- A page that left the frame `frame` for the slot `slot`. -/
structure Leaver where
  page : Nat
  frame : Nat
  slot : Nat

/-- The page `gone` was in memory and is in swap. -/
structure GoesToSwap (before after : Hosted AddressSpace) (gone : Leaver) :
    Prop where
  wasResident : (pager before).residenceOf? gone.page =
    some (.resident gone.page)
  address : ((pager before).entryAt gone.page).address = gone.frame
  isSwapped : (pager after).residenceOf? gone.page =
    some (.swapped gone.page gone.slot)
  notValid : ((pager after).entryAt gone.page).isValid = false
  isPagedOut : ((pager after).entryAt gone.page).isPagedOut = true
  permissions : ((pager after).entryAt gone.page).flags.permissions =
    ((pager before).entryAt gone.page).flags.permissions
  bytes : ∃ bytes, frameBytes? before gone.frame = some bytes ∧
    after.focus.slotBytes? gone.slot = some bytes

/-- The parts are consistent and have the sizes that they had. -/
structure Regular (before after : Hosted AddressSpace) : Prop where
  shape : (pager before).SameShape (pager after)
  served : IsServed after
  ledger : after.focus.ledger.IsConsistent
  swap : after.focus.swap.IsConsistent
  frames : (pager after).frames.IsConsistent
  residentCount_le :
    after.focus.ledger.residentCount ≤ after.focus.ledger.maxResident

/-- The page at `page` came from the slot `slot` into the frame `frame`, and
the page `leaver`, if there is one, left for it. -/
structure Replaces (before after : Hosted AddressSpace)
    (page slot frame : Nat) (leaver : Option Leaver) : Prop extends
    Regular before after where
  known : (pager before).residenceOf? page = some (.swapped page slot)
  resident : (pager after).residenceOf? page = some (.resident page)
  entry : (pager after).entryAt page =
    Entry.resident frame ((pager before).entryAt page).flags
  fresh : frameBytes? before frame = none
  bytes : ∃ bytes, before.focus.slotBytes? slot = some bytes ∧
    frameBytes? after frame = some bytes
  leaves : ∀ gone ∈ leaver, GoesToSwap before after gone
  marks : ∀ address, Address.pageBase address ≠ page →
    (∀ gone ∈ leaver, Address.pageBase address ≠ gone.page) →
      ((pager before).entryAt address).SameButMarks
        ((pager after).entryAt address)
  accessed : ∀ address, Address.pageBase address ≠ page →
    ((pager after).entryAt address).flags.accessed = true →
      ((pager before).entryAt address).flags.accessed = true
  residenceOf? : ∀ other, other ≠ page →
    (∀ gone ∈ leaver, other ≠ gone.page) →
      (pager after).residenceOf? other = (pager before).residenceOf? other
  isClaimed_iff : ∀ number, after.focus.swap.isClaimed number = true ↔
    (∃ gone ∈ leaver, gone.slot = number) ∨
      number ≠ slot ∧ before.focus.swap.isClaimed number = true
  target : ∀ gone ∈ leaver, gone.slot = slot ∨
    before.focus.swap.isClaimed gone.slot = false
  slotBytes? : ∀ number, (∀ gone ∈ leaver, number ≠ gone.slot) →
    after.focus.slotBytes? number = before.focus.slotBytes? number
  frameBytes? : ∀ number, number ≠ frame →
    (∀ gone ∈ leaver, number ≠ gone.frame) →
      AddressSpace.frameBytes? after number =
        AddressSpace.frameBytes? before number

theorem bytesAt?_of_isValid
    (isValid : ((pager state).entryAt address).isValid = true) :
    (pager state).bytesAt? address = frameBytes? state
      ((pager state).entryAt address).address := by
  rw [Pager.bytesAt?, if_pos isValid, frameBytes?_eq]
  rfl

/-- The bytes of a page in swap are those of its slot. -/
theorem bytesAt?_of_swapped
    (notValid : ((pager state).entryAt page).isValid = false)
    (isPagedOut : ((pager state).entryAt page).isPagedOut = true)
    (known : (pager state).residenceOf? page = some (.swapped page slot)) :
    (pager state).bytesAt? page = state.focus.slotBytes? slot := by
  rw [Pager.bytesAt?, notValid, if_neg Bool.false_ne_true, if_pos isPagedOut,
    known]
  rfl

namespace Replaces

variable {leaver : Option Leaver}

theorem cases_page (leaver : Option Leaver) (page other : Nat) :
    other = page ∨ (∃ gone ∈ leaver, other = gone.page) ∨
      other ≠ page ∧ ∀ gone ∈ leaver, other ≠ gone.page := by
  by_cases here : other = page
  · exact .inl here
  by_cases left : ∃ gone ∈ leaver, other = gone.page
  · exact .inr (.inl left)
  · exact .inr (.inr ⟨here, fun gone member same =>
      left ⟨gone, member, same⟩⟩)

variable (replaces : Replaces before after page slot frame leaver)
  (formed : IsFormed before) (isPaging : before.focus.isPaging = true)

include replaces formed isPaging

theorem stands (other : Nat) : (pager after).Stands other := by
  obtain rfl | ⟨gone, member, rfl⟩ | ⟨elsewhere, stays⟩ :=
    cases_page leaver page other
  · have aligned := (formed.tracked isPaging replaces.known).1
    refine ⟨fun _ _ => aligned, fun _ => ?_, fun _ => ?_⟩
    · rw [replaces.entry, replaces.resident]
      exact iff_of_true rfl rfl
    · rw [replaces.entry, replaces.resident]
      exact iff_of_false (Bool.false_ne_true) fun ⟨_, known⟩ => nomatch known
  · have leaves := replaces.leaves gone member
    have aligned := (formed.tracked isPaging leaves.wasResident).1
    refine ⟨fun _ _ => aligned, fun _ => ?_, fun _ => ?_⟩
    · rw [leaves.notValid, leaves.isSwapped]
      exact iff_of_false Bool.false_ne_true fun known => nomatch known
    · rw [leaves.isPagedOut, leaves.isSwapped]
      exact iff_of_true rfl ⟨_, rfl⟩
  · refine (formed.stands isPaging other).of_same (fun aligned => ?_)
      (replaces.residenceOf? other elsewhere stays)
    exact replaces.marks other (by rwa [aligned]) (by rwa [aligned])

omit formed isPaging in
/-- Who holds a slot afterwards. -/
theorem holds_iff {other number : Nat} :
    (pager after).residenceOf? other = some (.swapped other number) ↔
      (∃ gone ∈ leaver, other = gone.page ∧ number = gone.slot) ∨
        other ≠ page ∧
          (pager before).residenceOf? other =
            some (.swapped other number) := by
  obtain rfl | ⟨gone, member, rfl⟩ | ⟨elsewhere, stays⟩ :=
    cases_page leaver page other
  · rw [replaces.resident]
    refine iff_of_false (fun known => nomatch known) ?_
    rintro (⟨gone, member, rfl, _⟩ | ⟨elsewhere, _⟩)
    · cases replaces.known.symm.trans (replaces.leaves gone member).wasResident
    · exact elsewhere rfl
  · have leaves := replaces.leaves gone member
    rw [leaves.isSwapped, leaves.wasResident]
    constructor
    · rintro ⟨⟩
      exact .inl ⟨gone, member, rfl, rfl⟩
    · rintro (⟨other, otherMember, _, rfl⟩ | ⟨_, known⟩)
      · obtain rfl := Option.mem_unique member otherMember
        rfl
      · cases known
  · rw [replaces.residenceOf? other elsewhere stays]
    constructor
    · exact fun known => .inr ⟨elsewhere, known⟩
    · rintro (⟨gone, member, same, _⟩ | ⟨_, known⟩)
      · exact absurd same (stays gone member)
      · exact known

theorem unheld {gone : Leaver} (member : gone ∈ leaver) {other : Nat}
    (elsewhere : other ≠ page) :
    (pager before).residenceOf? other ≠ some (.swapped other gone.slot) := by
  intro known
  have tracks := formed.agrees.tracks isPaging
  obtain same | isFree := replaces.target gone member
  · refine elsewhere (tracks.slot_inj
      ((holdsSlot_iff formed.ledger).mpr known)
      ((holdsSlot_iff formed.ledger).mpr ?_))
    rw [same]
    exact replaces.known
  · have claimed := (tracks.isClaimed_iff _).mpr
      ⟨other, (holdsSlot_iff formed.ledger).mpr known⟩
    cases isFree.symm.trans claimed

theorem slot_inj {first second number : Nat}
    (firstKnown : (pager after).residenceOf? first =
      some (.swapped first number))
    (secondKnown : (pager after).residenceOf? second =
      some (.swapped second number)) : first = second := by
  obtain ⟨gone, member, rfl, rfl⟩ | ⟨firstElsewhere, firstHeld⟩ :=
    replaces.holds_iff.mp firstKnown
  · obtain ⟨other, otherMember, rfl, _⟩ | ⟨elsewhere, held⟩ :=
      replaces.holds_iff.mp secondKnown
    · rw [Option.mem_unique member otherMember]
    · exact absurd held (replaces.unheld formed isPaging member elsewhere)
  · obtain ⟨gone, member, rfl, rfl⟩ | ⟨_, secondHeld⟩ :=
      replaces.holds_iff.mp secondKnown
    · exact absurd firstHeld
        (replaces.unheld formed isPaging member firstElsewhere)
    · exact (formed.agrees.tracks isPaging).slot_inj
        ((holdsSlot_iff formed.ledger).mpr firstHeld)
        ((holdsSlot_iff formed.ledger).mpr secondHeld)

theorem isClaimed_iff_holds (number : Nat) :
    after.focus.swap.isClaimed number = true ↔
      ∃ other, (pager after).residenceOf? other =
        some (.swapped other number) := by
  have tracks := formed.agrees.tracks isPaging
  rw [replaces.isClaimed_iff]
  constructor
  · rintro (⟨gone, member, rfl⟩ | ⟨different, claimed⟩)
    · exact ⟨gone.page, (replaces.leaves gone member).isSwapped⟩
    · obtain ⟨other, holds⟩ := (tracks.isClaimed_iff number).mp claimed
      have known := (holdsSlot_iff formed.ledger).mp holds
      refine ⟨other, replaces.holds_iff.mpr (.inr ⟨?_, known⟩)⟩
      rintro rfl
      cases replaces.known.symm.trans known
      exact different rfl
  · rintro ⟨other, known⟩
    obtain ⟨gone, member, _, rfl⟩ | ⟨elsewhere, held⟩ :=
      replaces.holds_iff.mp known
    · exact .inl ⟨gone, member, rfl⟩
    · have holds := (holdsSlot_iff formed.ledger).mpr held
      refine .inr ⟨?_, (tracks.isClaimed_iff number).mpr ⟨other, holds⟩⟩
      rintro rfl
      exact elsewhere (tracks.slot_inj holds
        ((holdsSlot_iff formed.ledger).mpr replaces.known))

theorem agrees : after.focus.Agrees :=
  agrees_of_stands (replaces.shape.isPaging.trans isPaging) replaces.ledger
    (replaces.stands formed isPaging)
    (replaces.isClaimed_iff_holds formed isPaging)
    (fun _ _ _ => replaces.slot_inj formed isPaging) replaces.residentCount_le

omit isPaging in
theorem address_page : ((pager after).entryAt page).address = frame := by
  obtain ⟨bytes, _, held⟩ := replaces.bytes
  rw [frameBytes?_eq] at held
  obtain ⟨contents, lent, _⟩ := Option.map_eq_some_iff.mp held
  rw [replaces.entry]
  exact formed.address_point replaces.shape.total lent _

/-- A page that neither came nor left keeps its frame, and what is in it. -/
theorem frameBytes?_of_isValid
    (stays : ∀ gone ∈ leaver, Address.pageBase address ≠ gone.page)
    (isValid : ((pager before).entryAt address).isValid = true) :
    AddressSpace.frameBytes? after ((pager before).entryAt address).address =
      AddressSpace.frameBytes? before
        ((pager before).entryAt address).address := by
  obtain ⟨bytes, held⟩ := formed.exists_frameBytes isValid
  refine replaces.frameBytes? _ ?_ fun gone member sameFrame => ?_
  · intro sameFrame
    rw [sameFrame] at held
    cases replaces.fresh.symm.trans held
  · have leaves := replaces.leaves gone member
    obtain ⟨aligned, wasValid, _⟩ :=
      formed.tracked isPaging leaves.wasResident
    have samePage := formed.pageBase_eq_of_address_eq isValid wasValid
      (sameFrame.trans leaves.address.symm)
    exact stays gone member (samePage.trans aligned)

omit isPaging in
/-- A page in memory afterwards came, or it was in memory and keeps its
frame. -/
theorem cases_isValid
    (isValid : ((pager after).entryAt address).isValid = true) :
    (Address.pageBase address = page ∧
        ((pager after).entryAt address).address = frame) ∨
      Address.pageBase address ≠ page ∧
        (∀ gone ∈ leaver, Address.pageBase address ≠ gone.page) ∧
        ((pager before).entryAt address).isValid = true ∧
        ((pager after).entryAt address).address =
          ((pager before).entryAt address).address := by
  obtain here | ⟨gone, member, here⟩ | ⟨elsewhere, stays⟩ :=
    cases_page leaver page (Address.pageBase address)
  · refine .inl ⟨here, ?_⟩
    rw [Pager.entryAt_of_pageBase_eq here]
    exact replaces.address_page formed
  · rw [Pager.entryAt_of_pageBase_eq here,
      (replaces.leaves gone member).notValid] at isValid
    cases isValid
  · have marks := replaces.marks address elsewhere stays
    exact .inr ⟨elsewhere, stays, marks.isValid.symm.trans isValid,
      marks.address⟩

theorem isFormed : IsFormed after := by
  have exists_lent : ∀ number bytes,
      AddressSpace.frameBytes? after number = some bytes →
        ∃ contents, (pager after).frames.contents? number =
          some contents := by
    intro number bytes held
    rw [frameBytes?_eq] at held
    obtain ⟨contents, lent, _⟩ := Option.map_eq_some_iff.mp held
    exact ⟨contents, lent⟩
  refine isFormed_of_parts (replaces.agrees formed isPaging) replaces.ledger
    replaces.swap replaces.frames replaces.served
    (formed.fits.of_sameShape replaces.shape) ?_ ?_ ?_
  · intro address isPresent
    obtain here | ⟨gone, member, here⟩ | ⟨elsewhere, stays⟩ :=
      cases_page leaver page (Address.pageBase address)
    · refine formed.lt_addressLimit (Bool.or_eq_true_iff.mpr (.inr ?_))
      rw [Pager.entryAt_of_pageBase_eq here]
      exact (formed.tracked isPaging replaces.known).2.2
    · refine formed.lt_addressLimit (Bool.or_eq_true_iff.mpr (.inl ?_))
      rw [Pager.entryAt_of_pageBase_eq here]
      exact (formed.tracked isPaging
        (replaces.leaves gone member).wasResident).2.1
    · have marks := replaces.marks address elsewhere stays
      rw [marks.alike.isPresent] at isPresent
      exact formed.lt_addressLimit isPresent
  · intro address isValid
    obtain ⟨_, atFrame⟩ | ⟨elsewhere, stays, wasValid, sameFrame⟩ :=
      replaces.cases_isValid formed isValid
    · obtain ⟨bytes, _, held⟩ := replaces.bytes
      rw [atFrame]
      exact exists_lent _ _ held
    · obtain ⟨bytes, held⟩ := formed.exists_frameBytes wasValid
      rw [← replaces.frameBytes?_of_isValid formed isPaging stays wasValid]
        at held
      rw [sameFrame]
      exact exists_lent _ _ held
  · -- The frame of the page that came was nobody's.
    have taken : ∀ other, ((pager before).entryAt other).isValid = true →
        ((pager before).entryAt other).address ≠ frame := by
      intro other wasValid same
      obtain ⟨bytes, held⟩ := formed.exists_frameBytes wasValid
      rw [same] at held
      cases replaces.fresh.symm.trans held
    intro first second firstValid secondValid same
    obtain ⟨firstHere, atFrame⟩ | ⟨_, _, firstWas, firstFrame⟩ :=
      replaces.cases_isValid formed firstValid
    · obtain ⟨secondHere, _⟩ | ⟨_, _, secondWas, secondFrame⟩ :=
        replaces.cases_isValid formed secondValid
      · rw [firstHere, secondHere]
      · rw [atFrame, secondFrame] at same
        exact absurd same.symm (taken second secondWas)
    · obtain ⟨_, atFrame⟩ | ⟨_, _, secondWas, secondFrame⟩ :=
        replaces.cases_isValid formed secondValid
      · rw [firstFrame, atFrame] at same
        exact absurd same (taken first firstWas)
      · rw [firstFrame, secondFrame] at same
        exact formed.pageBase_eq_of_address_eq firstWas secondWas same

theorem bytesAt?_of_elsewhere {other : Nat}
    (aligned : Address.pageBase other = other) (elsewhere : other ≠ page)
    (stays : ∀ gone ∈ leaver, other ≠ gone.page) :
    (pager after).bytesAt? other = (pager before).bytesAt? other := by
  have marks := replaces.marks other (by rwa [aligned]) (by rwa [aligned])
  by_cases isValid : ((pager before).entryAt other).isValid = true
  · rw [bytesAt?_of_isValid (marks.isValid.trans isValid),
      bytesAt?_of_isValid isValid, marks.address]
    exact replaces.frameBytes?_of_isValid formed isPaging
      (by rwa [aligned]) isValid
  have notValid := Bool.eq_false_iff.mpr isValid
  by_cases isPagedOut : ((pager before).entryAt other).isPagedOut = true
  · obtain ⟨held, known⟩ :=
      ((formed.stands isPaging other).isPagedOut_iff aligned).mp isPagedOut
    rw [bytesAt?_of_swapped (marks.isValid.trans notValid)
        (marks.isPagedOut.trans isPagedOut)
        ((replaces.residenceOf? other elsewhere stays).trans known),
      bytesAt?_of_swapped notValid isPagedOut known]
    refine replaces.slotBytes? held fun gone member same => ?_
    rw [same] at known
    exact replaces.unheld formed isPaging member elsewhere known
  · have absent : ((pager before).entryAt other).isPresent = false :=
      Bool.or_eq_false_iff.mpr ⟨notValid, Bool.eq_false_iff.mpr isPagedOut⟩
    rw [Pager.bytesAt?_of_not_isPresent absent,
      Pager.bytesAt?_of_not_isPresent (marks.alike.isPresent.trans absent)]

/-- No page is changed, wherever it is then. -/
theorem view? : view? after = AddressSpace.view? before := by
  funext address
  change (pager after).view? address = (pager before).view? address
  obtain here | ⟨gone, member, here⟩ | ⟨elsewhere, stays⟩ :=
    cases_page leaver page (Address.pageBase address)
  · obtain ⟨_, notValid, isPagedOut⟩ := formed.tracked isPaging replaces.known
    obtain ⟨bytes, held, arrived⟩ := replaces.bytes
    have isValid : ((pager after).entryAt page).isValid = true := by
      rw [replaces.entry]
      rfl
    refine Pager.view?_eq_of_isPresent here
      (Bool.or_eq_true_iff.mpr (.inr isPagedOut))
      (Pager.isPresent_of_isValid isValid) ?_ ?_
    · rw [replaces.entry]
      rfl
    · rw [bytesAt?_of_isValid isValid, replaces.address_page formed, arrived,
        bytesAt?_of_swapped notValid isPagedOut replaces.known, held]
  · have leaves := replaces.leaves gone member
    have wasValid := (formed.tracked isPaging leaves.wasResident).2.1
    obtain ⟨bytes, held, stored⟩ := leaves.bytes
    refine Pager.view?_eq_of_isPresent here
      (Pager.isPresent_of_isValid wasValid)
      (Bool.or_eq_true_iff.mpr (.inr leaves.isPagedOut)) leaves.permissions ?_
    rw [bytesAt?_of_swapped leaves.notValid leaves.isPagedOut
        leaves.isSwapped, stored, bytesAt?_of_isValid wasValid,
      leaves.address, held]
  · exact Pager.view?_eq_of_bytesAt?
      (replaces.marks address elsewhere stays).alike
      (replaces.bytesAt?_of_elsewhere formed isPaging
        (Address.pageBase_pageBase address) elsewhere stays)

omit formed isPaging in
theorem undisturbed (elsewhere : Address.pageBase address ≠ page) :
    Undisturbed before after address := by
  refine ⟨fun isValid => ?_, replaces.accessed address elsewhere⟩
  obtain here | ⟨gone, member, here⟩ | ⟨_, stays⟩ :=
    cases_page leaver page (Address.pageBase address)
  · exact absurd here elsewhere
  · rw [Pager.entryAt_of_pageBase_eq here,
      (replaces.leaves gone member).notValid] at isValid
    cases isValid
  · exact (replaces.marks address elsewhere stays).isValid.symm.trans isValid

end Replaces

end AddressSpace

end DemandPaging
