import DemandPaging.Proofs.Pager.Moves

/-!
# Pages that come and go

A new page is mapped first and tracked afterwards, and in between it is
pending.  A page that is taken away is forgotten in one move: its entry, what
the ledger knows of it and its slot go, and its frame is nobody's then.
-/

namespace DemandPaging

namespace Pager

variable {before after : Pager} {pending : Option Nat}
  {address page other slot frame : Nat} {contents : Page} {flags : Flags}

/-- The page at `page`, which was not there, is mapped to the frame `frame`,
which is nobody's.  It is not tracked yet. -/
structure Maps (before after : Pager) (page frame : Nat) (flags : Flags) :
    Prop where
  shape : before.SameShape after
  ledger : after.ledger = before.ledger
  swap : after.swap = before.swap
  frames : after.frames = before.frames
  aligned : Address.pageBase page = page
  page_lt : page < addressLimit
  absent : (before.entryAt page).isPresent = false
  isUnowned : ∃ contents, before.Unowned frame contents
  pointed : ∀ flags, (Entry.point frame flags).address = frame
  entryAt : ∀ address, after.entryAt address =
    if Address.pageBase address = page then
      Entry.point frame { flags with valid := true }
    else before.entryAt address

namespace Maps

theorem alters (moves : before.Maps after page frame flags) :
    before.Alters after page where
  shape := moves.shape
  aligned := moves.aligned
  entryAt address elsewhere := by rw [moves.entryAt, if_neg elsewhere]
  residenceOf? _ _ := by rw [Pager.residenceOf?, moves.ledger]; rfl
  slots _ _ _ _ := by rw [moves.swap]
  frames _ _ _ := by rw [moves.frames]

theorem entryAt_page (moves : before.Maps after page frame flags) :
    after.entryAt page = Entry.point frame { flags with valid := true } := by
  rw [moves.entryAt, if_pos moves.aligned]

theorem sound (moves : before.Maps after page frame flags)
    (sound : before.Sound none) : after.Sound (some page) := by
  have entry := moves.entryAt_page
  have isValid : (after.entryAt page).isValid = true := by
    rw [entry]
    rfl
  have untracked : before.residenceOf? page = none :=
    sound.residenceOf?_of_not_isPresent moves.absent
  have stillUntracked : after.residenceOf? page = none := by
    rw [Pager.residenceOf?, moves.ledger]
    exact untracked
  obtain ⟨contents, lent, notOwned⟩ := moves.isUnowned
  refine moves.alters.sound sound ?_ fun other different => ?_
  · exact {
      ledger := moves.ledger ▸ sound.ledger
      swap := moves.swap ▸ sound.swap
      frames := moves.frames ▸ sound.frames
      page_lt := fun _ => moves.page_lt
      resident := fun _ _ notPending => absurd rfl notPending
      swapped := by
        intro _ notValid
        rw [isValid] at notValid
        cases notValid
      tracked := by
        intro held known
        cases stillUntracked.symm.trans known
      claimed := by
        intro other
        have notSwapped : ∀ slot,
            before.residenceOf? page ≠ some (.swapped page slot) := by
          intro slot known
          cases untracked.symm.trans known
        rw [moves.swap, stillUntracked,
          sound.isClaimed_iff_of_not_swapped notSwapped]
        simp
      slot_new := by
        intro slot other _ known
        cases stillUntracked.symm.trans known
      stored := by
        intro slot known
        cases stillUntracked.symm.trans known
      framed := by
        intro _
        rw [entry, moves.pointed, moves.frames]
        exact ⟨contents, lent⟩
      frame_new := by
        intro _ address _ addressValid
        rw [entry, moves.pointed]
        exact notOwned address addressValid }
  · simp [Ne.symm different]

/-- User code sees the contents of the frame at the page that was mapped. -/
theorem logicalPage? (moves : before.Maps after page frame flags)
    (sound : before.Sound none) (held : before.frames.contents? frame = some contents)
    (address : Nat) :
    after.logicalPage? address =
      if Address.pageBase address = page then
        some ⟨contents.toList, flags.permissions⟩
      else before.logicalPage? address := by
  by_cases samePage : Address.pageBase address = page
  · have entry := moves.entryAt_page
    have isValid : (after.entryAt page).isValid = true := by
      rw [entry]
      rfl
    rw [if_pos samePage, Pager.logicalPage?, samePage, bytesAt?,
      if_pos isValid, entryAt_of_pageBase_eq samePage, entry, moves.pointed,
      moves.frames, held]
    rfl
  · rw [if_neg samePage, moves.alters.logicalPage? sound samePage]

theorem unowned_iff (moves : before.Maps after page frame flags) :
    after.Unowned other contents ↔
      before.Unowned other contents ∧ other ≠ frame := by
  have notValid : (before.entryAt page).isValid ≠ true := by
    intro isValid
    have isPresent := isPresent_of_isValid isValid
    rw [moves.absent] at isPresent
    cases isPresent
  rw [moves.alters.unowned_iff moves.frames,
    unowned_iff_of_aligned moves.aligned, moves.entryAt_page, moves.pointed]
  constructor
  · rintro ⟨lent, elsewhere, different⟩
    exact ⟨⟨lent, elsewhere, fun isValid => absurd isValid notValid⟩,
      Ne.symm (different rfl)⟩
  · rintro ⟨⟨lent, elsewhere, _⟩, different⟩
    exact ⟨lent, elsewhere, fun _ => Ne.symm different⟩

end Maps

/-- The pending page at `page` is tracked from now on. -/
structure Settles (before after : Pager) (page : Nat) : Prop where
  shape : before.SameShape after
  ledger : after.ledger.IsConsistent
  swap : after.swap = before.swap
  frames : after.frames = before.frames
  aligned : Address.pageBase page = page
  isPaging : before.isPaging = true
  isValid : (before.entryAt page).isValid = true
  entryAt : ∀ address, after.entryAt address =
    if Address.pageBase address = page then
      ((before.entryAt page).remove { pagedOut := true }).insert
        { valid := true }
    else before.entryAt address
  residenceOf? : ∀ other, after.residenceOf? other =
    if other = page then some (.resident page)
    else before.residenceOf? other

namespace Settles

theorem alters (moves : before.Settles after page) :
    before.Alters after page where
  shape := moves.shape
  aligned := moves.aligned
  entryAt address elsewhere := by rw [moves.entryAt, if_neg elsewhere]
  residenceOf? other elsewhere := by rw [moves.residenceOf?, if_neg elsewhere]
  slots _ _ _ _ := by rw [moves.swap]
  frames _ _ _ := by rw [moves.frames]

theorem entryAt_page (moves : before.Settles after page) :
    after.entryAt page =
      ((before.entryAt page).remove { pagedOut := true }).insert
        { valid := true } := by
  rw [moves.entryAt, if_pos moves.aligned]

theorem isValid_page (moves : before.Settles after page) :
    (after.entryAt page).isValid = true := by
  rw [moves.entryAt_page]
  simp [Entry.isValid, Entry.insert, Flags.union]

theorem isPagedOut_page (moves : before.Settles after page) :
    (after.entryAt page).isPagedOut = false := by
  rw [moves.entryAt_page]
  simp [Entry.isPagedOut, Entry.insert, Entry.remove, Flags.union,
    Flags.difference]

theorem address_page (moves : before.Settles after page) :
    (after.entryAt page).address = (before.entryAt page).address := by
  rw [moves.entryAt_page]
  rfl

theorem sound (moves : before.Settles after page)
    (sound : before.Sound (some page)) : after.Sound none := by
  have residence : after.residenceOf? page = some (.resident page) := by
    rw [moves.residenceOf?, if_pos rfl]
  have untracked := not_tracked_of_pending sound
  refine moves.alters.sound sound ?_ fun other different => ?_
  · exact {
      ledger := moves.ledger
      swap := moves.swap ▸ sound.swap
      frames := moves.frames ▸ sound.frames
      page_lt := fun _ =>
        sound.page_lt page (isPresent_of_isValid moves.isValid)
      resident := fun _ _ _ => residence
      swapped := by
        intro isPagedOut
        rw [moves.isPagedOut_page] at isPagedOut
        cases isPagedOut
      tracked := by
        intro held known
        rw [residence] at known
        cases known
        rw [moves.shape.isPaging, moves.isValid_page, moves.isPagedOut_page]
        exact ⟨moves.isPaging, by simp, rfl, rfl⟩
      claimed := by
        intro other
        have notSwapped : ∀ slot,
            before.residenceOf? page ≠ some (.swapped page slot) := by
          intro slot known
          cases untracked.symm.trans known
        rw [moves.swap, residence,
          sound.isClaimed_iff_of_not_swapped notSwapped]
        simp
      slot_new := by
        intro slot other _ known
        rw [residence] at known
        cases known
      stored := by
        intro slot known
        rw [residence] at known
        cases known
      framed := by
        intro _
        rw [moves.address_page, moves.frames]
        exact sound.framed page moves.isValid
      frame_new := by
        intro _ address elsewhere addressValid same
        rw [moves.address_page] at same
        have samePage :=
          sound.frame_inj address page addressValid moves.isValid same
        rw [moves.aligned] at samePage
        exact elsewhere samePage }
  · simp [Ne.symm different]

theorem logicalPage? (moves : before.Settles after page)
    (sound : before.Sound (some page)) (address : Nat) :
    after.logicalPage? address = before.logicalPage? address := by
  by_cases samePage : Address.pageBase address = page
  · rw [Pager.logicalPage?, Pager.logicalPage?, samePage, bytesAt?, bytesAt?,
      if_pos moves.isValid_page, if_pos moves.isValid, moves.address_page,
      moves.frames, entryAt_of_pageBase_eq samePage,
      entryAt_of_pageBase_eq samePage, moves.entryAt_page]
    simp [Flags.permissions, Entry.insert, Entry.remove, Flags.union,
      Flags.difference]
  · exact moves.alters.logicalPage? sound samePage

theorem unowned_iff (moves : before.Settles after page) :
    after.Unowned frame contents ↔ before.Unowned frame contents := by
  rw [moves.alters.unowned_iff moves.frames,
    unowned_iff_of_aligned moves.aligned, moves.isValid_page, moves.isValid,
    moves.address_page]

end Settles

/-- The page at `page` is taken away, and its slot is given back. -/
structure Forgets (before after : Pager) (page : Nat) : Prop where
  shape : before.SameShape after
  ledger : after.ledger.IsConsistent
  swap : after.swap.IsConsistent
  frames : after.frames = before.frames
  aligned : Address.pageBase page = page
  entryAt : ∀ address, after.entryAt address =
    if Address.pageBase address = page then Entry.empty
    else before.entryAt address
  residenceOf? : ∀ other, after.residenceOf? other =
    if other = page then none else before.residenceOf? other
  isClaimed : ∀ slot, after.swap.isClaimed slot = true ↔
    before.swap.isClaimed slot = true ∧
      before.residenceOf? page ≠ some (.swapped page slot)
  contents? : ∀ slot, after.swap.contents? slot = before.swap.contents? slot

namespace Forgets

theorem alters (moves : before.Forgets after page) :
    before.Alters after page where
  shape := moves.shape
  aligned := moves.aligned
  entryAt address elsewhere := by rw [moves.entryAt, if_neg elsewhere]
  residenceOf? other elsewhere := by rw [moves.residenceOf?, if_neg elsewhere]
  slots _ _ _ _ := moves.contents? _
  frames _ _ _ := by rw [moves.frames]

theorem entryAt_page (moves : before.Forgets after page) :
    after.entryAt page = Entry.empty := by
  rw [moves.entryAt, if_pos moves.aligned]

theorem sound (moves : before.Forgets after page)
    (sound : before.Sound pending)
    (onlyPending : ∀ other, other ≠ page → pending ≠ some other) :
    after.Sound none := by
  have entry := moves.entryAt_page
  have untracked : after.residenceOf? page = none := by
    rw [moves.residenceOf?, if_pos rfl]
  refine moves.alters.sound sound ?_ fun other different => ?_
  · exact {
      ledger := moves.ledger
      swap := moves.swap
      frames := moves.frames ▸ sound.frames
      page_lt := by
        intro isPresent
        rw [entry] at isPresent
        cases isPresent
      resident := by
        intro _ isValid
        rw [entry] at isValid
        cases isValid
      swapped := by
        intro isPagedOut
        rw [entry] at isPagedOut
        cases isPagedOut
      tracked := by
        intro residence known
        cases untracked.symm.trans known
      claimed := by
        intro slot
        rw [moves.isClaimed, untracked, sound.claimed slot]
        constructor
        · rintro ⟨⟨holder, holds⟩, notHere⟩
          refine .inr ⟨holder, ?_, holds⟩
          rintro rfl
          exact notHere holds
        · rintro (known | ⟨holder, elsewhere, holds⟩)
          · cases known
          · refine ⟨⟨holder, holds⟩, fun here => elsewhere ?_⟩
            exact sound.slot_inj holder page slot holds here
      slot_new := by
        intro slot other _ known
        cases untracked.symm.trans known
      stored := by
        intro slot known
        cases untracked.symm.trans known
      framed := by
        intro isValid
        rw [entry] at isValid
        cases isValid
      frame_new := by
        intro isValid
        rw [entry] at isValid
        cases isValid }
  · simp [onlyPending other different]

/-- User code sees no page where one was taken away. -/
theorem logicalPage? (moves : before.Forgets after page)
    (sound : before.Sound pending) (address : Nat) :
    after.logicalPage? address =
      if Address.pageBase address = page then none
      else before.logicalPage? address := by
  by_cases samePage : Address.pageBase address = page
  · rw [if_pos samePage, Pager.logicalPage?, samePage, bytesAt?,
      moves.entryAt_page]
    rfl
  · rw [if_neg samePage, moves.alters.logicalPage? sound samePage]

/-- The frame of a page that was taken away is nobody's. -/
theorem unowned_iff (moves : before.Forgets after page)
    (sound : before.Sound pending) :
    after.Unowned frame contents ↔ before.Unowned frame contents ∨
      (before.entryAt page).isValid = true ∧
        frame = (before.entryAt page).address ∧
          before.frames.contents? frame = some contents := by
  rw [moves.alters.unowned_iff moves.frames,
    unowned_iff_of_aligned moves.aligned, moves.entryAt_page]
  constructor
  · rintro ⟨lent, elsewhere, _⟩
    by_cases own : (before.entryAt page).isValid = true ∧
        frame = (before.entryAt page).address
    · exact .inr ⟨own.1, own.2, lent⟩
    · exact .inl ⟨lent, elsewhere, fun isValid same =>
        own ⟨isValid, same.symm⟩⟩
  · rintro (⟨lent, elsewhere, _⟩ | ⟨isValid, rfl, lent⟩)
    · exact ⟨lent, elsewhere, fun impossible => nomatch impossible⟩
    · refine ⟨lent, fun address elsewhere addressValid same => ?_,
        fun impossible => nomatch impossible⟩
      have samePage := sound.frame_inj address page addressValid isValid same
      rw [moves.aligned] at samePage
      exact elsewhere samePage

end Forgets

end Pager

end DemandPaging
