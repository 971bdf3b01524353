import DemandPaging.Proofs.Pager.Sound

/-!
# Frames under a pager

The frames of a pool serve other spaces too, so they change while a space
stays as it is.  Whatever leaves the frames of the pages of a space alone is
neither seen by user code nor breaks the agreement of the parts.  Writing to
the frame of a page is seen at that page alone.
-/

namespace DemandPaging

namespace Pager

variable {pager : Pager} {pending : Option Nat}
  {address page frame taken : Nat} {contents written : Page}
  {frames : FramePool}

theorem bytesAt?_of_isValid (isValid : (pager.entryAt page).isValid = true) :
    ({ pager with frames } : Pager).bytesAt? page =
      (frames.contents? (pager.entryAt page).address).map Vector.toList :=
  if_pos isValid

theorem bytesAt?_of_not_isValid
    (notValid : ¬(pager.entryAt page).isValid = true) :
    ({ pager with frames } : Pager).bytesAt? page = pager.bytesAt? page :=
  (if_neg notValid).trans (if_neg notValid).symm

/-- The pool `frames` has the pages of the space as its own pool has them. -/
structure HeldBy (pager : Pager) (frames : FramePool) : Prop where
  total : frames.total = pager.frames.total
  isConsistent : frames.IsConsistent
  owned : ∀ address, (pager.entryAt address).isValid = true →
    frames.contents? (pager.entryAt address).address =
      pager.frames.contents? (pager.entryAt address).address

namespace HeldBy

theorem sameShape (held : pager.HeldBy frames) :
    pager.SameShape { pager with frames } where
  config := rfl
  isPaging := rfl
  maxResident := rfl
  ledgerCapacity := rfl
  swapCapacity := rfl
  total := held.total

theorem sound (held : pager.HeldBy frames) (sound : pager.Sound pending) :
    ({ pager with frames } : Pager).Sound pending where
  fits := sound.fits.of_sameShape held.sameShape
  ledger := sound.ledger
  swap := sound.swap
  frames := held.isConsistent
  page_lt := sound.page_lt
  resident := sound.resident
  swapped := sound.swapped
  tracked := sound.tracked
  claimed := sound.claimed
  slot_inj := sound.slot_inj
  stored := sound.stored
  framed address isValid := by
    obtain ⟨contents, lent⟩ := sound.framed address isValid
    exact ⟨contents, (held.owned address isValid).trans lent⟩
  frame_inj := sound.frame_inj

theorem logicalPage? (held : pager.HeldBy frames) (address : Nat) :
    ({ pager with frames } : Pager).logicalPage? address =
      pager.logicalPage? address := by
  have sameBytes : ({ pager with frames } : Pager).bytesAt?
      (Address.pageBase address) =
        pager.bytesAt? (Address.pageBase address) := by
    by_cases isValid :
        (pager.entryAt (Address.pageBase address)).isValid = true
    · rw [bytesAt?_of_isValid isValid, held.owned _ isValid]
      exact (bytesAt?_of_isValid isValid).symm
    · exact bytesAt?_of_not_isValid isValid
  rw [Pager.logicalPage?, Pager.logicalPage?, sameBytes]
  rfl

end HeldBy

theorem heldBy_of_allocate (sound : pager.Sound pending)
    (lent : pager.frames.allocate = (some taken, frames)) :
    pager.HeldBy frames := by
  obtain ⟨fresh, shown⟩ :=
    FramePool.contents?_allocate sound.frames lent
  refine ⟨FramePool.total_of_allocate lent, sound.frames.allocate lent,
    fun address isValid => ?_⟩
  obtain ⟨contents, held⟩ := sound.framed address isValid
  rw [shown, if_neg]
  intro same
  rw [same, fresh] at held
  cases held

theorem unowned_allocate_iff (sound : pager.Sound pending)
    (lent : pager.frames.allocate = (some taken, frames)) :
    ({ pager with frames } : Pager).Unowned frame contents ↔
      pager.Unowned frame contents ∨
        frame = taken ∧ contents = Page.filled FramePool.lentJunk := by
  obtain ⟨fresh, shown⟩ :=
    FramePool.contents?_allocate sound.frames lent
  simp only [Unowned, shown]
  by_cases isTaken : frame = taken
  · subst isTaken
    simp only [↓reduceIte, Option.some.injEq, fresh, reduceCtorEq, false_and,
      false_or, true_and]
    constructor
    · exact fun both => both.1.symm
    · rintro rfl
      refine ⟨rfl, fun address isValid same => ?_⟩
      obtain ⟨contents, held⟩ := sound.framed address isValid
      change (pager.entryAt address).address = frame at same
      rw [same, fresh] at held
      cases held
  · simp only [isTaken, ↓reduceIte, false_and, or_false]
    exact Iff.rfl

/-- A frame that goes back to the pool was nobody's. -/
theorem heldBy_of_release (sound : pager.Sound pending)
    (unowned : pager.Unowned taken written) :
    ∃ after, pager.frames.release taken = .ok after ∧ pager.HeldBy after ∧
      ∀ frame contents,
        ({ pager with frames := after } : Pager).Unowned frame contents ↔
          pager.Unowned frame contents ∧ frame ≠ taken := by
  obtain ⟨lent, notOwned⟩ := unowned
  obtain ⟨after, released, shown⟩ := FramePool.release_of_contents? lent
  refine ⟨after, released, ⟨FramePool.total_of_release released,
    sound.frames.release released, fun address isValid => ?_⟩,
    fun frame contents => ?_⟩
  · rw [shown, if_neg (notOwned address isValid)]
  · simp only [Unowned, shown]
    by_cases isTaken : frame = taken
    · simp [isTaken]
    · simp only [isTaken, ↓reduceIte, ne_eq, not_false_eq_true, and_true]
      exact Iff.rfl

/-- Writing to a frame that is nobody's is not seen. -/
theorem heldBy_of_write (sound : pager.Sound pending)
    (unowned : pager.Unowned taken written) (bytes : List UInt8) :
    ∃ after, pager.frames.write taken bytes = .ok after ∧
      pager.HeldBy after ∧
        ∀ frame contents,
          ({ pager with frames := after } : Pager).Unowned frame contents ↔
            if frame = taken then contents = written.overwrite 0 bytes
            else pager.Unowned frame contents := by
  obtain ⟨lent, notOwned⟩ := unowned
  obtain ⟨after, success, shown⟩ := FramePool.write_of_contents? lent bytes
  refine ⟨after, success, ⟨FramePool.total_of_write success,
    sound.frames.write success, fun address isValid => ?_⟩,
    fun frame contents => ?_⟩
  · rw [shown, if_neg (notOwned address isValid)]
  · simp only [Unowned, shown]
    by_cases isTaken : frame = taken
    · subst isTaken
      simp only [↓reduceIte, Option.some.injEq]
      constructor
      · exact fun both => both.1.symm
      · rintro rfl
        exact ⟨rfl, notOwned⟩
    · simp only [isTaken, ↓reduceIte]
      exact Iff.rfl

section Fill

variable (sound : pager.Sound pending)
  (frame_inj : ∀ address, (pager.entryAt address).isValid = true →
    (pager.entryAt page).isValid = true →
      (pager.entryAt address).address = (pager.entryAt page).address →
        Address.pageBase address = Address.pageBase page)
  (isValid : (pager.entryAt page).isValid = true)
  (total : frames.total = pager.frames.total)
  (consistent : frames.IsConsistent)
  (shown : ∀ frame, frames.contents? frame =
    if frame = (pager.entryAt page).address then some written
    else pager.frames.contents? frame)

include frame_inj isValid shown

theorem contents?_fill (addressValid : (pager.entryAt address).isValid = true) :
    frames.contents? (pager.entryAt address).address =
      if Address.pageBase address = Address.pageBase page then some written
      else pager.frames.contents? (pager.entryAt address).address := by
  rw [shown]
  by_cases samePage : Address.pageBase address = Address.pageBase page
  · have sameEntry : pager.entryAt address = pager.entryAt page :=
      pager.table.entryAt_eq_of_pageBase_eq samePage
    rw [if_pos samePage, if_pos (by rw [sameEntry])]
  · rw [if_neg samePage, if_neg]
    intro same
    exact samePage (frame_inj address addressValid isValid same)

include sound total consistent in
omit frame_inj in
theorem sound_fill : ({ pager with frames } : Pager).Sound pending where
  fits := sound.fits.of_sameShape ⟨rfl, rfl, rfl, rfl, rfl, total⟩
  ledger := sound.ledger
  swap := sound.swap
  frames := consistent
  page_lt := sound.page_lt
  resident := sound.resident
  swapped := sound.swapped
  tracked := sound.tracked
  claimed := sound.claimed
  slot_inj := sound.slot_inj
  stored := sound.stored
  framed address addressValid := by
    change ∃ contents,
      frames.contents? (pager.entryAt address).address = some contents
    rw [contents?_fill (sound.frame_inj · page) isValid shown addressValid]
    split
    · exact ⟨written, rfl⟩
    · exact sound.framed address addressValid
  frame_inj := sound.frame_inj

/-- User code sees what was written to the frame of a page at that page. -/
theorem logicalPage?_fill (address : Nat) :
    ({ pager with frames } : Pager).logicalPage? address =
      if Address.pageBase address = Address.pageBase page then
        some ⟨written.toList, (pager.entryAt page).flags.permissions⟩
      else pager.logicalPage? address := by
  by_cases samePage : Address.pageBase address = Address.pageBase page
  · have sameEntry : pager.entryAt address = pager.entryAt page :=
      pager.table.entryAt_eq_of_pageBase_eq samePage
    have written_at := contents?_fill frame_inj isValid shown isValid
    rw [if_pos rfl] at written_at
    have here : ({ pager with frames } : Pager).entryAt address =
        pager.entryAt page := sameEntry
    rw [if_pos samePage, Pager.logicalPage?, bytesAt?, entryAt_pageBase, here,
      if_pos isValid, written_at]
    rfl
  · have sameBytes : ({ pager with frames } : Pager).bytesAt?
        (Address.pageBase address) =
          pager.bytesAt? (Address.pageBase address) := by
      by_cases addressValid :
          (pager.entryAt (Address.pageBase address)).isValid = true
      · have sameContents :=
          contents?_fill frame_inj isValid shown addressValid
        rw [Address.pageBase_pageBase, if_neg samePage] at sameContents
        rw [bytesAt?_of_isValid addressValid, sameContents]
        exact (bytesAt?_of_isValid addressValid).symm
      · exact bytesAt?_of_not_isValid addressValid
    rw [if_neg samePage, Pager.logicalPage?, Pager.logicalPage?, sameBytes]
    rfl

omit frame_inj in
theorem unowned_fill_iff :
    ({ pager with frames } : Pager).Unowned frame contents ↔
      pager.Unowned frame contents := by
  simp only [Unowned, shown]
  by_cases isTaken : frame = (pager.entryAt page).address
  · constructor
    · rintro ⟨_, notOwned⟩
      exact absurd isTaken.symm (notOwned page isValid)
    · rintro ⟨_, notOwned⟩
      exact absurd isTaken.symm (notOwned page isValid)
  · simp only [isTaken, ↓reduceIte]
    exact Iff.rfl

end Fill

end Pager

end DemandPaging
