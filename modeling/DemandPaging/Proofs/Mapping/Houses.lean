import DemandPaging.Proofs.Effects.Paging
import DemandPaging.Proofs.Mapping.Views

/-!
# Spaces that are nearly well-formed

`NearlyFormed` is what it means that a space under paging is well-formed, with
the allowance of `NearlyTracks` for a page that is pending; without one it is
well-formedness.  It consists of the correspondence of leaves, places and slots
and of what is said of frames (`Pager.Houses`), and the latter is kept by a
change at one page if that page is in order afterwards (`Pager.HousesAt`).  A
change that is of no concern to any page keeps everything (`Pager.Retains`).
-/

namespace DemandPaging

theorem Entry.Alike.read {before after : Entry} (alike : before.Alike after)
    (isValid : before.isValid = true) :
    after.flags.read = before.flags.read := by
  have permissions := congrArg Flags.read
    (alike.permissions (Pager.isPresent_of_isValid isValid))
  exact permissions

namespace Pager

variable {pager before after : Pager} {page taken : Nat}
  {frames lent : FramePool} {contents : Page}

/-- Every page in memory can be read, and has a lent frame that no other page
is in. -/
structure Houses (pager : Pager) : Prop where
  fits : pager.Fits
  swap : pager.swap.IsConsistent
  frames : pager.frames.IsConsistent
  page_lt : ∀ address, (pager.entryAt address).isPresent = true →
    address < addressLimit
  readable : ∀ address, (pager.entryAt address).isValid = true →
    (pager.entryAt address).flags.read = true
  framed : ∀ address, (pager.entryAt address).isValid = true →
    ∃ contents,
      pager.frames.contents? (pager.entryAt address).address = some contents
  frame_inj : ∀ first second, (pager.entryAt first).isValid = true →
    (pager.entryAt second).isValid = true →
      (pager.entryAt first).address = (pager.entryAt second).address →
        Address.pageBase first = Address.pageBase second

/-- The page `page` is in order, where every other page is as `before` has
it. -/
structure HousesAt (before after : Pager) (page : Nat) : Prop where
  page_lt : (after.entryAt page).isPresent = true → page < addressLimit
  readable : (after.entryAt page).isValid = true →
    (after.entryAt page).flags.read = true
  framed : (after.entryAt page).isValid = true → ∃ contents,
    after.frames.contents? (after.entryAt page).address = some contents
  frame_new : (after.entryAt page).isValid = true → ∀ address,
    Address.pageBase address ≠ page →
      (before.entryAt address).isValid = true →
        (before.entryAt address).address ≠ (after.entryAt page).address

/-- A page that is not in memory needs no frame. -/
theorem housesAt_of_not_isValid
    (notValid : (after.entryAt page).isValid = false)
    (page_lt : (after.entryAt page).isPresent = true → page < addressLimit) :
    before.HousesAt after page where
  page_lt := page_lt
  readable isValid := absurd (notValid.symm.trans isValid) Bool.false_ne_true
  framed isValid := absurd (notValid.symm.trans isValid) Bool.false_ne_true
  frame_new isValid := absurd (notValid.symm.trans isValid) Bool.false_ne_true

/-- A change at one page is of no concern to the frames of the others. -/
theorem Houses.of_preserves (houses : before.Houses)
    (preserves : before.Preserves after page) (shape : before.SameShape after)
    (swap : after.swap.IsConsistent) (frames : after.frames.IsConsistent)
    (here : before.HousesAt after page) : after.Houses where
  fits := houses.fits.of_sameShape shape
  swap := swap
  frames := frames
  page_lt address isPresent := by
    by_cases samePage : Address.pageBase address = page
    · rw [entryAt_of_pageBase_eq samePage] at isPresent
      have base_lt := here.page_lt isPresent
      have inPage := Address.lt_pageBase_add address
      rw [samePage] at inPage
      have aligned := preserves.aligned
      simp only [Address.pageBase, pageSize, addressLimit] at *
      omega
    · have marks := preserves.marks address samePage
      rw [Entry.isPresent, marks.isValid, marks.isPagedOut] at isPresent
      exact houses.page_lt address isPresent
  readable address isValid := by
    by_cases samePage : Address.pageBase address = page
    · rw [entryAt_of_pageBase_eq samePage] at isValid ⊢
      exact here.readable isValid
    · have marks := preserves.marks address samePage
      rw [marks.isValid] at isValid
      rw [marks.alike.read isValid]
      exact houses.readable address isValid
  framed address isValid := by
    by_cases samePage : Address.pageBase address = page
    · rw [entryAt_of_pageBase_eq samePage] at isValid ⊢
      exact here.framed isValid
    · have marks := preserves.marks address samePage
      rw [marks.isValid] at isValid
      rw [marks.address, preserves.frames address samePage isValid]
      exact houses.framed address isValid
  frame_inj first second firstValid secondValid same := by
    by_cases firstHere : Address.pageBase first = page
    · by_cases secondHere : Address.pageBase second = page
      · rw [firstHere, secondHere]
      · have marks := preserves.marks second secondHere
        rw [entryAt_of_pageBase_eq firstHere] at firstValid same
        rw [marks.isValid] at secondValid
        rw [marks.address] at same
        exact absurd same.symm
          (here.frame_new firstValid second secondHere secondValid)
    · have firstMarks := preserves.marks first firstHere
      rw [firstMarks.isValid] at firstValid
      rw [firstMarks.address] at same
      by_cases secondHere : Address.pageBase second = page
      · rw [entryAt_of_pageBase_eq secondHere] at secondValid same
        exact absurd same
          (here.frame_new secondValid first firstHere firstValid)
      · have marks := preserves.marks second secondHere
        rw [marks.isValid] at secondValid
        rw [marks.address] at same
        exact houses.frame_inj first second firstValid secondValid same

/-- Marks of references changed at most, and frames that no page of the space
is in. -/
structure Retains (before after : Pager) : Prop where
  shape : before.SameShape after
  alike : ∀ address, (before.entryAt address).Alike (after.entryAt address)
  ledger : after.ledger.IsConsistent
  residentCount : after.ledger.residentCount = before.ledger.residentCount
  residenceOf? : ∀ page,
    after.residenceOf? page = before.residenceOf? page
  swap : after.swap = before.swap
  held : before.HeldBy after.frames

namespace Retains

theorem refl (ledger : pager.ledger.IsConsistent)
    (frames : pager.frames.IsConsistent) : pager.Retains pager where
  shape := .refl pager
  alike _ := (Entry.SameButMarks.refl _).alike
  ledger := ledger
  residentCount := rfl
  residenceOf? _ := rfl
  swap := rfl
  held := ⟨rfl, frames, fun _ _ => rfl⟩

theorem view? (retains : before.Retains after) :
    after.view? = before.view? :=
  view?_eq_of_alike retains.alike retains.residenceOf? retains.swap
    retains.held.owned

theorem houses (retains : before.Retains after) (houses : before.Houses) :
    after.Houses where
  fits := houses.fits.of_sameShape retains.shape
  swap := retains.swap ▸ houses.swap
  frames := retains.held.isConsistent
  page_lt address isPresent := by
    rw [(retains.alike address).isPresent] at isPresent
    exact houses.page_lt address isPresent
  readable address isValid := by
    have alike := retains.alike address
    rw [alike.isValid] at isValid
    rw [alike.read isValid]
    exact houses.readable address isValid
  framed address isValid := by
    have alike := retains.alike address
    rw [alike.isValid] at isValid
    rw [alike.address isValid, retains.held.owned address isValid]
    exact houses.framed address isValid
  frame_inj first second firstValid secondValid same := by
    rw [(retains.alike first).isValid] at firstValid
    rw [(retains.alike second).isValid] at secondValid
    rw [(retains.alike first).address firstValid,
      (retains.alike second).address secondValid] at same
    exact houses.frame_inj first second firstValid secondValid same

end Retains

/-- Frames that no page of the space is in are of no concern to it. -/
theorem HeldBy.retains (held : pager.HeldBy frames)
    (consistent : pager.ledger.IsConsistent) :
    pager.Retains { pager with frames } where
  shape := held.sameShape
  alike _ := (Entry.SameButMarks.refl _).alike
  ledger := consistent
  residentCount := rfl
  residenceOf? _ := rfl
  swap := rfl
  held := held

end Pager

namespace AddressSpace

variable {state before after : Hosted AddressSpace} {pending : Option Nat}
  {frames : FramePool}

/-- A change that is of no concern to any page keeps the correspondence of
leaves, places and slots. -/
theorem NearlyTracks.of_retains (nearly : before.focus.NearlyTracks pending)
    (consistent : before.focus.ledger.IsConsistent)
    (retains : (pager before).Retains (pager after)) :
    after.focus.NearlyTracks pending := by
  have standing (page : Nat) :
      SameStanding before.focus after.focus page :=
    sameStanding_of_books consistent retains.ledger
      (fun _ => ⟨(retains.alike page).isValid,
        (retains.alike page).isPagedOut⟩) (retains.residenceOf? page)
  have swap : after.focus.swap = before.focus.swap := retains.swap
  have count : after.focus.ledger.residentCount =
      before.focus.ledger.residentCount := retains.residentCount
  have ceiling : after.focus.ledger.maxResident =
      before.focus.ledger.maxResident := retains.shape.maxResident
  exact {
    exclusive := by
      simpa only [(standing _).isMapped_iff, (standing _).isPagedOut_iff]
        using nearly.exclusive
    isResident := by
      simpa only [(standing _).isMapped_iff, (standing _).isResident_iff]
        using nearly.isResident
    isMapped := by
      simpa only [(standing _).isMapped_iff, (standing _).isResident_iff]
        using nearly.isMapped
    holdsSlot := by
      simpa only [(standing _).isPagedOut_iff, (standing _).holdsSlot_iff]
        using nearly.holdsSlot
    isPagedOut := by
      simpa only [(standing _).isPagedOut_iff, (standing _).holdsSlot_iff]
        using nearly.isPagedOut
    isClaimed_iff := by
      simpa only [swap, (standing _).holdsSlot_iff] using nearly.isClaimed_iff
    slot_inj := by
      intro first second slot
      simpa only [(standing _).holdsSlot_iff] using nearly.slot_inj
    residentCount_le := by
      rw [count, ceiling]
      exact nearly.residentCount_le }

/-- Ledger, slots and frames of the space are in order, whatever its pages
correspond to. -/
structure Housed (state : Hosted AddressSpace) : Prop where
  served : IsServed state
  ledger : state.focus.ledger.IsConsistent
  houses : (pager state).Houses

theorem WellFormed.housed (wellFormed : WellFormed state) : Housed state where
  served := wellFormed.pool_lt
  ledger := wellFormed.ledger
  houses :=
    { fits := wellFormed.fits
      swap := wellFormed.swap
      frames := wellFormed.pool
      page_lt := fun _ => wellFormed.isFormed.lt_addressLimit
      readable := fun _ isValid => wellFormed.readable _ _
        (IsFormed.mem_leaves (Pager.isPresent_of_isValid isValid)) isValid
      framed := wellFormed.isCopyable.framed
      frame_inj := fun _ _ firstValid secondValid same =>
        wellFormed.frame_inj _ _ _ _
          (IsFormed.mem_leaves (Pager.isPresent_of_isValid firstValid))
          (IsFormed.mem_leaves (Pager.isPresent_of_isValid secondValid))
          firstValid secondValid same }

theorem Housed.wellFormed (housed : Housed state)
    (agrees : state.focus.Agrees) : WellFormed state :=
  { isFormed_of_parts agrees housed.ledger housed.houses.swap
      housed.houses.frames housed.served housed.houses.fits
      housed.houses.page_lt housed.houses.framed housed.houses.frame_inj with
    readable := fun page entry member isValid => by
      obtain ⟨_, rfl, _⟩ := PageTable.mem_leaves_iff_entryAt.mp member
      exact housed.houses.readable page isValid }

/-- A space under paging that is well-formed, except that the page `pending` may
not be tracked yet. -/
structure NearlyFormed (pending : Option Nat) (state : Hosted AddressSpace) :
    Prop where
  served : IsServed state
  isPaging : state.focus.isPaging = true
  ledger : state.focus.ledger.IsConsistent
  nearly : state.focus.NearlyTracks pending
  houses : (pager state).Houses

theorem WellFormed.nearlyFormed (wellFormed : WellFormed state)
    (isPaging : state.focus.isPaging = true) : NearlyFormed none state :=
  { wellFormed.housed with
    isPaging
    nearly := wellFormed.agrees.nearlyTracks isPaging }

namespace NearlyFormed

theorem housed (formed : NearlyFormed pending state) : Housed state :=
  { formed with }

theorem wellFormed (formed : NearlyFormed none state) : WellFormed state :=
  formed.housed.wellFormed (formed.nearly.agrees formed.isPaging)

theorem isAligned (formed : NearlyFormed pending state) :
    state.focus.ledger.IsAligned :=
  formed.nearly.isAligned formed.ledger

theorem of_retains (formed : NearlyFormed pending before)
    (retains : (pager before).Retains (pager after))
    (served : IsServed after) : NearlyFormed pending after where
  served := served
  isPaging := retains.shape.isPaging.trans formed.isPaging
  ledger := retains.ledger
  nearly := formed.nearly.of_retains formed.ledger retains
  houses := retains.houses formed.houses

theorem of_resembles (formed : NearlyFormed pending before)
    (same : Resembles before after) : NearlyFormed pending after := by
  obtain ⟨focus, pools, _, _⟩ := after
  obtain rfl : focus = before.focus := same.focus
  obtain rfl : pools = before.host.pools := same.pools
  exact { formed with }

end NearlyFormed

theorem Resembles.pager (same : Resembles before after) :
    pager after = AddressSpace.pager before := by
  obtain ⟨focus, pools, _, _⟩ := after
  obtain rfl : focus = before.focus := same.focus
  obtain rfl : pools = before.host.pools := same.pools
  rfl

theorem IsServed.of_resembles (served : IsServed before)
    (same : Resembles before after) : IsServed after := by
  rw [IsServed, same.focus, same.pools]
  exact served

theorem pager_withFrames (served : IsServed state) (frames : FramePool) :
    pager (withFrames state frames) = { pager state with frames } :=
  (becomes_setPool served frames).parts

theorem IsServed.withFrames (served : IsServed state) (frames : FramePool) :
    IsServed (withFrames state frames) :=
  served.of_stays (becomes_setPool served frames).stays

end AddressSpace

end DemandPaging
