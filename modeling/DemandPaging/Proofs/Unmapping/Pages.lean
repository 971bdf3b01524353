import DemandPaging.Proofs.Unmapping.Intact

/-!
# A page that is unmapped

A page that is unmapped loses its entry and, under paging, its place in the
ledger and its slot; its frame goes back to the pool unless it is kept.  That is
all: the other pages keep their entries, their places, their slots and their
bytes, and no other slot and no other frame is given back (`Unmaps`).  What is
said is said of a set of pages, so that it composes.
-/

namespace DemandPaging

namespace Ledger

variable {ledger after : Ledger} {handle page other : Nat} {old : Tracked}

/-- The place of a page with what it holds, if the ledger tracks the page. -/
def record? (ledger : Ledger) (page : Nat) : Option (Nat × Tracked) := do
  let handle ← ledger.find? page
  let tracked ← ledger.places[handle]?
  return (handle, tracked)

theorem residenceOf?_eq_record? (ledger : Ledger) (page : Nat) :
    ledger.residenceOf? page =
      (ledger.record? page).map fun record => record.2.residence := by
  simp only [residenceOf?, record?, Option.bind_eq_bind]
  cases ledger.find? page with
  | none => rfl
  | some handle => cases found : ledger.places[handle]? <;> simp [found]

/-- A page whose place was emptied has no place, and the other pages have
theirs. -/
theorem Puts.record? (puts : ledger.Puts handle old Tracked.unused after)
    (consistent : ledger.IsConsistent) (tracks : old.Tracks page)
    (other : Nat) :
    after.record? other = if other = page then none else ledger.record? other := by
  have untracked : ¬Tracked.unused.Tracks other :=
    Tracked.not_tracks_of_residence rfl
  by_cases here : other = page
  · subst here
    rw [if_pos rfl, Ledger.record?, puts.find?_old other tracks untracked]
    rfl
  · have elsewhere : ¬old.Tracks other := fun both =>
      here (both.2.symm.trans tracks.2)
    rw [if_neg here, Ledger.record?, Ledger.record?,
      puts.find?_other other elsewhere untracked]
    cases found : ledger.find? other with
    | none => rfl
    | some place =>
        have different : handle ≠ place := by
          rintro rfl
          obtain ⟨tracked, held, tracksOther⟩ := consistent.find?_iff.mp found
          cases held.symm.trans puts.held
          exact elsewhere tracksOther
        simp only [Option.bind_eq_bind, Option.bind_some,
          puts.getElem?_places, if_neg different]

end Ledger

/-- What a page that is not tracked any more leaves of ledger and slots. -/
theorem Pager.Untracks.record? {pager : Pager} {page : Nat}
    {residence : Residence} {ledger : Ledger} {swap : SwapSpace}
    (untracks : pager.Untracks page residence ledger swap)
    (consistent : pager.ledger.IsConsistent)
    (taken : residence.isFree = false) :
    (∀ other, ledger.record? other =
        if other = page then none else pager.ledger.record? other) ∧
      ledger.residentCount + residence.isResident.toNat =
        pager.ledger.residentCount ∧
      ledger.swappedCount + residence.isSwapped.toNat =
        pager.ledger.swappedCount := by
  obtain ⟨handle, old, found, place, same, released⟩ := untracks.place
  obtain ⟨tracked, again, tracks⟩ := consistent.find?_iff.mp found
  cases place.symm.trans again
  obtain ⟨_, success, puts, _⟩ := consistent.release_of_tracks place tracks
  cases success.symm.trans released
  subst same
  exact ⟨puts.record? consistent tracks, puts.residentCount,
    puts.swappedCount⟩

theorem Pager.Untracks.file {pager : Pager} {page : Nat}
    {residence : Residence} {ledger : Ledger} {swap : SwapSpace}
    (untracks : pager.Untracks page residence ledger swap) :
    swap.file = pager.swap.file := by
  cases slots : residence.slot? with
  | none => rw [untracks.noSlot slots]
  | some slot =>
      obtain ⟨_, rfl⟩ := SwapSpace.release_eq_ok_iff.mp
        (untracks.slot slot slots)
      rfl

namespace AddressSpace

variable {state before middle after : Hosted AddressSpace} {freeing : Bool}
  {page other address : Nat} {gone later : Finset Nat}
  {fatal : Fatal → Prop} {failed : PagingError → Hosted AddressSpace → Prop}

theorem slotOf?_eq_record? (space : AddressSpace) (page : Nat) :
    space.slotOf? page =
      (space.ledger.record? page).bind fun record => record.2.residence.slot? := by
  simp only [slotOf?, Ledger.record?, Option.bind_eq_bind]
  cases space.ledger.find? page with
  | none => rfl
  | some handle =>
      cases found : space.ledger.places[handle]? <;> simp [found]

/-- Of some pages those that are in memory. -/
def mappedAmong (state : Hosted AddressSpace) (pages : Finset Nat) :
    Finset Nat :=
  pages.filter fun page => ((pager state).entryAt page).isValid = true

/-- Of some pages those that are in swap. -/
def pagedOutAmong (state : Hosted AddressSpace) (pages : Finset Nat) :
    Finset Nat :=
  pages.filter fun page => ((pager state).entryAt page).isPagedOut = true

/-- The pages `gone` have been unmapped, and nothing else has changed. -/
structure Unmaps (freeing : Bool) (gone : Finset Nat)
    (before after : Hosted AddressSpace) : Prop where
  stays : Stays before after
  isPaging : after.focus.isPaging = before.focus.isPaging
  aligned : ∀ page ∈ gone, Address.pageBase page = page
  entryAt : ∀ address, (pager after).entryAt address =
    if Address.pageBase address ∈ gone then Entry.empty
    else (pager before).entryAt address
  /-- Under paging the pages have no places, and the others have theirs. -/
  record? : before.focus.isPaging = true → ∀ page,
    after.focus.ledger.record? page =
      if page ∈ gone then none else before.focus.ledger.record? page
  /-- Without paging there is nothing in ledger or slots to change. -/
  plain : before.focus.isPaging = false →
    after.focus.ledger = before.focus.ledger ∧
      after.focus.swap = before.focus.swap
  /-- The other pages show what they showed. -/
  logicalPage? : ∀ address, Address.pageBase address ∉ gone →
    logicalPage? after address = logicalPage? before address
  /-- The slots of the pages that were in swap are given back. -/
  isClaimed : ∀ slot, after.focus.swap.isClaimed slot = true ↔
    before.focus.swap.isClaimed slot = true ∧
      ∀ page ∈ pagedOutAmong before gone,
        before.focus.slotOf? page ≠ some slot
  file : after.focus.swap.file = before.focus.swap.file
  residentCount : before.focus.isPaging = true →
    after.focus.ledger.residentCount + (mappedAmong before gone).card =
      before.focus.ledger.residentCount
  swappedCount : before.focus.isPaging = true →
    after.focus.ledger.swappedCount + (pagedOutAmong before gone).card =
      before.focus.ledger.swappedCount
  /-- The frames of the pages that were in memory go back unless they are
  kept. -/
  freeCount : (pager after).frames.freeCount =
    (pager before).frames.freeCount +
      if freeing then (mappedAmong before gone).card else 0

namespace Unmaps

theorem nothing (freeing : Bool) (state : Hosted AddressSpace) :
    Unmaps freeing ∅ state state where
  stays := .refl state
  isPaging := rfl
  aligned _ member := absurd member (Finset.notMem_empty _)
  entryAt _ := rfl
  record? _ _ := rfl
  plain _ := ⟨rfl, rfl⟩
  logicalPage? _ _ := rfl
  isClaimed _ := by simp [pagedOutAmong]
  file := rfl
  residentCount _ := rfl
  swappedCount _ := rfl
  freeCount := by simp [mappedAmong]

theorem entryAt_of_not_mem (unmaps : Unmaps freeing gone before after)
    (aligned : Address.pageBase page = page) (kept : page ∉ gone) :
    (pager after).entryAt page = (pager before).entryAt page := by
  rw [unmaps.entryAt, aligned, if_neg kept]

theorem slotOf?_of_not_mem (unmaps : Unmaps freeing gone before after)
    (kept : page ∉ gone) :
    after.focus.slotOf? page = before.focus.slotOf? page := by
  rw [slotOf?_eq_record?, slotOf?_eq_record?]
  cases isPaging : before.focus.isPaging with
  | true => rw [unmaps.record? isPaging, if_neg kept]
  | false => rw [(unmaps.plain isPaging).1]

theorem card_mappedAmong_union (state : Hosted AddressSpace)
    (disjoint : Disjoint gone later) :
    (mappedAmong state (gone ∪ later)).card =
      (mappedAmong state gone).card + (mappedAmong state later).card := by
  rw [mappedAmong, Finset.filter_union,
    Finset.card_union_of_disjoint (Finset.disjoint_filter_filter disjoint)]
  rfl

theorem card_pagedOutAmong_union (state : Hosted AddressSpace)
    (disjoint : Disjoint gone later) :
    (pagedOutAmong state (gone ∪ later)).card =
      (pagedOutAmong state gone).card + (pagedOutAmong state later).card := by
  rw [pagedOutAmong, Finset.filter_union,
    Finset.card_union_of_disjoint (Finset.disjoint_filter_filter disjoint)]
  rfl

section

variable (first : Unmaps freeing gone before middle)
  (aligned : ∀ page ∈ later, Address.pageBase page = page)
  (disjoint : Disjoint gone later)

include first aligned disjoint

theorem mappedAmong_later :
    mappedAmong middle later = mappedAmong before later := by
  refine Finset.filter_congr fun page member => ?_
  rw [first.entryAt_of_not_mem (aligned page member)
    (Finset.disjoint_right.mp disjoint member)]

theorem pagedOutAmong_later :
    pagedOutAmong middle later = pagedOutAmong before later := by
  refine Finset.filter_congr fun page member => ?_
  rw [first.entryAt_of_not_mem (aligned page member)
    (Finset.disjoint_right.mp disjoint member)]

end

theorem trans (first : Unmaps freeing gone before middle)
    (second : Unmaps freeing later middle after)
    (disjoint : Disjoint gone later) :
    Unmaps freeing (gone ∪ later) before after := by
  have aligned := second.aligned
  have mapped := first.mappedAmong_later aligned disjoint
  have inSwap := first.pagedOutAmong_later aligned disjoint
  have mappedCount := card_mappedAmong_union before disjoint
  have swappedCount := card_pagedOutAmong_union before disjoint
  exact {
    stays := first.stays.trans second.stays
    isPaging := second.isPaging.trans first.isPaging
    aligned := fun page member =>
      (Finset.mem_union.mp member).elim (first.aligned page) (aligned page)
    entryAt := fun address => by
      rw [second.entryAt, first.entryAt, ← ite_or]
      simp only [Finset.mem_union, or_comm]
    record? := fun isPaging page => by
      rw [second.record? (first.isPaging.trans isPaging),
        first.record? isPaging, ← ite_or]
      simp only [Finset.mem_union, or_comm]
    plain := fun notPaging => by
      obtain ⟨ledger, swap⟩ := second.plain (first.isPaging.trans notPaging)
      obtain ⟨firstLedger, firstSwap⟩ := first.plain notPaging
      exact ⟨ledger.trans firstLedger, swap.trans firstSwap⟩
    logicalPage? := fun address kept => by
      rw [Finset.mem_union, not_or] at kept
      rw [second.logicalPage? address kept.2, first.logicalPage? address kept.1]
    isClaimed := fun slot => by
      rw [second.isClaimed, first.isClaimed, inSwap, pagedOutAmong,
        pagedOutAmong, pagedOutAmong, Finset.filter_union, Finset.forall_mem_union,
        and_assoc]
      refine and_congr_right fun _ => and_congr_right fun _ =>
        forall₂_congr fun page member => ?_
      rw [first.slotOf?_of_not_mem (Finset.disjoint_right.mp disjoint
        (Finset.mem_of_mem_filter page member))]
    file := second.file.trans first.file
    residentCount := fun isPaging => by
      have now := second.residentCount (first.isPaging.trans isPaging)
      have earlier := first.residentCount isPaging
      rw [mapped] at now
      omega
    swappedCount := fun isPaging => by
      have now := second.swappedCount (first.isPaging.trans isPaging)
      have earlier := first.swappedCount isPaging
      rw [inSwap] at now
      omega
    freeCount := by
      rw [second.freeCount, first.freeCount, mapped, mappedCount]
      cases freeing
      · rfl
      · simp only [↓reduceIte]
        omega }

end Unmaps

theorem card_mappedAmong_singleton (state : Hosted AddressSpace) (page : Nat) :
    (mappedAmong state {page}).card =
      ((pager state).entryAt page).isValid.toNat := by
  rw [mappedAmong, Finset.filter_singleton]
  cases ((pager state).entryAt page).isValid <;> rfl

theorem card_pagedOutAmong_singleton (state : Hosted AddressSpace)
    (page : Nat) : (pagedOutAmong state {page}).card =
      ((pager state).entryAt page).isPagedOut.toNat := by
  rw [pagedOutAmong, Finset.filter_singleton]
  cases ((pager state).entryAt page).isPagedOut <;> rfl

/-- What a page that is unmapped leaves of ledger and slots. -/
structure GivesUp (state : Hosted AddressSpace) (page : Nat) (ledger : Ledger)
    (swap : SwapSpace) : Prop where
  isConsistent : ledger.IsConsistent
  isCounted : swap.IsConsistent
  maxResident : ledger.maxResident = state.focus.ledger.maxResident
  file : swap.file = state.focus.swap.file
  plain : state.focus.isPaging = false →
    ledger = state.focus.ledger ∧ swap = state.focus.swap
  record? : state.focus.isPaging = true → ∀ other, ledger.record? other =
    if other = page then none else state.focus.ledger.record? other
  isClaimed : state.focus.isPaging = true → ∀ slot,
    swap.isClaimed slot = true ↔ state.focus.swap.isClaimed slot = true ∧
      (pager state).residenceOf? page ≠ some (.swapped page slot)
  residentCount : state.focus.isPaging = true →
    ledger.residentCount + ((pager state).entryAt page).isValid.toNat =
      state.focus.ledger.residentCount
  swappedCount : state.focus.isPaging = true →
    ledger.swappedCount + ((pager state).entryAt page).isPagedOut.toNat =
      state.focus.ledger.swappedCount

/-- What a page that is unmapped leaves of the frames: its own goes back unless
it is kept. -/
structure Frees (freeing : Bool) (state : Hosted AddressSpace) (page : Nat)
    (frames : FramePool) : Prop where
  isConsistent : frames.IsConsistent
  freeCount : frames.freeCount = (pager state).frames.freeCount +
    if freeing then ((pager state).entryAt page).isValid.toNat else 0
  contents? : ∀ address, Address.pageBase address ≠ page →
    ((pager state).entryAt address).isValid = true →
      frames.contents? ((pager state).entryAt address).address =
        (pager state).frames.contents? ((pager state).entryAt address).address

namespace IsIntact

variable (intact : IsIntact state)
include intact

theorem givesUp_of_not_isPaging (notPaging : state.focus.isPaging = false)
    (page : Nat) :
    GivesUp state page state.focus.ledger state.focus.swap where
  isConsistent := intact.ledger
  isCounted := intact.swap
  maxResident := rfl
  file := rfl
  plain _ := ⟨rfl, rfl⟩
  record? isPaging := nomatch notPaging.symm.trans isPaging
  isClaimed isPaging := nomatch notPaging.symm.trans isPaging
  residentCount isPaging := nomatch notPaging.symm.trans isPaging
  swappedCount isPaging := nomatch notPaging.symm.trans isPaging

/-- Under paging a page that is there has a place to give up, and a slot if it
is in swap. -/
theorem exists_givesUp (isPaging : state.focus.isPaging = true)
    (aligned : Address.pageBase page = page)
    (isPresent : ((pager state).entryAt page).isPresent = true) :
    ∃ residence ledger swap,
      (pager state).Untracks page residence ledger swap ∧
      residence.isFree = false ∧
      ((pager state).entryAt page).isValid = residence.isResident ∧
      GivesUp state page ledger swap := by
  have nearly := intact.agrees.nearlyTracks isPaging
  obtain ⟨residence, known, taken, isValid⟩ :=
    nearly.known intact.ledger aligned isPresent
  have isClaimed : ∀ slot,
      (pager state).residenceOf? page = some (.swapped page slot) →
        (pager state).swap.isClaimed slot = true := fun slot swapped =>
    (nearly.isClaimed_iff_residenceOf? intact.ledger slot).mpr ⟨page, swapped⟩
  obtain ⟨ledger, swap, untracks, forgets, _⟩ := Pager.forgets_of_tracked
    intact.ledger intact.swap aligned isPresent isClaimed known
  obtain ⟨records, residentCount, swappedCount⟩ :=
    untracks.record? intact.ledger taken
  have isPagedOut : ((pager state).entryAt page).isPagedOut =
      residence.isSwapped := by
    cases residence with
    | free => cases taken
    | resident other => exact intact.isPagedOut_of_isValid isValid
    | swapped other slot =>
        rw [Entry.isPresent, isValid] at isPresent
        exact isPresent
  refine ⟨residence, ledger, swap, untracks, taken, isValid, {
    isConsistent := forgets.ledger
    isCounted := forgets.swap
    maxResident := forgets.shape.maxResident
    file := untracks.file
    plain := fun notPaging => by cases notPaging.symm.trans isPaging
    record? := fun _ => records
    isClaimed := fun _ => forgets.isClaimed
    residentCount := fun _ => ?_
    swappedCount := fun _ => ?_ }⟩
  · rw [isValid]
    exact residentCount
  · rw [isPagedOut]
    exact swappedCount

/-- A page that is there has a frame to give up if it is in memory. -/
theorem exists_frees (freeing : Bool) (aligned : Address.pageBase page = page) :
    ∃ frames,
      (if freeing && ((pager state).entryAt page).isValid then
        (pager state).frames.release ((pager state).entryAt page).address =
          .ok frames
      else frames = (pager state).frames) ∧
      Frees freeing state page frames := by
  cases isFreed : freeing && ((pager state).entryAt page).isValid with
  | false =>
      refine ⟨(pager state).frames, rfl, intact.pool, ?_, fun _ _ _ => rfl⟩
      cases freeing with
      | false => rfl
      | true =>
          rw [Bool.true_and] at isFreed
          rw [isFreed]
          rfl
  | true =>
      obtain ⟨rfl, isValid⟩ := Bool.and_eq_true_iff.mp isFreed
      obtain ⟨contents, lent⟩ := intact.contents?_frame isValid
      obtain ⟨frames, released, view⟩ := FramePool.release_of_contents? lent
      refine ⟨frames, released, intact.pool.release released, ?_, ?_⟩
      · rw [FramePool.freeCount_of_release released, isValid]
        rfl
      · intro address elsewhere addressValid
        rw [view, if_neg]
        intro same
        have samePage := intact.pageBase_eq_of_frame addressValid isValid same
        exact elsewhere (samePage.trans aligned)

end IsIntact

/-- The page at `page` was unmapped: it has given up what it had, and the other
pages have the entries that they had. -/
structure Strips (freeing : Bool) (before : Hosted AddressSpace) (page : Nat)
    (after : Hosted AddressSpace) : Prop where
  aligned : Address.pageBase page = page
  stays : Stays before after
  isPaging : after.focus.isPaging = before.focus.isPaging
  entryAt : ∀ address, (pager after).entryAt address =
    if Address.pageBase address = page then Entry.empty
    else (pager before).entryAt address
  givesUp : GivesUp before page after.focus.ledger after.focus.swap
  frees : Frees freeing before page (pager after).frames

theorem strips_of_becomes {ledger : Ledger} {swap : SwapSpace}
    {frames : FramePool} (aligned : Address.pageBase page = page)
    (isPresent : ((pager state).entryAt page).isPresent = true)
    (becomes : Becomes state { pager state with
      table := (pager state).table.update page fun _ => Entry.empty
      ledger, swap, frames } after)
    (givesUp : GivesUp state page ledger swap)
    (frees : Frees freeing state page frames) :
    Strips freeing state page after := by
  have parts := becomes.parts
  refine ⟨aligned, becomes.stays, congrArg Pager.isPaging parts, ?_, ?_, ?_⟩
  · rw [parts]
    exact Pager.entryAt_updated (fun _ => Entry.empty) aligned isPresent
  · rw [show after.focus.ledger = ledger from congrArg Pager.ledger parts,
      show after.focus.swap = swap from congrArg Pager.swap parts]
    exact givesUp
  · rw [parts]
    exact frees

/-- A page that is there is unmapped. -/
theorem IsIntact.strips_unmapPage (intact : IsIntact state) (freeing : Bool)
    (aligned : Address.pageBase page = page) (inside : page < addressLimit)
    (isPresent : ((pager state).entryAt page).isPresent = true) :
    ((unmapPage freeing page).run state).Meets fatal
      (fun _ => Strips freeing state page) failed := by
  have served : IsServed state := intact.pool_lt
  obtain ⟨frames, release, frees⟩ := intact.exists_frees freeing aligned
  rw [intact.run_unmapPage freeing inside isPresent]
  cases isPaging : state.focus.isPaging with
  | true =>
      obtain ⟨residence, ledger, swap, untracks, taken, isValid, givesUp⟩ :=
        intact.exists_givesUp isPaging aligned isPresent
      rw [Action.runIf_of_pos rfl]
      refine Action.meets_bind (meets_untrack untracks taken isValid)
        fun _ middle becomes => ?_
      rw [show (pager state).frames = (pager middle).frames by
        rw [becomes.parts]] at release
      refine (meets_freeEntry freeing (served.of_stays becomes.stays)
        release).mono_done fun _ after freed => ?_
      have whole := becomes.trans freed
      rw [becomes.parts] at whole
      exact strips_of_becomes aligned isPresent whole givesUp frees
  | false =>
      rw [Action.runIf_of_neg Bool.false_ne_true, pure_bind]
      refine (meets_freeEntry freeing served release).mono_done
        fun _ after freed => ?_
      exact strips_of_becomes aligned isPresent freed
        (intact.givesUp_of_not_isPaging isPaging page) frees

namespace Strips

variable (strips : Strips freeing before page after) (intact : IsIntact before)
include strips

theorem entryAt_of_ne (elsewhere : Address.pageBase address ≠ page) :
    (pager after).entryAt address = (pager before).entryAt address := by
  rw [strips.entryAt, if_neg elsewhere]

/-- A page that still has a leaf is another one, and has the leaf that it
had. -/
theorem leaf_before {entry : Entry}
    (leaf : (other, entry) ∈ after.focus.table.leaves) :
    Address.pageBase other ≠ page ∧
      (other, entry) ∈ before.focus.table.leaves := by
  obtain ⟨aligned, rfl, isPresent⟩ := PageTable.mem_leaves_iff_entryAt.mp leaf
  have entry := strips.entryAt other
  by_cases here : Address.pageBase other = page
  · rw [if_pos here] at entry
    change after.focus.table.entryAt other = Entry.empty at entry
    rw [entry] at isPresent
    cases isPresent
  · rw [if_neg here] at entry
    exact ⟨here,
      PageTable.mem_leaves_iff_entryAt.mpr ⟨aligned, entry.symm, isPresent⟩⟩

/-- Where a page is, the ledger says as before. -/
theorem residenceOf? (isPaging : before.focus.isPaging = true) (other : Nat) :
    (pager after).residenceOf? other =
      if other = page then none else (pager before).residenceOf? other := by
  have records := strips.givesUp.record? isPaging other
  change after.focus.ledger.residenceOf? other = _
  rw [Ledger.residenceOf?_eq_record?, records]
  split
  · rfl
  · exact (Ledger.residenceOf?_eq_record? _ _).symm

theorem residenceOf?_of_ne (elsewhere : other ≠ page) :
    (pager after).residenceOf? other = (pager before).residenceOf? other := by
  cases isPaging : before.focus.isPaging with
  | true => rw [strips.residenceOf? isPaging, if_neg elsewhere]
  | false =>
      exact congrArg (Ledger.residenceOf? · other)
        (strips.givesUp.plain isPaging).1

theorem logicalPage?_of_ne (elsewhere : Address.pageBase address ≠ page) :
    logicalPage? after address = logicalPage? before address := by
  have entry := strips.entryAt_of_ne elsewhere
  have slotBytes : ∀ slot, (pager after).swap.contents? slot =
      (pager before).swap.contents? slot := fun slot => by
    rw [SwapSpace.contents?, SwapSpace.contents?,
      show (pager after).swap.file = (pager before).swap.file from
        strips.givesUp.file]
  rw [logicalPage?_eq, logicalPage?_eq, Pager.logicalPage?, Pager.logicalPage?,
    Pager.bytesAt?, Pager.bytesAt?, Pager.entryAt_pageBase,
    Pager.entryAt_pageBase, entry, strips.residenceOf?_of_ne elsewhere,
    funext slotBytes]
  by_cases isValid : ((pager before).entryAt address).isValid = true
  · rw [if_pos isValid, if_pos isValid,
      strips.frees.contents? address elsewhere isValid]
  · rw [if_neg isValid, if_neg isValid]

include intact

theorem agrees : after.focus.Agrees := by
  cases isPaging : before.focus.isPaging with
  | true =>
      have givesUp := strips.givesUp
      have nearly := intact.agrees.nearlyTracks isPaging
      have differs : (pager before).DiffersAt (pager after) page := {
        aligned := strips.aligned
        marks := fun address elsewhere => by
          rw [strips.entryAt_of_ne elsewhere]
          exact .refl _
        residenceOf? := fun other elsewhere => by
          rw [strips.residenceOf? isPaging, if_neg elsewhere] }
      refine (nearly.of_gone intact.ledger differs givesUp.isConsistent ?_ ?_
        (givesUp.isClaimed isPaging) ?_ fun _ _ => nofun).agrees
          (strips.isPaging.trans isPaging)
      · rw [strips.entryAt, if_pos strips.aligned]
      · rw [strips.residenceOf? isPaging, if_pos rfl]
      · have count := givesUp.residentCount isPaging
        have ceiling := nearly.residentCount_le
        rw [givesUp.maxResident]
        omega
  | false =>
      refine agrees_of_not_isPaging (strips.isPaging.trans isPaging)
        fun address => ?_
      rw [strips.entryAt]
      split
      · rfl
      · exact intact.isPagedOut_of_not_isPaging isPaging address

theorem isIntact : IsIntact after where
  passes := (strips.agrees intact).check_eq_ok strips.givesUp.isConsistent
    strips.givesUp.isCounted
  ledger := strips.givesUp.isConsistent
  swap := strips.givesUp.isCounted
  pool := strips.frees.isConsistent
  pool_lt := IsServed.of_stays intact.pool_lt strips.stays
  readable other entry leaf :=
    intact.readable other entry (strips.leaf_before leaf).2
  framed other entry leaf isValid := by
    obtain ⟨elsewhere, leaf⟩ := strips.leaf_before leaf
    obtain ⟨contents, holds⟩ := intact.framed other entry leaf isValid
    obtain ⟨_, rfl, _⟩ := PageTable.mem_leaves_iff_entryAt.mp leaf
    have same := strips.frees.contents? other elsewhere isValid
    refine ⟨contents, FramePool.contents?_eq_some_iff.mp (same.trans ?_)⟩
    exact FramePool.contents?_eq_some_iff.mpr holds
  frame_inj first second firstEntry secondEntry firstLeaf secondLeaf :=
    intact.frame_inj first second firstEntry secondEntry
      (strips.leaf_before firstLeaf).2 (strips.leaf_before secondLeaf).2

/-- The slots that are given back are those of the pages that went and were in
swap. -/
theorem isClaimed_iff (slot : Nat) :
    after.focus.swap.isClaimed slot = true ↔
      before.focus.swap.isClaimed slot = true ∧
        ∀ other ∈ pagedOutAmong before {page},
          before.focus.slotOf? other ≠ some slot := by
  simp only [pagedOutAmong, Finset.mem_filter, Finset.mem_singleton]
  cases isPaging : before.focus.isPaging with
  | true =>
      have nearly := intact.agrees.nearlyTracks isPaging
      rw [strips.givesUp.isClaimed isPaging]
      refine and_congr_right fun _ => ?_
      rw [Ne, ← holdsSlot_iff intact.ledger,
        ← slotOf?_eq_some_iff intact.ledger]
      constructor
      · rintro notHeld other ⟨rfl, _⟩
        exact notHeld
      · intro notHeld held
        have swapped := (holdsSlot_iff intact.ledger).mp
          ((slotOf?_eq_some_iff intact.ledger).mp held)
        exact notHeld page ⟨rfl,
          (nearly.isPagedOut_of_swapped intact.ledger swapped).2⟩ held
  | false =>
      rw [(strips.givesUp.plain isPaging).2]
      refine ⟨fun isClaimed => ⟨isClaimed, ?_⟩, And.left⟩
      rintro other ⟨_, isPagedOut⟩
      have notPagedOut := intact.isPagedOut_of_not_isPaging isPaging other
      cases notPagedOut.symm.trans isPagedOut

theorem unmaps : Unmaps freeing {page} before after where
  stays := strips.stays
  isPaging := strips.isPaging
  aligned other member := by
    rw [Finset.mem_singleton.mp member]
    exact strips.aligned
  entryAt address := by
    simp only [Finset.mem_singleton]
    exact strips.entryAt address
  record? isPaging other := by
    simp only [Finset.mem_singleton]
    exact strips.givesUp.record? isPaging other
  plain := strips.givesUp.plain
  logicalPage? address kept :=
    strips.logicalPage?_of_ne (mt Finset.mem_singleton.mpr kept)
  isClaimed := strips.isClaimed_iff intact
  file := strips.givesUp.file
  residentCount isPaging := by
    rw [card_mappedAmong_singleton]
    exact strips.givesUp.residentCount isPaging
  swappedCount isPaging := by
    rw [card_pagedOutAmong_singleton]
    exact strips.givesUp.swappedCount isPaging
  freeCount := by
    rw [card_mappedAmong_singleton]
    exact strips.frees.freeCount

end Strips

end AddressSpace

end DemandPaging
