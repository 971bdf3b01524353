import DemandPaging.Proofs.AddressSpace.Unmapping
import DemandPaging.Proofs.Mapping.Houses

/-!
# Pages that are taken away

A page that is taken away has no view any more and every other page keeps its
own (`Pager.Removes`).  Pages that were added are taken away again where adding
a further one fails, and by then the leaf of that one may be missing.  So what
is said of a run of pages allows for a page whose leaf is missing elsewhere
(`Lacks`): it is said of the page table that has this leaf as well.
-/

namespace DemandPaging

namespace Pager

variable {before middle after : Pager} {page address : Nat}

/-- The page at `page` is gone, and every other page keeps its place, and its
bytes there. -/
structure Removes (before after : Pager) (page : Nat) : Prop extends
    before.Preserves after page where
  shape : before.SameShape after
  ledger : after.ledger.IsConsistent
  swap : after.swap.IsConsistent
  pool : after.frames.IsConsistent
  residentCount_le :
    after.ledger.residentCount ≤ before.ledger.residentCount
  entryAt_page : after.entryAt page = Entry.empty
  residenceOf?_page : after.residenceOf? page = none
  isClaimed_iff : ∀ slot, after.swap.isClaimed slot = true ↔
    before.swap.isClaimed slot = true ∧
      before.residenceOf? page ≠ some (.swapped page slot)

namespace Removes

theorem view? (removes : before.Removes after page)
    (consistent : before.ledger.IsConsistent) (address : Nat) :
    after.view? address =
      if Address.pageBase address = page then none
      else before.view? address := by
  by_cases here : Address.pageBase address = page
  · rw [if_pos here, Pager.view?, entryAt_of_pageBase_eq here,
      removes.entryAt_page]
    exact if_neg Bool.false_ne_true
  · rw [if_neg here]
    exact removes.toPreserves.view? consistent here

theorem houses (removes : before.Removes after page)
    (houses : before.Houses) : after.Houses := by
  have entry := removes.entryAt_page
  refine houses.of_preserves removes.toPreserves removes.shape removes.swap
    removes.pool (housesAt_of_not_isValid ?_ fun isPresent => ?_)
  · rw [entry]
    rfl
  · rw [entry] at isPresent
    cases isPresent

end Removes

/-- A page that is forgotten is gone once its frame is given back. -/
theorem Forgets.removes (forgets : before.Forgets middle page)
    (houses : before.Houses)
    (count : middle.ledger.residentCount ≤ before.ledger.residentCount) :
    ∃ frames,
      (if (before.entryAt page).isValid then
        before.frames.release (before.entryAt page).address = .ok frames
      else frames = before.frames) ∧
      before.Removes { middle with frames } page := by
  have differs : before.DiffersAt middle page :=
    ⟨forgets.aligned, fun address elsewhere => by
      rw [forgets.alters.entryAt address elsewhere]
      exact .refl _, forgets.alters.residenceOf?⟩
  have entry := forgets.entryAt_page
  have untracked : middle.residenceOf? page = none :=
    (forgets.residenceOf? page).trans (if_pos rfl)
  cases isValid : (before.entryAt page).isValid with
  | false =>
      refine ⟨before.frames, rfl, ?_⟩
      exact {
        aligned := differs.aligned
        marks := differs.marks
        residenceOf? := differs.residenceOf?
        slots := forgets.alters.slots
        frames := fun _ _ _ => rfl
        shape := forgets.shape.trans
          ⟨rfl, rfl, rfl, rfl, rfl, forgets.shape.total.symm⟩
        ledger := forgets.ledger
        swap := forgets.swap
        pool := houses.frames
        residentCount_le := count
        entryAt_page := entry
        residenceOf?_page := untracked
        isClaimed_iff := forgets.isClaimed }
  | true =>
      obtain ⟨contents, lent⟩ := houses.framed page isValid
      obtain ⟨frames, released, shown⟩ := FramePool.release_of_contents? lent
      refine ⟨frames, released, ?_⟩
      exact {
        aligned := differs.aligned
        marks := differs.marks
        residenceOf? := differs.residenceOf?
        slots := forgets.alters.slots
        frames := by
          intro address elsewhere addressValid
          refine (shown _).trans (if_neg fun same => elsewhere ?_)
          have samePage :=
            houses.frame_inj address page addressValid isValid same
          exact samePage.trans forgets.aligned
        shape := forgets.shape.trans ⟨rfl, rfl, rfl, rfl, rfl,
          (FramePool.total_of_release released).trans
            forgets.shape.total.symm⟩
        ledger := forgets.ledger
        swap := forgets.swap
        pool := houses.frames.release released
        residentCount_le := count
        entryAt_page := entry
        residenceOf?_page := untracked
        isClaimed_iff := forgets.isClaimed }

end Pager

namespace AddressSpace

variable {state before middle after : Hosted AddressSpace}
  {pending lost : Option Nat} {page start boundary stop : Nat}
  {table : PageTable} {view : Nat → Option PageView} {now : Option PageView}
  {failed : PagingError → Hosted AddressSpace → Prop}

/-- Where a page is gone, leaves, places and slots correspond. -/
theorem NearlyTracks.of_gone (nearly : before.focus.NearlyTracks pending)
    (consistent : before.focus.ledger.IsConsistent)
    (differs : (pager before).DiffersAt (pager after) page)
    (isConsistent : after.focus.ledger.IsConsistent)
    (entry : (pager after).entryAt page = Entry.empty)
    (untracked : (pager after).residenceOf? page = none)
    (isClaimed : ∀ slot, after.focus.swap.isClaimed slot = true ↔
      before.focus.swap.isClaimed slot = true ∧
        (pager before).residenceOf? page ≠ some (.swapped page slot))
    (residentCount_le :
      after.focus.ledger.residentCount ≤ after.focus.ledger.maxResident)
    (onlyPending : ∀ other, other ≠ page → pending ≠ some other) :
    after.focus.NearlyTracks none := by
  refine nearly.of_differsAt consistent differs isConsistent ?_
    fun other elsewhere _ => onlyPending other elsewhere
  exact {
    exclusive := by
      rw [entry]
      exact nofun
    isResident := by
      rw [entry]
      exact nofun
    isMapped := fun resident => nomatch untracked.symm.trans resident
    holdsSlot := by
      rw [entry]
      exact nofun
    isPagedOut := fun _ swapped => nomatch untracked.symm.trans swapped
    isClaimed_iff := by
      intro slot
      refine (isClaimed slot).trans ?_
      have held := nearly.isClaimed_iff_residenceOf? consistent slot
      constructor
      · rintro ⟨claimed, notHere⟩
        obtain ⟨other, known⟩ := held.mp claimed
        refine .inr ⟨other, ?_, known⟩
        rintro rfl
        exact notHere known
      · rintro (swapped | ⟨other, elsewhere, known⟩)
        · cases untracked.symm.trans swapped
        · exact ⟨held.mpr ⟨other, known⟩, fun here =>
            elsewhere (nearly.eq_of_swapped consistent known here)⟩
    slot_new := fun _ _ _ swapped => nomatch untracked.symm.trans swapped
    residentCount_le := residentCount_le }

/-- A page that is gone leaves the space well-formed. -/
theorem NearlyFormed.of_removes (formed : NearlyFormed pending before)
    (removes : (pager before).Removes (pager after) page)
    (onlyPending : ∀ other, other ≠ page → pending ≠ some other)
    (served : IsServed after) : NearlyFormed none after where
  served := served
  isPaging := removes.shape.isPaging.trans formed.isPaging
  ledger := removes.ledger
  houses := removes.houses formed.houses
  nearly := by
    have ceiling : after.focus.ledger.maxResident =
        before.focus.ledger.maxResident := removes.shape.maxResident
    refine formed.nearly.of_gone formed.ledger removes.toDiffersAt
      removes.ledger removes.entryAt_page removes.residenceOf?_page
      removes.isClaimed_iff ?_ onlyPending
    rw [ceiling]
    exact removes.residentCount_le.trans formed.nearly.residentCount_le

/-- The space with the page table `table`. -/
def withTable (state : Hosted AddressSpace) (table : PageTable) :
    Hosted AddressSpace :=
  withSpace state fun space => { space with table }

/-- The entries are those of `table`, except that the page `lost` has none. -/
def Lacks (state : Hosted AddressSpace) (table : PageTable)
    (lost : Option Nat) : Prop :=
  ∀ address, (pager state).entryAt address =
    if lost = some (Address.pageBase address) then Entry.empty
    else table.entryAt address

theorem lacks_none (state : Hosted AddressSpace) :
    Lacks state state.focus.table none := fun _ =>
  (if_neg (Option.some_ne_none _).symm).symm

/-- What `view` shows, but `now` from `start` up to `stop`. -/
def patch (view : Nat → Option PageView) (start stop : Nat)
    (now : Option PageView) : Nat → Option PageView := fun address =>
  if start ≤ address ∧ address < stop then now else view address

theorem patch_of_le (le : stop ≤ start) : patch view start stop now = view :=
  funext fun _ => if_neg (by omega)

theorem patch_patch (low : start ≤ boundary) (high : boundary ≤ stop) :
    patch (patch view start boundary now) boundary stop now =
      patch view start stop now := by
  funext address
  exact Pager.ite_range_trans _ _ low high

theorem patch_patch_self (before : ∀ address, start ≤ address →
      address < stop → view address = none) :
    patch (patch view start stop now) start stop none = view := by
  funext address
  simp only [patch]
  by_cases inside : start ≤ address ∧ address < stop
  · rw [if_pos inside, before address inside.1 inside.2]
  · rw [if_neg inside, if_neg inside]

/-- With the page table `table`, which may have one leaf more, the space is
well-formed and shows `view`. -/
structure Shown (view : Nat → Option PageView) (lost : Option Nat)
    (table : PageTable) (state : Hosted AddressSpace) : Prop where
  lacks : Lacks state table lost
  formed : NearlyFormed none (withTable state table)
  view : view? (withTable state table) = view

theorem NearlyFormed.shown (formed : NearlyFormed none state) :
    Shown (view? state) none state.focus.table state :=
  ⟨lacks_none state, formed, rfl⟩

theorem Shown.intact (shown : Shown view none table state) :
    NearlyFormed none state ∧ view? state = view := by
  have retains : (pager (withTable state table)).Retains (pager state) := {
    shape := ⟨rfl, rfl, rfl, rfl, rfl, rfl⟩
    alike := by
      intro address
      rw [shown.lacks address, if_neg (Option.some_ne_none _).symm]
      exact (Entry.SameButMarks.refl _).alike
    ledger := shown.formed.ledger
    residentCount := rfl
    residenceOf? := fun _ => rfl
    swap := rfl
    held := ⟨rfl, shown.formed.houses.frames, fun _ _ => rfl⟩ }
  exact ⟨shown.formed.of_retains retains shown.formed.served,
    retains.view?.trans shown.view⟩

/-- What is missing stays missing where another entry is cleared. -/
theorem Lacks.cleared (lacks : Lacks state table lost)
    (aligned : Address.pageBase page = page)
    (isPresent : ((pager state).entryAt page).isPresent = true)
    (isThere : (table.entryAt page).isPresent = true)
    (cleared : (pager after).table =
      (pager state).table.update page fun _ => Entry.empty) :
    Lacks after (table.update page fun _ => Entry.empty) lost := by
  intro address
  have here := Pager.entryAt_updated (fun _ => Entry.empty) aligned isPresent
    address
  have whole := PageTable.entryAt_update_of_isPresent (fun _ => Entry.empty)
    isThere address
  rw [aligned] at whole
  rw [Pager.entryAt, cleared, here, whole]
  by_cases samePage : Address.pageBase address = page
  · rw [if_pos samePage, if_pos samePage, ite_self]
  · rw [if_neg samePage, if_neg samePage]
    exact lacks address

/-- The frame of a page goes back if it has one and is not kept, and its entry is
cleared. -/
theorem meets_freeEntry {fatal : Fatal → Prop} {entry : Entry}
    {frames : FramePool} (freeing : Bool) (served : IsServed state)
    (frees : if freeing && entry.isValid then
        (pager state).frames.release entry.address = .ok frames
      else frames = (pager state).frames) :
    (Action.run (do
      Action.runIf (freeing && entry.isValid) (releaseFrame entry.address)
      updateEntry page fun _ => Entry.empty) state).Meets fatal
      (fun _ => Becomes state { pager state with
        table := (pager state).table.update page fun _ => Entry.empty
        frames }) failed := by
  refine Action.meets_bind_of
    (fun _ => Becomes state { pager state with frames })
    (Action.meets_runIf (fun isFreed => ?_) fun notFreed => ?_)
    fun _ middle freed => ?_
  · rw [if_pos isFreed] at frees
    exact meets_changeFrames served frees
  · rw [if_neg notFreed] at frees
    rw [frees]
    exact ⟨.refl state, rfl⟩
  · refine (meets_updateEntry _).mono_done fun _ after updated => ?_
    have whole := freed.trans updated
    rwa [freed.parts] at whole

/-- A page that is there is tracked as its entry says. -/
theorem NearlyTracks.known (nearly : state.focus.NearlyTracks none)
    (consistent : state.focus.ledger.IsConsistent)
    (aligned : Address.pageBase page = page)
    (isPresent : ((pager state).entryAt page).isPresent = true) :
    ∃ residence, (pager state).residenceOf? page = some residence ∧
      residence.isFree = false ∧
        ((pager state).entryAt page).isValid = residence.isResident := by
  cases isValid : ((pager state).entryAt page).isValid with
  | true =>
      exact ⟨_, nearly.residenceOf?_of_isValid consistent aligned isValid nofun,
        rfl, rfl⟩
  | false =>
      rw [Entry.isPresent, isValid, Bool.false_or] at isPresent
      obtain ⟨_, known⟩ :=
        nearly.residenceOf?_of_isPagedOut consistent aligned isPresent
      exact ⟨_, known, rfl, rfl⟩

/-- A page that is there has a place and, in memory, a frame to give up, and is
gone without them and its entry. -/
theorem NearlyFormed.exists_removes (formed : NearlyFormed none state)
    (aligned : Address.pageBase page = page)
    (isPresent : ((pager state).entryAt page).isPresent = true) :
    ∃ residence ledger swap frames,
      (pager state).Untracks page residence ledger swap ∧
      residence.isFree = false ∧
      ((pager state).entryAt page).isValid = residence.isResident ∧
      (if ((pager state).entryAt page).isValid then
        (pager state).frames.release ((pager state).entryAt page).address =
          .ok frames
      else frames = (pager state).frames) ∧
      (pager state).Removes { pager state with
        table := (pager state).table.update page fun _ => Entry.empty
        ledger, swap, frames } page := by
  obtain ⟨residence, known, taken, agrees⟩ :=
    formed.nearly.known formed.ledger aligned isPresent
  have isClaimed : ∀ slot,
      (pager state).residenceOf? page = some (.swapped page slot) →
        (pager state).swap.isClaimed slot = true := fun slot swapped =>
    (formed.nearly.isClaimed_iff_residenceOf? formed.ledger slot).mpr
      ⟨page, swapped⟩
  obtain ⟨ledger, swap, untracks, forgets, count, _⟩ :=
    Pager.forgets_of_tracked formed.ledger formed.houses.swap aligned
      isPresent isClaimed known
  obtain ⟨frames, frees, removes⟩ := forgets.removes formed.houses count
  exact ⟨residence, ledger, swap, frames, untracks, taken, agrees, frees,
    removes⟩

/-- A page that is gone shows no more, whatever leaf is missing elsewhere. -/
theorem Shown.removed {ledger : Ledger} {swap : SwapSpace}
    {frames : FramePool} (shown : Shown view lost table state)
    (aligned : Address.pageBase page = page)
    (isPresent : ((pager state).entryAt page).isPresent = true)
    (isThere : (table.entryAt page).isPresent = true)
    (removes : (pager (withTable state table)).Removes
      { pager state with
        table := table.update page fun _ => Entry.empty
        ledger, swap, frames } page)
    (becomes : Becomes state { pager state with
      table := (pager state).table.update page fun _ => Entry.empty
      ledger, swap, frames } after) :
    Shown (patch view page (page + pageSize) none) lost
      (table.update page fun _ => Entry.empty) after := by
  have formed := shown.formed
  have isGone : (pager (withTable state table)).Removes (pager
      (withTable after (table.update page fun _ => Entry.empty))) page := by
    change Pager.Removes _
      { pager after with table := table.update page fun _ => Entry.empty } _
    rw [becomes.parts]
    exact removes
  have served : IsServed state := formed.served
  have servedAfter : IsServed after := served.of_stays becomes.stays
  refine ⟨shown.lacks.cleared aligned isPresent isThere
    (congrArg Pager.table becomes.parts),
    formed.of_removes isGone (fun _ _ => nofun) servedAfter,
    funext fun address => ?_⟩
  refine (isGone.view? formed.ledger address).trans ?_
  rw [patch]
  simp only [Pager.mem_page_iff aligned, ← shown.view]
  rfl

/-- A page that is there is taken away, whatever leaf is missing elsewhere. -/
theorem meets_unmapPage_of_shown (shown : Shown view lost table state)
    (elsewhere : lost ≠ some page) (aligned : Address.pageBase page = page) :
    ((unmapPage true page).run state).Meets (fun _ => True)
      (fun _ after => ∃ left,
        Shown (patch view page (page + pageSize) none) lost left after)
      failed := by
  rw [unmapPage]
  by_cases inside : page < addressLimit
  case neg =>
    rw [Action.run_bind_of_fatal
      (run_lookup_of_le (Nat.le_of_not_lt inside))]
    trivial
  rw [Action.run_bind_of_done (run_lookup_of_lt inside)]
  cases found : state.focus.table.get? page with
  | none => trivial
  | some entry =>
      have held : (pager state).entryAt page = entry :=
        PageTable.entryAt_of_get? found
      have same : table.entryAt page = entry := by
        rw [← held, shown.lacks page, aligned, if_neg elsewhere]
      rw [Action.run_bind_of_done (Action.run_orCrash_some _ _ _)]
      refine Action.meets_crashUnless_bind (fun _ => trivial)
        fun isPresent => ?_
      refine Action.meets_crashUnless_bind (fun _ => trivial) fun _ => ?_
      refine Action.meets_crashUnless_bind (fun _ => trivial) fun _ => ?_
      rw [Action.run_bind_of_done (run_look _)]
      refine Action.meets_crashUnless_bind (fun _ => trivial) fun _ => ?_
      have isPaging : state.focus.isPaging = true := shown.formed.isPaging
      rw [Action.runIf_of_pos isPaging]
      have isThere : (table.entryAt page).isPresent = true := by rwa [same]
      obtain ⟨residence, ledger, swap, frames, untracks, taken, agrees, frees,
        removes⟩ := shown.formed.exists_removes aligned isThere
      change (table.entryAt page).isValid = _ at agrees
      rw [same] at agrees
      have untracksHere :
          (pager state).Untracks page residence ledger swap :=
        ⟨untracks.place, untracks.slot, untracks.noSlot⟩
      refine Action.meets_bind (meets_untrack untracksHere taken agrees)
        fun _ middle becomes => ?_
      have freesHere : if entry.isValid then
          (pager middle).frames.release entry.address = .ok frames
          else frames = (pager middle).frames := by
        rw [becomes.parts, ← same]
        exact frees
      have served : IsServed state := shown.formed.served
      refine (meets_freeEntry true (served.of_stays becomes.stays)
        freesHere).mono_done fun _ after freed => ?_
      have whole := becomes.trans freed
      rw [becomes.parts] at whole
      exact ⟨_, shown.removed aligned (held ▸ isPresent) isThere removes
        whole⟩

/-- A run of pages is taken away, whatever leaf is missing behind them. -/
theorem meets_unmapRun_of_shown (count : Nat)
    (shown : Shown view lost table state)
    (aligned : Address.pageBase page = page)
    (behind : ∀ gone, lost = some gone → page + count * pageSize ≤ gone) :
    ((unmapRun true page count).run state).Meets (fun _ => True)
      (fun _ after => ∃ left,
        Shown (patch view page (page + count * pageSize) none) lost left after)
      failed := by
  induction count generalizing state page table view with
  | zero =>
      rw [patch_of_le (by omega)]
      exact ⟨table, shown⟩
  | succ count ih =>
      have further := Address.add_succ_mul_pageSize page count
      have next := Address.pageBase_next aligned
      rw [further] at behind ⊢
      rw [unmapRun]
      refine Action.meets_bind (meets_unmapPage_of_shown shown ?_ aligned) ?_
      · rintro isLost
        have beyond := behind page isLost
        simp only [pageSize] at beyond
        omega
      rintro _ middle ⟨left, shownMiddle⟩
      refine (ih shownMiddle next behind).mono_done fun _ after rest => ?_
      rwa [patch_patch (Nat.le_add_right _ _) (Nat.le_add_right _ _)] at rest

theorem meets_unmap_of_shown {count : Nat}
    (shown : Shown view lost table state)
    (aligned : Address.isPageAligned start = true)
    (whole : start + count * pageSize = stop)
    (behind : ∀ gone, lost = some gone → stop ≤ gone) :
    ((unmap start count true).run state).Meets (fun _ => True)
      (fun _ after => ∃ left,
        Shown (patch view start stop none) lost left after) failed := by
  subst whole
  rw [unmap, Action.run_bind_of_done
    (by rw [Action.run_crashUnless, if_pos aligned])]
  exact meets_unmapRun_of_shown count shown
    (Address.pageBase_eq_self_iff.mpr aligned) behind

/-- Memory that shrinks from a page boundary loses the pages down to its new
end, whatever leaf is missing behind them. -/
theorem meets_shrink_of_shown {new : Nat}
    (shown : Shown view lost table state)
    (aligned : Address.pageBase stop = stop)
    (behind : ∀ gone, lost = some gone → stop ≤ gone) :
    ((shrink stop new).run state).Meets (fun _ => True)
      (fun _ after => ∃ left,
        Shown (patch view (Address.pageCeil new) stop none) lost left after)
      failed := by
  have boundary : Address.pageCeil stop = stop :=
    Address.pageCeil_eq_self_iff.mpr (Address.pageBase_eq_self_iff.mp aligned)
  rw [shrink]
  by_cases isSmall : stop ≤ new
  · rw [if_pos isSmall]
    refine ⟨table, ?_⟩
    rw [patch_of_le]
    · exact shown
    · rw [← boundary]
      exact Address.pageCeil_mono isSmall
  rw [if_neg isSmall]
  refine Action.meets_roundUp_bind (fun _ => trivial) fun _ => ?_
  refine Action.meets_roundUp_bind (fun _ => trivial) fun _ => ?_
  rw [boundary]
  refine Action.meets_bind_of (fun _ after => ∃ left,
    Shown (patch view (Address.pageCeil new) stop none) lost left after)
    (Action.meets_runIf (fun _ => ?_) fun isEmpty => ⟨table, ?_⟩)
    fun _ _ cleared => cleared
  · have start := Address.isPageAligned_pageCeil new
    have whole : Address.pageCeil new +
        (stop - Address.pageCeil new) / pageSize * pageSize = stop := by
      rw [Address.isPageAligned_iff] at start
      simp only [Address.pageBase, pageSize] at *
      omega
    exact meets_unmap_of_shown shown start whole behind
  · rw [patch_of_le (Nat.le_of_not_lt isEmpty)]
    exact shown

end AddressSpace

end DemandPaging
