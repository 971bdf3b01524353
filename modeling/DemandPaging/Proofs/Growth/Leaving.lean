import DemandPaging.Proofs.Effects.Exchanges
import DemandPaging.Proofs.Growth.Receding
import DemandPaging.Proofs.Mapping.Removal
import DemandPaging.Proofs.UserCopy.Formed

/-!
# Pages that are taken back

A page that is taken away gives up its frame or its slot and, under paging, its
place.  So what a space under paging has of frames that are free and of pages in
memory does not change together, and every other page stays where it is
(`Drops`).
-/

namespace DemandPaging

namespace Ledger

variable {ledger after : Ledger} {handle : Nat} {old new : Tracked}

theorem Puts.residenceAt? (puts : ledger.Puts handle old new after)
    (other : Nat) : after.residenceAt? other =
      if other = handle then some new.residence
      else ledger.residenceAt? other := by
  rw [Ledger.residenceAt?, puts.getElem?_places]
  by_cases here : other = handle
  · rw [if_pos here.symm, if_pos here]
    rfl
  · rw [if_neg (Ne.symm here), if_neg here]
    rfl

end Ledger

/-- A page in memory that is unmapped and gives its frame up leaves the frames
of the others alone. -/
theorem Pager.Houses.cleared {before after : Pager} {page : Nat}
    {frames : FramePool} (houses : before.Houses)
    (aligned : Address.pageBase page = page)
    (isValid : (before.entryAt page).isValid = true)
    (released : before.frames.release (before.entryAt page).address =
      .ok frames)
    (clears : after = { before with
      table := before.table.update page fun _ => Entry.empty
      frames }) : after.Houses := by
  have entries : ∀ address, after.entryAt address =
      if Address.pageBase address = page then Entry.empty
      else before.entryAt address := by
    rw [clears]
    exact Pager.entryAt_updated (fun _ => Entry.empty) aligned
      (Pager.isPresent_of_isValid isValid)
  have emptied := (entries page).trans (if_pos aligned)
  have given : after.frames = frames := congrArg Pager.frames clears
  have preserves : before.Preserves after page := {
    aligned := aligned
    marks := by
      intro address elsewhere
      rw [entries, if_neg elsewhere]
      exact .refl _
    residenceOf? := by
      intro other _
      rw [clears]
      rfl
    slots := by
      intro other slot _ _
      rw [clears]
    frames := by
      intro address elsewhere addressValid
      rw [given, FramePool.contents?_of_release released, if_neg]
      intro same
      have samePage :=
        houses.frame_inj address page addressValid isValid same
      exact elsewhere (samePage.trans aligned) }
  refine houses.of_preserves preserves ?_ ?_ ?_
    (housesAt_of_not_isValid ?_ ?_)
  · rw [clears]
    exact ⟨rfl, rfl, rfl, rfl, rfl, FramePool.total_of_release released⟩
  · rw [clears]
    exact houses.swap
  · rw [given]
    exact houses.frames.release released
  · rw [emptied]
    rfl
  · rw [emptied]
    exact nofun

/-- A page that is not tracked any more leaves a free place. -/
theorem Pager.Untracks.frees {pager : Pager} {page : Nat}
    {residence : Residence} {ledger : Ledger} {swap : SwapSpace}
    (untracks : pager.Untracks page residence ledger swap)
    (consistent : pager.ledger.IsConsistent)
    (taken : residence.isFree = false) :
    ∃ handle, pager.ledger.residenceAt? handle = some residence ∧
      residence.address = page ∧
      (∀ other, ledger.residenceAt? other =
        if other = handle then some .free
        else pager.ledger.residenceAt? other) ∧
      ledger.residentCount + residence.isResident.toNat =
        pager.ledger.residentCount := by
  obtain ⟨handle, old, found, place, same, released⟩ := untracks.place
  obtain ⟨tracked, again, _, address⟩ := consistent.find?_iff.mp found
  cases place.symm.trans again
  obtain ⟨_, success, puts, _⟩ := consistent.release_of_tracks place
    ⟨by rw [Tracked.isFree, same, taken], address⟩
  cases success.symm.trans released
  refine ⟨handle, ?_, ?_, puts.residenceAt?, ?_⟩
  · rw [Ledger.residenceAt?_of_place place, same]
  · rw [← same]
    exact address
  · rw [← same]
    exact puts.residentCount

namespace AddressSpace

variable {state before middle after : Hosted AddressSpace} {parts : Pager}
  {page : Nat} {failed : PagingError → Hosted AddressSpace → Prop}

/-- Where no page can be in swap, the parts of a space agree. -/
theorem agrees_of_not_isPaging (notPaging : state.focus.isPaging = false)
    (notPagedOut : ∀ address,
      ((pager state).entryAt address).isPagedOut = false) :
    state.focus.Agrees where
  exclusive page entry member := by
    obtain ⟨_, rfl, _⟩ := PageTable.mem_leaves_iff_entryAt.mp member
    exact fun both => nomatch (notPagedOut page).symm.trans both.2
  tracks isPaging := nomatch notPaging.symm.trans isPaging
  not_isPagedOut _ page := by
    rw [isPagedOut_iff]
    exact fun both => nomatch (notPagedOut page).symm.trans both.2

theorem IsFormed.isValid_of_isPresent (formed : IsFormed state)
    (notPaging : state.focus.isPaging = false)
    (isPresent : ((pager state).entryAt page).isPresent = true) :
    ((pager state).entryAt page).isValid = true := by
  rw [Entry.isPresent, formed.isPagedOut_eq_false notPaging,
    Bool.or_false] at isPresent
  exact isPresent

/-- The page at `page` is taken away.  Under paging it gives up its place, and
its frame or its slot; otherwise it had a frame and nothing else. -/
structure Drops (before : Hosted AddressSpace) (page : Nat)
    (after : Hosted AddressSpace) : Prop where
  wellFormed : WellFormed after
  setting : SameSetting before after
  isPresent : ∀ address, ((pager after).entryAt address).isPresent =
    if Address.pageBase address = page then false
    else ((pager before).entryAt address).isPresent
  tracked : before.focus.isPaging = true → ∃ handle residence,
    before.focus.ledger.residenceAt? handle = some residence ∧
    residence.isFree = false ∧ residence.address = page ∧
    (∀ other, after.focus.ledger.residenceAt? other =
      if other = handle then some .free
      else before.focus.ledger.residenceAt? other) ∧
    (pager after).frames.freeCount + after.focus.ledger.residentCount =
      (pager before).frames.freeCount + before.focus.ledger.residentCount
  plain : before.focus.isPaging = false →
    after.focus.ledger = before.focus.ledger ∧
    after.focus.swap = before.focus.swap ∧
    (pager after).frames.freeCount = (pager before).frames.freeCount + 1

/-- A page that is there gives up what it has under paging. -/
theorem NearlyFormed.drops (formed : NearlyFormed none before)
    {residence : Residence} {ledger : Ledger} {swap : SwapSpace}
    {frames : FramePool}
    (untracks : (pager before).Untracks page residence ledger swap)
    (taken : residence.isFree = false)
    (agrees : ((pager before).entryAt page).isValid = residence.isResident)
    (frees : if ((pager before).entryAt page).isValid then
        (pager before).frames.release ((pager before).entryAt page).address =
          .ok frames
      else frames = (pager before).frames)
    (removes : (pager before).Removes { pager before with
      table := (pager before).table.update page fun _ => Entry.empty
      ledger, swap, frames } page)
    (becomes : Becomes before { pager before with
      table := (pager before).table.update page fun _ => Entry.empty
      ledger, swap, frames } after) : Drops before page after := by
  have isGone : (pager before).Removes (pager after) page := by
    rw [becomes.parts]
    exact removes
  have settled := formed.of_removes isGone (fun _ _ => nofun)
    (formed.served.of_stays becomes.stays)
  have sameLedger : after.focus.ledger = ledger :=
    congrArg Pager.ledger becomes.parts
  have sameFrames : (pager after).frames = frames :=
    congrArg Pager.frames becomes.parts
  obtain ⟨handle, place, address, places, count⟩ :=
    untracks.frees formed.ledger taken
  have given : frames.freeCount =
      (pager before).frames.freeCount + residence.isResident.toNat := by
    cases isResident : residence.isResident with
    | true =>
        rw [agrees, isResident, if_pos rfl] at frees
        exact FramePool.freeCount_of_release frees
    | false =>
        rw [agrees, isResident, if_neg Bool.false_ne_true] at frees
        rw [frees]
        rfl
  refine ⟨settled.wellFormed, becomes.setting removes.shape,
    fun address => ?_, fun _ => ⟨handle, residence, place, taken, address, ?_,
      ?_⟩, fun notPaging => nomatch notPaging.symm.trans formed.isPaging⟩
  · by_cases here : Address.pageBase address = page
    · rw [if_pos here, Pager.entryAt_of_pageBase_eq here,
        isGone.entryAt_page]
      rfl
    · rw [if_neg here, (isGone.marks address here).alike.isPresent]
  · rw [sameLedger]
    exact places
  · rw [sameLedger, sameFrames, given]
    change _ = (pager before).frames.freeCount +
      (pager before).ledger.residentCount
    omega

/-- A page that is there gives up its frame where there is no paging. -/
theorem WellFormed.drops (wellFormed : WellFormed before)
    (notPaging : before.focus.isPaging = false)
    (aligned : Address.pageBase page = page)
    (isPresent : ((pager before).entryAt page).isPresent = true)
    {frames : FramePool}
    (released : (pager before).frames.release
      ((pager before).entryAt page).address = .ok frames)
    (becomes : Becomes before { pager before with
      table := (pager before).table.update page fun _ => Entry.empty
      frames } after) : Drops before page after := by
  have formed := wellFormed.isFormed
  have isValid := formed.isValid_of_isPresent notPaging isPresent
  have setting := becomes.setting
    ⟨rfl, rfl, rfl, rfl, rfl, FramePool.total_of_release released⟩
  have sameLedger : after.focus.ledger = before.focus.ledger :=
    congrArg Pager.ledger becomes.parts
  have sameSwap : after.focus.swap = before.focus.swap :=
    congrArg Pager.swap becomes.parts
  have sameFrames : (pager after).frames = frames :=
    congrArg Pager.frames becomes.parts
  have entries : ∀ address, (pager after).entryAt address =
      if Address.pageBase address = page then Entry.empty
      else (pager before).entryAt address := by
    rw [becomes.parts]
    exact Pager.entryAt_updated (fun _ => Entry.empty) aligned isPresent
  have housed : Housed after := {
    served := wellFormed.housed.served.of_stays becomes.stays
    ledger := sameLedger ▸ wellFormed.ledger
    houses := wellFormed.housed.houses.cleared aligned isValid released
      becomes.parts }
  refine ⟨housed.wellFormed (agrees_of_not_isPaging
    (setting.isPaging.trans notPaging) fun address => ?_), setting,
    fun address => ?_,
    (fun isPaging => nomatch notPaging.symm.trans isPaging),
    fun _ => ⟨sameLedger, sameSwap, ?_⟩⟩
  · rw [entries]
    split
    · rfl
    · exact formed.isPagedOut_eq_false notPaging
  · rw [entries]
    split <;> rfl
  · rw [sameFrames]
    exact FramePool.freeCount_of_release released

/-- A page that is there passes all the checks that are made before it is taken
away. -/
theorem WellFormed.run_unmapPage (wellFormed : WellFormed state)
    (isPresent : ((pager state).entryAt page).isPresent = true) :
    (unmapPage true page).run state = (do
      Action.runIf state.focus.isPaging
        (untrack page ((pager state).entryAt page))
      Action.runIf (true && ((pager state).entryAt page).isValid)
        (releaseFrame ((pager state).entryAt page).address)
      updateEntry page fun _ => Entry.empty : SpaceAction Unit).run state :=
  have formed := wellFormed.isFormed
  run_unmapPage_of_isPresent true (formed.lt_addressLimit isPresent) isPresent
    formed.exclusive (wellFormed.housed.houses.readable page)
    formed.isPagedOut_eq_false

/-- A page that is there is taken away. -/
theorem drops_unmapPage {fatal : Fatal → Prop} (wellFormed : WellFormed state)
    (aligned : Address.pageBase page = page)
    (isPresent : ((pager state).entryAt page).isPresent = true) :
    ((unmapPage true page).run state).Meets fatal
      (fun _ => Drops state page) failed := by
  rw [wellFormed.run_unmapPage isPresent]
  cases isPaging : state.focus.isPaging with
  | true =>
      have nearly := wellFormed.nearlyFormed isPaging
      obtain ⟨residence, ledger, swap, frames, untracks, taken, agrees, frees,
        removes⟩ := nearly.exists_removes aligned isPresent
      rw [Action.runIf_of_pos rfl]
      refine Action.meets_bind (meets_untrack untracks taken agrees)
        fun _ middle becomes => ?_
      have freesHere := frees
      rw [show (pager state).frames = (pager middle).frames by
        rw [becomes.parts]] at freesHere
      refine (meets_freeEntry true (nearly.served.of_stays becomes.stays)
        freesHere).mono (fun _ after freed => ?_) fun _ _ isFailed =>
          isFailed
      have whole := becomes.trans freed
      rw [becomes.parts] at whole
      exact nearly.drops untracks taken agrees frees removes whole
  | false =>
      have isValid :=
        wellFormed.isFormed.isValid_of_isPresent isPaging isPresent
      obtain ⟨contents, lent⟩ :=
        wellFormed.housed.houses.framed page isValid
      obtain ⟨frames, released, _⟩ := FramePool.release_of_contents? lent
      rw [Action.runIf_of_neg Bool.false_ne_true, pure_bind]
      refine (meets_freeEntry true wellFormed.housed.served
        (by rw [Bool.true_and, if_pos isValid]; exact released)).mono_done
        fun _ after freed => ?_
      exact wellFormed.drops isPaging aligned isPresent released freed

end AddressSpace

end DemandPaging
