import DemandPaging.Proofs.AddressSpace.ForkPages
import DemandPaging.Proofs.AddressSpace.RequestSteps
import DemandPaging.Proofs.FramePool.Counts

/-!
# Forking

A fork copies all pages up to a size, or it leaves the child as empty as it
was.  The parent is as before in either case (`forkCopy_copies_or_undoes`).
-/

namespace DemandPaging

namespace AddressSpace

open Fork
open Pager (Terms)

variable {origin state after : Hosted (Fork AddressSpace)} {terms : Terms}
  {time page bound : Nat}

theorem Forkable.faithful (forkable : Forkable origin)
    (ready : Ready terms time none (childOf origin)) :
    Faithful origin terms time 0 origin where
  parent := rfl
  left := ⟨ready, ⟨.refl _, .refl _ _⟩⟩
  places := fun _ _ _ _ below => absurd below (Nat.not_lt_zero _)
  unpaged := fun _ address =>
    (Bool.or_eq_false_iff.mp (forkable.vacant.entries address)).2

/-- A run of pages is copied, or all pages that were are taken from the child
again. -/
theorem meets_copyRun (safe : terms.IsLax ∨ Permits origin terms bound)
    (forkable : Forkable origin) (count : Nat)
    (inside : page + count * pageSize ≤ bound)
    (faithful : Faithful origin terms (time + count * pageTicks origin) page
      state)
    (aligned : Address.pageBase page = page) :
    ((copyRun page count).run state).Meets terms.fatal
      (fun _ => Faithful origin terms time (page + count * pageSize))
      (fun _ => Copied origin terms time 0) := by
  induction count generalizing state page with
  | zero =>
      have whole : page + 0 * pageSize = page := by omega
      rw [whole]
      exact faithful.weaken (Nat.le_add_right _ _)
  | succ count ih =>
      have more : time + (count + 1) * pageTicks origin =
          time + count * pageTicks origin + pageTicks origin := by
        rw [Nat.succ_mul, Nat.add_assoc]
      have further := Address.add_succ_mul_pageSize page count
      have next := Address.pageBase_next aligned
      rw [more] at faithful
      rw [further] at inside ⊢
      have below : page < bound := by
        simp only [pageSize] at inside
        omega
      rw [copyRun]
      refine Action.meets_bind (Action.meets_onFailure (meets_copyPage safe
        below forkable faithful aligned) fun _ middle copied => ?_)
        fun _ _ faithful => ih inside faithful next
      have whole : 0 + page / pageSize * pageSize = page := by
        simp only [Address.pageBase, pageSize] at *
        omega
      have areThere : AreThere (childOf middle) 0 page := by
        intro address _ low
        have copies := copied.left.changes.parts
        rw [copies.logicalPage?, if_pos low]
        exact copies.shown address low
      refine (meets_inChild ((meets_unmap copied.left.ready rfl whole
        (.inr areThere)).mono (fun _ _ left => left)
          fun _ _ (impossible : False) => impossible)).mono
            (fun _ after cleared => ?_) fun _ _ isFailed => isFailed.2.elim
      obtain ⟨sameParent, ready, clears⟩ := cleared
      refine ⟨sameParent.trans copied.parent,
        ready.weaken (Nat.le_add_right _ _), ?_⟩
      exact copied.left.changes.trans clears fun copies clears =>
        copies.clears clears forkable.vacant.logicalPage?

/-- The child with the clock of the parent, if both are under paging. -/
def clocked (origin copied : Hosted (Fork AddressSpace)) :
    Hosted (Fork AddressSpace) :=
  if bothPaging origin.focus then
    ⟨{ copied.focus with child := { copied.focus.child with
        ledger := { copied.focus.child.ledger with
          generation := origin.focus.parent.ledger.generation } } },
      copied.host⟩
  else copied

theorem pager_clocked (origin copied : Hosted (Fork AddressSpace)) :
    ∃ generation, pager (childOf (clocked origin copied)) =
      { pager (childOf copied) with
        ledger := { (pager (childOf copied)).ledger with generation } } := by
  rw [clocked]
  split
  · exact ⟨_, rfl⟩
  · exact ⟨_, rfl⟩

/-- The clock of the child does not matter to what was copied. -/
theorem Faithful.clocked {stop : Nat}
    (faithful : Faithful origin terms time stop state) :
    Faithful origin ⟨fun _ => True,
        (pager (childOf (clocked origin state))).ledger.generation⟩ 0 stop
      (clocked origin state) := by
  have ready := faithful.left.ready
  obtain ⟨generation, parts⟩ := pager_clocked origin state
  have relabels := Pager.relabels_of_generation ready.sound.ledger generation
  have becomes : Becomes (childOf state)
      { pager (childOf state) with
        ledger := { (pager (childOf state)).ledger with generation } }
      (childOf (AddressSpace.clocked origin state)) := by
    refine ⟨?_, parts⟩
    rw [AddressSpace.clocked]
    split
    · exact ⟨rfl, rfl, fun _ _ => rfl⟩
    · exact .refl _
  have sameParent : (AddressSpace.clocked origin state).focus.parent =
      state.focus.parent := by
    rw [AddressSpace.clocked]
    split <;> rfl
  have inOrder : (pager (childOf (AddressSpace.clocked origin state))).Ready
      ⟨fun _ => True, (pager (childOf
        (AddressSpace.clocked origin state))).ledger.generation⟩ 0 none := by
    rw [parts]
    exact {
      sound := relabels.sound ready.sound
      ceiling := ready.parts.ceiling
      strict := .inl fun _ => trivial
      time_le := Nat.le_refl _
      overflow := fun _ _ _ => trivial }
  refine ⟨⟨sameParent.trans faithful.parent,
    ⟨ready.served.of_stays becomes.stays, inOrder⟩,
    faithful.left.changes.becomes becomes fun copies =>
      copies.keeps_trans (relabels.keeps_of_table rfl)⟩,
    fun both => ?_, fun notPaging => ?_⟩
  · rw [AddressSpace.clocked, if_pos both]
    exact faithful.places both
  · rw [parts]
    exact faithful.unpaged notPaging

/-- A fork copies all pages up to a size, or none. -/
theorem meets_forkCopy (forkable : Forkable origin) (size : Nat)
    (safe : terms.IsLax ∨
      (bothPaging origin.focus = true → sameLimits origin.focus = false →
        terms.fatal .forkLimitsDiffer) ∧
      ((bothPaging origin.focus = true → sameLimits origin.focus = true) →
        Permits origin terms (Address.pageCeil size)))
    (ready : Ready terms
      ((size + (pageSize - 1)) / pageSize * pageTicks origin) none
      (childOf origin)) :
    ((forkCopy size).run origin).Meets terms.fatal
      (fun _ after => ∃ copied,
        Faithful origin terms 0 (Address.pageCeil size) copied ∧
          after = clocked origin copied)
      (fun _ => Copied origin terms 0 0) := by
  have whole : 0 + (size + (pageSize - 1)) / pageSize * pageSize =
      Address.pageCeil size := by
    rw [Nat.zero_add]
    rfl
  have begins : Faithful origin terms
      (0 + (size + (pageSize - 1)) / pageSize * pageTicks origin) 0 origin :=
    forkable.faithful (by rwa [Nat.zero_add])
  rw [forkCopy, Action.run_bind_of_done (Action.run_read _ _)]
  refine Action.meets_crashUnless_bind (fun differ => ?_) fun agree => ?_
  · rw [Bool.not_eq_true, Bool.or_eq_false_iff, Bool.not_eq_false'] at differ
    exact safe.elim (fun lax => lax _) fun permits =>
      permits.1 differ.1 differ.2
  have agrees : bothPaging origin.focus = true →
      sameLimits origin.focus = true := by
    intro both
    rwa [both, Bool.not_true, Bool.false_or] at agree
  have isCopied := meets_copyRun (safe.imp_right fun permits =>
    permits.2 agrees) forkable ((size + (pageSize - 1)) / pageSize)
      (Nat.le_of_eq whole) begins rfl
  rw [whole] at isCopied
  refine Action.meets_bind isCopied fun _ copied faithful => ?_
  rw [Action.run_runIf]
  split
  · rename_i both
    have looked : (inParent (look fun space =>
        space.ledger.generation)).run copied =
          .done origin.focus.parent.ledger.generation copied := by
      rw [← faithful.parent]
      exact run_inParent_of_done rfl
    rw [Action.run_bind_of_done looked]
    refine ⟨copied, faithful, ?_⟩
    rw [clocked, if_pos both]
  · rename_i notBoth
    refine ⟨copied, faithful, ?_⟩
    rw [clocked, if_neg notBoth]

/-- The space has no leaf, tracks no page and holds no slot. -/
structure IsEmpty (space : AddressSpace) : Prop where
  leaves : space.table.leaves = []
  trackedCount : space.ledger.trackedCount = 0
  isClaimed : ∀ slot, space.swap.isClaimed slot = false

theorem isEmpty_small : smallSpace.IsEmpty := by
  refine ⟨rfl, rfl, fun slot => ?_⟩
  change ((Array.replicate 1 false)[slot]?).getD false = false
  rw [Array.getElem?_replicate]
  split <;> rfl

theorem isVacant_iff {space : AddressSpace} {host : Host}
    (consistent : space.ledger.IsConsistent) :
    (pager ⟨space, host⟩).IsVacant ↔ space.IsEmpty := by
  have unknown : (∀ page, (pager ⟨space, host⟩).residenceOf? page = none) ↔
      space.ledger.trackedCount = 0 := by
    rw [consistent.trackedCount_eq_zero_iff]
    exact forall_congr' fun page => consistent.residenceOf?_eq_none_iff
  have absent : (∀ address, ((pager ⟨space, host⟩).entryAt address).isPresent =
      false) ↔ space.table.leaves = [] := by
    rw [List.eq_nil_iff_forall_not_mem]
    constructor
    · rintro entries ⟨page, entry⟩ member
      obtain ⟨_, rfl, isPresent⟩ := PageTable.mem_leaves_iff_entryAt.mp member
      cases (entries page).symm.trans isPresent
    · intro noLeaf address
      rw [← Pager.entryAt_pageBase, ← Bool.not_eq_true]
      intro isPresent
      exact noLeaf _ (PageTable.mem_leaves_iff_entryAt.mpr
        ⟨Address.pageBase_pageBase address, rfl, isPresent⟩)
  constructor
  · intro vacant
    exact ⟨absent.mp vacant.entries, unknown.mp vacant.places, vacant.slots⟩
  · intro isEmpty
    exact ⟨absent.mpr isEmpty.leaves, unknown.mpr isEmpty.trackedCount,
      isEmpty.isClaimed⟩

theorem IsFormed.isCopyable {space : Hosted AddressSpace}
    (formed : IsFormed space) : (pager space).IsCopyable where
  ledger := formed.ledger
  resident isPaging page aligned isValid _ := by
    have tracks := formed.agrees.tracks isPaging
    exact (isResident_iff formed.ledger).mp
      ((tracks.isMapped_iff page).mp
        ((isMapped_iff space page).mpr ⟨aligned, isValid⟩))
  framed address isValid := by
    have leaf : (Address.pageBase address, (pager space).entryAt address) ∈
        space.focus.table.leaves :=
      PageTable.mem_leaves_iff_entryAt.mpr ⟨Address.pageBase_pageBase address,
        (pager space).entryAt_pageBase address,
        Pager.isPresent_of_isValid isValid⟩
    obtain ⟨contents, held⟩ := formed.framed _ _ leaf isValid
    exact ⟨contents, FramePool.contents?_eq_some_iff.mpr held⟩
  aligned isPaging page residence known := by
    have tracks := formed.agrees.tracks isPaging
    obtain rfl | ⟨slot, rfl⟩ := formed.ledger.resident_or_swapped known
    · exact ((isMapped_iff space page).mp ((tracks.isMapped_iff page).mpr
        ((isResident_iff formed.ledger).mpr known))).1
    · exact ((isPagedOut_iff space page).mp
        ((tracks.isPagedOut_iff page).mpr
          ⟨slot, (holdsSlot_iff formed.ledger).mpr known⟩)).1

theorem WellFormed.isCopyable {space : Hosted AddressSpace}
    (wellFormed : WellFormed space) : (pager space).IsCopyable :=
  wellFormed.isFormed.isCopyable

/-- Under paging a page that user code sees has a place in the ledger. -/
theorem WellFormed.exists_place {space : Hosted AddressSpace}
    (wellFormed : WellFormed space) (isPaging : space.focus.isPaging = true)
    (aligned : Address.pageBase page = page)
    (isThere : ((pager space).logicalPage? page).isSome = true) :
    ∃ handle tracked, space.focus.ledger.find? page = some handle ∧
      space.focus.ledger.places[handle]? = some tracked := by
  have tracks := wellFormed.agrees.tracks isPaging
  have isKnown : ∃ residence, (pager space).residenceOf? page =
      some residence := by
    by_cases isValid : ((pager space).entryAt page).isValid = true
    · exact ⟨_, (isResident_iff wellFormed.ledger).mp
        ((tracks.isMapped_iff page).mp
          ((isMapped_iff space page).mpr ⟨aligned, isValid⟩))⟩
    · by_cases isPagedOut : ((pager space).entryAt page).isPagedOut = true
      · obtain ⟨slot, holds⟩ := (tracks.isPagedOut_iff page).mp
          ((isPagedOut_iff space page).mpr ⟨aligned, isPagedOut⟩)
        exact ⟨_, (holdsSlot_iff wellFormed.ledger).mp holds⟩
      · rw [Pager.logicalPage?, aligned, Pager.bytesAt?, if_neg isValid,
          if_neg isPagedOut] at isThere
        cases isThere
  obtain ⟨residence, known⟩ := isKnown
  obtain ⟨handle, tracked, found, place, _⟩ :=
    wellFormed.ledger.find?_of_residenceOf? known
  exact ⟨handle, tracked, found, place⟩

/-- The child has the pages of the parent up to `size` and nothing else, and
its parts agree.  Under paging each page is where the parent has it. -/
structure IsCopy (size : Nat) (before after : Hosted (Fork AddressSpace)) :
    Prop where
  spans : FlatMemory.Spans (logicalPage? (childOf after)) size
  logicalPage? : ∀ address, address < Address.pageCeil size →
    AddressSpace.logicalPage? (childOf after) address =
      AddressSpace.logicalPage? (parentOf before) address
  agrees : after.focus.child.Agrees
  ledger : after.focus.child.ledger.IsConsistent
  swap : after.focus.child.swap.IsConsistent
  pool : (after.host.pool after.focus.child.pool).IsConsistent
  places : bothPaging before.focus = true → ∀ page,
    Address.isPageAligned page = true → page < Address.pageCeil size →
      ∃ handle tracked,
        before.focus.parent.ledger.find? page = some handle ∧
        before.focus.parent.ledger.places[handle]? = some tracked ∧
        after.focus.child.ledger.find? page = some handle ∧
        after.focus.child.ledger.places[handle]? = some tracked
  generation : bothPaging before.focus = true →
    after.focus.child.ledger.generation =
      before.focus.parent.ledger.generation

/-- The child has nothing, and every pool lends what it lent. -/
structure IsUndone (before after : Hosted (Fork AddressSpace)) : Prop where
  isEmpty : after.focus.child.IsEmpty
  contents? : ∀ number frame,
    (after.host.pool number).contents? frame =
      (before.host.pool number).contents? frame
  lentCount : ∀ number,
    (after.host.pool number).lentCount = (before.host.pool number).lentCount

/-- An empty space is well-formed on any host whose pool is in order. -/
theorem WellFormed.rehost {space : AddressSpace} {host before : Host}
    (wellFormed : WellFormed ⟨space, before⟩) (isEmpty : space.IsEmpty)
    (pool : (host.pool space.pool).IsConsistent)
    (pool_lt : space.pool < host.pools.size)
    (total_le : (host.pool space.pool).total ≤ FramePool.sizeLimit) :
    WellFormed ⟨space, host⟩ :=
  { wellFormed with
    pool, pool_lt, total_le
    framed := fun _ _ member => by
      rw [isEmpty.leaves] at member
      cases member }

theorem forkable_of_wellFormed (parent : WellFormed (parentOf origin))
    (child : WellFormed (childOf origin))
    (isEmpty : origin.focus.child.IsEmpty) : Forkable origin :=
  ⟨parent.pool_lt, parent.isCopyable, (isVacant_iff child.ledger).mpr isEmpty⟩

theorem WellFormed.ready {space : Hosted AddressSpace} {total : Nat}
    (wellFormed : WellFormed space) (isEmpty : space.focus.IsEmpty)
    (le : space.focus.ledger.generation + time ≤ total) :
    Ready ⟨fun _ => True, total⟩ time none space := by
  have vacant : (pager space).IsVacant :=
    (isVacant_iff wellFormed.ledger).mpr isEmpty
  have noResident : space.focus.ledger.residentCount = 0 :=
    (Nat.add_eq_zero_iff.mp isEmpty.trackedCount).1
  refine ⟨wellFormed.pool_lt, ?_⟩
  exact {
    sound := vacant.sound wellFormed.fits wellFormed.ledger wellFormed.swap
      wellFormed.pool
    ceiling := Nat.le_trans (Nat.le_of_eq noResident) (Nat.zero_le _)
    strict := .inl fun _ => trivial
    time_le := le
    overflow := fun _ _ _ => trivial }

/-- The pages of the parent are as they were. -/
theorem Copied.logicalPage?_parent {stop : Nat}
    (copied : Copied origin terms time stop state)
    (parent : WellFormed (parentOf origin))
    (vacant : (pager (childOf origin)).IsVacant) :
    logicalPage? (parentOf state) = logicalPage? (parentOf origin) := by
  have changes : Changes (childOf origin) Pager.Confined (childOf state) :=
    copied.left.changes.mono Pager.Copies.toConfined
  have apart : Apart origin.focus.parent origin.focus.child :=
    fun _ _ second _ isValid => absurd isValid (vacant.not_isValid second)
  rw [parentOf, copied.parent]
  exact logicalPage?_of_heldBy (changes.heldBy copied.left.ready.sound.frames
    parent.pool parent.isCopyable.framed apart)

theorem Faithful.spans {size : Nat}
    (faithful : Faithful origin terms time (Address.pageCeil size) after)
    (vacant : (pager (childOf origin)).IsVacant) :
    FlatMemory.Spans (pager (childOf after)).logicalPage? size := by
  have copies := faithful.left.changes.parts
  intro address
  rw [copies.logicalPage?]
  by_cases below : address < Address.pageCeil size
  · rw [if_pos below]
    exact iff_of_true (copies.shown address below) below
  · rw [if_neg below, vacant.logicalPage?]
    exact iff_of_false Bool.false_ne_true below

theorem Copied.isVacant (copied : Copied origin terms time 0 after)
    (vacant : (pager (childOf origin)).IsVacant) :
    (pager (childOf after)).IsVacant :=
  copied.left.ready.sound.isVacant fun address => by
    rw [copied.left.changes.parts.logicalPage?,
      if_neg (Nat.not_lt_zero address)]
    exact vacant.logicalPage? address

/-- What a fork that was done leaves. -/
theorem Faithful.isCopy {size : Nat}
    (faithful : Faithful origin terms time (Address.pageCeil size) after)
    (generation : bothPaging origin.focus = true →
      after.focus.child.ledger.generation =
        origin.focus.parent.ledger.generation)
    (parent : WellFormed (parentOf origin))
    (vacant : (pager (childOf origin)).IsVacant) :
    IsCopy size origin after := by
  have copies := faithful.left.changes.parts
  have sound := faithful.left.ready.sound
  constructor
  · rw [logicalPage?_eq_pager]
    exact faithful.spans vacant
  · intro address below
    rw [logicalPage?_eq, logicalPage?_eq, copies.logicalPage?, if_pos below]
  · refine agrees_of_sound sound (fun address isValid => ?_)
      faithful.left.ready.parts.ceiling
    cases isPaging : origin.focus.child.isPaging with
    | true =>
        exact sound.exclusive (copies.shape.isPaging.trans isPaging) address
          isValid
    | false => exact faithful.unpaged isPaging address
  · exact sound.ledger
  · exact sound.swap
  · exact sound.frames
  · intro both page isAligned below
    have aligned := Address.pageBase_eq_self_iff.mpr isAligned
    have isPaging := (Bool.and_eq_true_iff.mp both).1
    obtain ⟨handle, tracked, found, place⟩ :=
      parent.exists_place isPaging aligned (copies.shown page below)
    exact ⟨handle, tracked, found, place,
      faithful.places both page handle tracked below found place⟩
  · exact generation

theorem Copied.isUndone (copied : Copied origin terms time 0 after)
    (pool : (origin.host.pool origin.focus.child.pool).IsConsistent)
    (vacant : (pager (childOf origin)).IsVacant) :
    IsUndone origin after := by
  have copies := copied.left.changes.parts
  have sound := copied.left.ready.sound
  have stays := copied.left.changes.stays
  have isVacant := copied.isVacant vacant
  have samePool : after.focus.child.pool = origin.focus.child.pool :=
    stays.pool
  -- No page of the child is in a frame, neither before nor after.
  have lent : ∀ frame,
      (after.host.pool origin.focus.child.pool).contents? frame =
        (origin.host.pool origin.focus.child.pool).contents? frame := by
    intro frame
    refine Option.ext fun contents => ?_
    have same := copies.unowned frame contents
    rw [isVacant.unowned_iff, vacant.unowned_iff] at same
    simp only [pager, childOf, samePool] at same
    exact same
  have elsewhere : ∀ number, number ≠ origin.focus.child.pool →
      after.host.pool number = origin.host.pool number := stays.elsewhere
  refine ⟨(isVacant_iff sound.ledger).mp isVacant, fun number frame => ?_,
    fun number => ?_⟩
  · by_cases own : number = origin.focus.child.pool
    · rw [own, lent]
    · rw [elsewhere number own]
  · by_cases own : number = origin.focus.child.pool
    · have consistent : (after.host.pool after.focus.child.pool).IsConsistent :=
        sound.frames
      rw [samePool] at consistent
      rw [own, consistent.lentCount_eq, pool.lentCount_eq,
        FramePool.lentFrames_congr lent]
    · rw [elsewhere number own]

/-- A fork leaves the parent and its pages as they were.  If it is done, the
child is a copy, and if it fails, the child has nothing and no frame is lost,
wherever frames, tables or transfers failed. -/
theorem forkCopy_copies_or_undoes (parent : WellFormed (parentOf state))
    (child : WellFormed (childOf state))
    (isEmpty : state.focus.child.IsEmpty) (size : Nat) :
    ((forkCopy size).run state).Meets (fun _ => True)
      (fun _ after => after.focus.parent = state.focus.parent ∧
        logicalPage? (parentOf after) = logicalPage? (parentOf state) ∧
        IsCopy size state after)
      (fun _ after => after.focus.parent = state.focus.parent ∧
        logicalPage? (parentOf after) = logicalPage? (parentOf state) ∧
        IsUndone state after) := by
  have forkable := forkable_of_wellFormed parent child isEmpty
  have vacant := forkable.vacant
  refine (meets_forkCopy forkable size (.inl fun _ => trivial)
    (child.ready isEmpty (Nat.le_refl _))).mono
      (fun _ after done => ?_) fun _ after copied => ?_
  · obtain ⟨copied, faithful, rfl⟩ := done
    have faithful := faithful.clocked
    refine ⟨faithful.parent,
      faithful.toCopied.logicalPage?_parent parent vacant,
      faithful.isCopy (fun both => ?_) parent vacant⟩
    rw [clocked, if_pos both]
  · exact ⟨copied.parent, copied.logicalPage?_parent parent vacant,
      copied.isUndone child.pool vacant⟩

theorem forkCopy_copies_or_undoes_of_one_page :
    ∃ state : Hosted (Fork AddressSpace),
      WellFormed (parentOf state) ∧ WellFormed (childOf state) ∧
      state.focus.child.IsEmpty ∧
      ∃ after, (forkCopy pageSize).run state = .done () after ∧
        IsCopy pageSize state after := by
  have evaluated : ((Request.grow pageSize {}).action 0).leadsTo
      (fun grown => grown.focus.pool == 0 &&
        (forkCopy pageSize).leadsTo (fun _ => true)
          ⟨⟨grown.focus, smallSpace⟩, grown.host⟩)
      ⟨smallSpace, smallHost⟩ = true := by
    decide +kernel
  obtain ⟨reply, grown, grows, computed⟩ :=
    Action.exists_of_leadsTo evaluated
  obtain ⟨isFirst, forked⟩ := Bool.and_eq_true_iff.mp computed
  obtain ⟨_, after, forks, _⟩ := Action.exists_of_leadsTo forked
  have admissible : (Request.grow pageSize {}).Admissible
      ⟨smallSpace, smallHost⟩ := ⟨by decide, rfl⟩
  have growing := isNew_small.inOrder.meets_request _ admissible
  rw [grows] at growing
  have parent : WellFormed
      (parentOf ⟨⟨grown.focus, smallSpace⟩, grown.host⟩) :=
    growing.1.wellFormed
  have samePool : smallSpace.pool = grown.focus.pool :=
    (beq_iff_eq.mp isFirst).symm
  have child : WellFormed
      (childOf ⟨⟨grown.focus, smallSpace⟩, grown.host⟩) :=
    isNew_small.inOrder.wellFormed.rehost isEmpty_small
      (samePool ▸ parent.pool) (samePool ▸ parent.pool_lt)
        (samePool ▸ parent.total_le)
  have meets :=
    forkCopy_copies_or_undoes parent child isEmpty_small pageSize
  rw [forks] at meets
  exact ⟨_, parent, child, isEmpty_small, after, forks, meets.2.2⟩

end AddressSpace

end DemandPaging
