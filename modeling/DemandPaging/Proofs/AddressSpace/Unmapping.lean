import DemandPaging.AddressSpace.Growth
import DemandPaging.Proofs.AddressSpace.Ready
import DemandPaging.Proofs.Pager.Growth

/-!
# Taking pages away

A page that is taken away leaves nothing behind: neither a place in the ledger
nor a slot nor a frame.  A run of pages goes page by page, and nothing in this
can fail where all pages of the run are there.
-/

namespace DemandPaging

namespace AddressSpace

open Pager (Terms)

variable {state middle after : Hosted AddressSpace}
  {terms : Terms} {time : Nat} {page start stop : Nat} {entry : Entry}
  {residence : Residence} {relation : Pager → Pager → Prop}
  {failed : PagingError → Hosted AddressSpace → Prop}

/-- The space is in order, and its parts stand in a relation to what they were
in `origin`. -/
structure Left (origin : Hosted AddressSpace)
    (relation : Pager → Pager → Prop) (terms : Terms) (time : Nat)
    (state : Hosted AddressSpace) : Prop where
  ready : Ready terms time none state
  changes : Changes origin relation state

/-- User code sees pages from `start` up to `stop`. -/
def AreThere (state : Hosted AddressSpace) (start stop : Nat) : Prop :=
  ∀ address, start ≤ address → address < stop →
    ((pager state).logicalPage? address).isSome = true

/-- A tracked page is no longer tracked, and its slot is given back. -/
theorem meets_untrack {fatal : Fatal → Prop} {ledger : Ledger}
    {swap : SwapSpace}
    (untracks : (pager state).Untracks page residence ledger swap)
    (taken : residence.isFree = false)
    (isValid : entry.isValid = residence.isResident) :
    ((untrack page entry).run state).Meets fatal
      (fun _ => Becomes state { pager state with ledger, swap }) failed := by
  obtain ⟨handle, old, found, place, same, released⟩ := untracks.place
  have looked : (look AddressSpace.ledger).run state =
      .done (pager state).ledger state := rfl
  have held : (pager state).ledger.get handle = .ok old :=
    Ledger.get_eq_ok_iff.mpr place
  have agrees : (if entry.isValid then old.isResident else old.isSwapped) =
      true := by
    rw [Tracked.isResident, Tracked.isSwapped, same, isValid]
    cases residence with
    | free => cases taken
    | resident _ => rfl
    | swapped _ _ => rfl
  rw [untrack, Action.run_bind_of_done looked, found,
    Action.run_bind_of_done (Action.run_orCrash_some _ _ _),
    Action.liftM_eq_ofExcept, held,
    Action.run_bind_of_done (Action.run_ofExcept_ok _ _),
    Action.run_bind_of_done
      (by rw [Action.run_crashUnless, if_pos agrees])]
  refine Action.meets_bind (meets_stepLedger released) ?_
  rintro _ untracked ⟨rfl, becomes⟩
  rw [same]
  cases slots : residence.slot? with
  | none =>
      rw [untracks.noSlot slots]
      exact becomes
  | some slot =>
      have success : (pager untracked).swap.release slot = .ok swap := by
        rw [becomes.parts]
        exact untracks.slot slot slots
      refine (meets_releaseSlot success).mono_done fun _ after releases => ?_
      have whole := becomes.trans releases
      rw [becomes.parts] at whole
      exact whole

/-- A page that is there passes all the checks that are made before it is taken
away. -/
theorem run_unmapPage_of_isPresent (freeing : Bool)
    (inside : page < addressLimit)
    (isPresent : ((pager state).entryAt page).isPresent = true)
    (exclusive : ((pager state).entryAt page).isValid = true →
      ((pager state).entryAt page).isPagedOut = false)
    (readable : ((pager state).entryAt page).isValid = true →
      ((pager state).entryAt page).flags.read = true)
    (backed : state.focus.isPaging = false →
      ((pager state).entryAt page).isPagedOut = false) :
    (unmapPage freeing page).run state = (do
      Action.runIf state.focus.isPaging
        (untrack page ((pager state).entryAt page))
      Action.runIf (freeing && ((pager state).entryAt page).isValid)
        (releaseFrame ((pager state).entryAt page).address)
      updateEntry page fun _ => Entry.empty : SpaceAction Unit).run state := by
  have found : state.focus.table.get? page =
      some ((pager state).entryAt page) :=
    PageTable.get?_of_isPresent isPresent
  have single : (!(((pager state).entryAt page).isValid &&
      ((pager state).entryAt page).isPagedOut)) = true :=
    Entry.not_both exclusive
  have leaf : (!((pager state).entryAt page).isValid ||
      ((pager state).entryAt page).isLeaf) = true := by
    cases isValid : ((pager state).entryAt page).isValid with
    | false => rfl
    | true => exact Entry.isLeaf_of_read (readable isValid)
  have held : (state.focus.isPaging ||
      !((pager state).entryAt page).isPagedOut) = true := by
    cases isPaging : state.focus.isPaging with
    | true => rfl
    | false =>
        rw [backed isPaging]
        rfl
  rw [unmapPage, Action.run_bind_of_done (run_lookup_of_lt inside), found,
    Action.run_bind_of_done (Action.run_orCrash_some _ _ _),
    Action.run_bind_of_done (by rw [Action.run_crashUnless, if_pos isPresent]),
    Action.run_bind_of_done (by rw [Action.run_crashUnless, if_pos single]),
    Action.run_bind_of_done (by rw [Action.run_crashUnless, if_pos leaf]),
    Action.run_bind_of_done (show (look isPaging).run state =
      .done state.focus.isPaging state from rfl),
    Action.run_bind_of_done (by rw [Action.run_crashUnless, if_pos held])]

/-- What is left to do once a page is not tracked any more: give its frame
back and clear its entry. -/
theorem meets_clearEntry {fatal : Fatal → Prop} {ledger : Ledger}
    {swap : SwapSpace} (ready : Ready terms time none state)
    (becomes : Becomes state { pager state with ledger, swap } middle)
    (forgets : (pager state).Forgets { pager state with
      table := (pager state).table.update page fun _ => Entry.empty
      ledger, swap } page)
    (count : ledger.residentCount ≤ (pager state).ledger.residentCount)
    (clock : ledger.generation = (pager state).ledger.generation)
    (held : (pager state).entryAt page = entry) :
    (Action.run (do
      Action.runIf (true && entry.isValid) (releaseFrame entry.address)
      updateEntry page fun _ => Entry.empty) middle).Meets fatal
      (fun _ => Left state (fun before after =>
        before.Clears after page (page + pageSize)) terms time) failed := by
  have sound := ready.sound
  have settled := ready.parts.forgets forgets
    (fun _ _ impossible => nomatch impossible) count clock
  have served := ready.served.of_stays becomes.stays
  cases isValid : entry.isValid with
  | false =>
      rw [Action.runIf_of_neg (by simp), pure_bind]
      refine (meets_updateEntry _).mono_done fun _ after updates => ?_
      have whole := becomes.trans updates
      rw [becomes.parts] at whole
      rw [← held] at isValid
      exact ⟨ready.becomes whole settled,
        .of_becomes whole (forgets.clears_of_not_isValid sound isValid)⟩
  | true =>
      rw [← held] at isValid
      obtain ⟨frames, released, heldBy, clears⟩ := forgets.release sound
        (fun _ _ impossible => nomatch impossible) isValid
      rw [Action.runIf_of_pos (by simp)]
      have releases : (pager middle).frames.release entry.address =
          .ok frames := by
        rw [becomes.parts, ← held]
        exact released
      refine Action.meets_bind (meets_changeFrames served releases)
        fun _ freed frees => ?_
      · refine (meets_updateEntry _).mono_done fun _ after updates => ?_
        have toFreed := becomes.trans frees
        rw [becomes.parts] at toFreed
        have whole := toFreed.trans updates
        rw [toFreed.parts] at whole
        exact ⟨ready.becomes whole (settled.withFrames heldBy),
          .of_becomes whole clears⟩

/-- A page that passed the checks is not tracked any more and taken away. -/
theorem meets_forgetPage {fatal : Fatal → Prop}
    (ready : Ready terms time none state)
    (aligned : Address.pageBase page = page)
    (held : (pager state).entryAt page = entry)
    (isPresent : entry.isPresent = true) :
    (Action.run (do
      Action.runIf (pager state).isPaging (untrack page entry)
      Action.runIf (true && entry.isValid) (releaseFrame entry.address)
      updateEntry page fun _ => Entry.empty) state).Meets fatal
      (fun _ => Left state (fun before after =>
        before.Clears after page (page + pageSize)) terms time) failed := by
  have sound := ready.sound
  rw [← held] at isPresent
  by_cases isPaging : (pager state).isPaging = true
  · obtain ⟨residence, known⟩ :=
      sound.residence_of_isPresent isPaging aligned isPresent
    have agrees := (sound.tracked _ _ known).2.2.2.1
    rw [held] at agrees
    obtain ⟨ledger, swap, untracks, forgets, count, clock⟩ :=
      Pager.forgets_of_tracked sound.ledger sound.swap aligned isPresent
        (fun slot swapped => (sound.claimed slot).mpr ⟨page, swapped⟩) known
    rw [Action.runIf_of_pos isPaging]
    refine Action.meets_bind (meets_untrack untracks
      (sound.ledger.address_of_residenceOf? known).1 agrees)
      fun _ untracked becomes => ?_
    exact meets_clearEntry ready becomes forgets count clock held
  · have untracked : (pager state).residenceOf? page = none := by
      cases known : (pager state).residenceOf? page with
      | none => rfl
      | some residence =>
          exact absurd (sound.tracked _ _ known).1 isPaging
    rw [Action.runIf_of_neg isPaging, pure_bind]
    exact meets_clearEntry ready ⟨.refl state, rfl⟩
      (Pager.forgets_of_untracked sound.ledger sound.swap aligned isPresent
        untracked) (Nat.le_refl _) rfl held

/-- A page that is there is taken away. -/
theorem meets_unmapPage (ready : Ready terms time none state)
    (aligned : Address.pageBase page = page)
    (isThere : terms.IsLax ∨
      ((pager state).entryAt page).isPresent = true) :
    ((unmapPage true page).run state).Meets terms.fatal
      (fun _ => Left state (fun before after =>
        before.Clears after page (page + pageSize)) terms time) failed := by
  have sound := ready.sound
  rw [unmapPage]
  by_cases inside : page < addressLimit
  swap
  · rcases isThere with lax | isPresent
    · rw [Action.run_bind_of_fatal
        (run_lookup_of_le (Nat.le_of_not_lt inside))]
      exact lax _
    · exact absurd (sound.page_lt page isPresent) inside
  rw [Action.run_bind_of_done (run_lookup_of_lt inside)]
  cases found : state.focus.table.get? page with
  | none =>
      rcases isThere with lax | isPresent
      · exact lax _
      · have held := PageTable.get?_of_isPresent isPresent
        change state.focus.table.get? page = _ at held
        cases found.symm.trans held
  | some entry =>
      have held : (pager state).entryAt page = entry :=
        PageTable.entryAt_of_get? found
      rw [Action.run_bind_of_done (Action.run_orCrash_some _ _ _)]
      refine Action.meets_crashUnless_bind (fun absent => ?_)
        fun isPresent => ?_
      · rcases isThere with lax | isPresent
        · exact lax _
        · exact absurd (held ▸ isPresent) absent
      refine Action.meets_crashUnless_bind (fun both => ?_)
        fun notBoth => ?_
      · refine ready.parts.excuse fun strict => both ?_
        exact Entry.not_both (held ▸ (strict.entries page).exclusive)
      refine Action.meets_crashUnless_bind (fun notLeaf => ?_) fun _ => ?_
      · refine ready.parts.excuse fun strict => notLeaf ?_
        have isRead := (strict.entries page).readable
        rw [held] at isRead
        rw [Entry.isLeaf_of_read (isRead isPresent), Bool.or_true]
      have looked : (look isPaging).run state =
          .done (pager state).isPaging state := rfl
      rw [Action.run_bind_of_done looked]
      refine Action.meets_crashUnless_bind (fun pagedOut => ?_) fun _ => ?_
      · exfalso
        apply pagedOut
        cases isPagedOut : entry.isPagedOut with
        | false => exact Bool.or_true _
        | true =>
            have notValid : entry.isValid = false := by
              rw [isPagedOut, Bool.and_true] at notBoth
              exact (Bool.not_eq_true' _).mp notBoth
            rw [← held] at isPagedOut notValid
            have isPaging := sound.isPaging_of_isPagedOut isPagedOut notValid
            change ((pager state).isPaging || !true) = true
            rw [isPaging]
            rfl
      exact meets_forgetPage ready aligned held isPresent

/-- A run of pages that are there is taken away. -/
theorem meets_unmapRun (ready : Ready terms time none state)
    (aligned : Address.pageBase page = page) (count : Nat)
    (areThere : terms.IsLax ∨
      AreThere state page (page + count * pageSize)) :
    ((unmapRun true page count).run state).Meets terms.fatal
      (fun _ => Left state (fun before after =>
        before.Clears after page (page + count * pageSize)) terms time)
      failed := by
  induction count generalizing state page with
  | zero =>
      have isEmpty : page + 0 * pageSize ≤ page := by omega
      exact ⟨ready, .refl state, .of_keeps (.refl _) isEmpty⟩
  | succ count ih =>
      have next := Address.pageBase_next aligned
      change (Action.run (do
        unmapPage true page
        unmapRun true (page + pageSize) count) state).Meets _ _ _
      refine Action.meets_bind (meets_unmapPage ready aligned
        (areThere.imp_right fun areThere => ?_)) ?_
      · rw [← ready.sound.isSome_logicalPage?]
        exact areThere page (Nat.le_refl _) (by simp only [pageSize]; omega)
      rintro _ middle ⟨readyMiddle, first⟩
      refine (ih readyMiddle next (areThere.imp_right ?_)).mono_done
        fun _ after rest => ⟨rest.ready, ?_⟩
      · intro areThere address low high
        rw [first.parts.logicalPage?, if_neg (by omega)]
        refine areThere address (by omega) ?_
        rw [Nat.succ_mul]
        omega
      · have whole : Changes state (fun before after =>
            before.Clears after page (page + pageSize + count * pageSize))
            after :=
          first.trans rest.changes fun first rest =>
            first.trans rest (Nat.le_add_right _ _) (Nat.le_add_right _ _)
        rw [Nat.succ_mul, Nat.add_comm (count * pageSize), ← Nat.add_assoc]
        exact whole

theorem meets_unmap (ready : Ready terms time none state)
    (aligned : Address.isPageAligned start = true) {count : Nat}
    (whole : start + count * pageSize = stop)
    (areThere : terms.IsLax ∨ AreThere state start stop) :
    ((unmap start count true).run state).Meets terms.fatal
      (fun _ => Left state (fun before after =>
        before.Clears after start stop) terms time) failed := by
  subst whole
  rw [unmap, Action.run_bind_of_done
    (by rw [Action.run_crashUnless, if_pos aligned])]
  exact meets_unmapRun ready (Address.pageBase_eq_self_iff.mpr aligned) count
    areThere

theorem roundUp_of_bounded {size : Nat}
    (bounded : terms.IsLax ∨ size ≤ addressLimit) :
    Word.roundUp size = .ok (Address.pageCeil size) ∨
      Word.roundUp size = .error .overflow ∧ terms.fatal .overflow := by
  rcases Nat.lt_or_ge (size + pageSize) Word.limit with fits | large
  · exact .inl (Word.roundUp_of_lt fits)
  · refine .inr ⟨Word.roundUp_of_le large, ?_⟩
    rcases bounded with lax | bounded
    · exact lax .overflow
    · simp only [addressLimit, pageSize, Word.limit] at *
      omega

/-- Memory that shrinks loses the pages beyond its new end. -/
theorem meets_shrink (ready : Ready terms time none state) {old new : Nat}
    (bounded : terms.IsLax ∨ old ≤ addressLimit)
    (areThere : terms.IsLax ∨
      AreThere state (Address.pageCeil new) (Address.pageCeil old)) :
    ((shrink old new).run state).Meets terms.fatal
      (fun size after => size = min old new ∧
        Left state (fun before after => before.Clears after
          (Address.pageCeil new) (Address.pageCeil old)) terms time after)
      failed := by
  have unchanged : Address.pageCeil old ≤ Address.pageCeil new →
      Left state (fun before after => before.Clears after
        (Address.pageCeil new) (Address.pageCeil old)) terms time state :=
    fun le => ⟨ready, .refl state, .of_keeps (.refl _) le⟩
  rcases Nat.lt_or_ge new old with isLarger | isSmall
  · have le : new ≤ old := Nat.le_of_lt isLarger
    have oldRounds := roundUp_of_bounded bounded
    have newRounds := roundUp_of_bounded
      (bounded.imp_right (Nat.le_trans le))
    have size := (Nat.min_eq_right le).symm
    have whole : Address.pageCeil new +
        (Address.pageCeil old - Address.pageCeil new) / pageSize * pageSize =
          Address.pageCeil old := by
      have mono := Address.pageCeil_mono le
      simp only [Address.pageCeil, pageSize] at *
      omega
    rcases newRounds with newRounds | ⟨newRounds, ends⟩
    · rcases oldRounds with oldRounds | ⟨oldRounds, ends⟩
      · rw [shrink, if_neg (Nat.not_le_of_lt isLarger),
          Action.liftM_eq_ofExcept, Action.liftM_eq_ofExcept, newRounds,
          oldRounds, Action.run_bind_of_done (Action.run_ofExcept_ok _ _),
          Action.run_bind_of_done (Action.run_ofExcept_ok _ _)]
        exact Action.meets_bind (Action.meets_runIf (fun _ =>
          meets_unmap ready (Address.isPageAligned_pageCeil new) whole areThere)
          fun stays => unchanged (Nat.le_of_not_lt stays))
          fun _ _ left => ⟨size, left⟩
      · rw [shrink, if_neg (Nat.not_le_of_lt isLarger),
          Action.liftM_eq_ofExcept, Action.liftM_eq_ofExcept, newRounds,
          oldRounds, Action.run_bind_of_done (Action.run_ofExcept_ok _ _),
          Action.run_bind_of_fatal (Action.run_ofExcept_error _ _)]
        exact ends
    · rw [shrink, if_neg (Nat.not_le_of_lt isLarger),
        Action.liftM_eq_ofExcept, newRounds,
        Action.run_bind_of_fatal (Action.run_ofExcept_error _ _)]
      exact ends
  · rw [shrink, if_pos isSmall]
    exact ⟨(Nat.min_eq_left isSmall).symm,
      unchanged (Address.pageCeil_mono isSmall)⟩

end AddressSpace

end DemandPaging
