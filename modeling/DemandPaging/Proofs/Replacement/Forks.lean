import DemandPaging.Proofs.AddressSpace.Coherence
import DemandPaging.Proofs.Replacement.Growth

/-!
# The moves of forks

A child of a parent that is not under paging admits the pages one after the
other, each with the mark that it has in the parent.  A child that takes the
places of its parent takes the marks too.
-/

namespace DemandPaging

theorem Outcome.meets_true {State Result : Type}
    (outcome : Outcome State Result) :
    outcome.Meets (fun _ => True) (fun _ _ => True) fun _ _ => True := by
  cases outcome <;> trivial

namespace AddressSpace

open Fork
open Books (Move Admits Each pagesFrom)

variable {Result : Type} {state middle after : Hosted (Fork AddressSpace)}
  {page : Nat} {entry : Entry}

/-- The policies of parent and child have the same books as before. -/
structure Steady (before after : Hosted (Fork AddressSpace)) : Prop where
  parent : SameBooks (parentOf before) (parentOf after)
  child : SameBooks (childOf before) (childOf after)

theorem Steady.trans (first : Steady state middle)
    (second : Steady middle after) : Steady state after :=
  ⟨first.parent.trans second.parent, first.child.trans second.child⟩

theorem steady_inParent {action : SpaceAction Result} (idle : IsIdle action) :
    ((inParent action).run state).Meets (fun _ => True)
      (fun _ => Steady state) fun _ _ => True :=
  Action.meets_zoom_iff.mpr ((idle (parentOf state)).mono
    (fun _ _ same => ⟨same, ⟨rfl, rfl, rfl⟩⟩) fun _ _ _ => trivial)

/-- What happens in the child does not show in the parent's books. -/
theorem inChild_of_meets {action : SpaceAction Result}
    {done : Result → Hosted AddressSpace → Prop}
    {failed : PagingError → Hosted AddressSpace → Prop}
    (meets : (action.run (childOf state)).Meets (fun _ => True) done failed) :
    ((inChild action).run state).Meets (fun _ => True)
      (fun result after => SameBooks (parentOf state) (parentOf after) ∧
        done result (childOf after)) fun _ _ => True :=
  (meets_inChild meets).mono
    (fun _ after holds => ⟨by
      rw [parentOf, parentOf, holds.1]
      exact ⟨rfl, rfl, rfl⟩, holds.2⟩)
    fun _ _ _ => trivial

theorem steady_inChild {action : SpaceAction Result} (idle : IsIdle action) :
    ((inChild action).run state).Meets (fun _ => True)
      (fun _ => Steady state) fun _ _ => True :=
  (inChild_of_meets (idle (childOf state))).mono
    (fun _ _ same => ⟨same.1, same.2⟩) fun _ _ _ => trivial

theorem run_inParent_lookup (state : Hosted (Fork AddressSpace)) (page : Nat) :
    ((inParent (lookup page)).run state).Meets (fun _ => True)
      (fun found after => found = state.focus.parent.table.get? page ∧
        after = state) fun _ _ => True := by
  by_cases inside : page < addressLimit
  · rw [run_inParent_of_done (run_lookup_of_lt inside)]
    exact ⟨rfl, rfl⟩
  · refine Action.meets_zoom_iff.mpr ?_
    rw [run_lookup_of_le (Nat.le_of_not_lt inside)]
    trivial

/-- Once its entry has passed the checks, a page is copied as the parent's kind
asks for. -/
theorem meets_copyPage_of_entry
    {done : Unit → Hosted (Fork AddressSpace) → Prop}
    (copies : ∀ entry : Entry,
      (booksOf (parentOf state)).isMarked page = entry.flags.accessed →
        ((if state.focus.parent.isPaging then copyTracked page entry
          else enrollPage page entry none).run state).Meets (fun _ => True)
          done fun _ _ => True) :
    ((copyPage page).run state).Meets (fun _ => True) done
      fun _ _ => True := by
  rw [copyPage]
  refine Action.meets_bind (run_inParent_lookup state page) ?_
  rintro _ _ ⟨rfl, rfl⟩
  rename_i state
  cases found : state.focus.parent.table.get? page with
  | none => trivial
  | some entry =>
      have paging : (inParent (look AddressSpace.isPaging)).run state =
          .done state.focus.parent.isPaging state :=
        run_inParent_of_done (run_look _)
      rw [Action.run_bind_of_done (Action.run_orCrash_some _ _ _)]
      refine Action.meets_crashUnless_bind (fun _ => trivial) fun _ => ?_
      refine Action.meets_crashUnless_bind (fun _ => trivial) fun _ => ?_
      rw [Action.run_bind_of_done paging]
      exact copies entry (Books.isMarked_of found)

theorem steady_readParent (page : Nat) (entry : Entry) :
    ((readParent page entry none).run state).Meets (fun _ => True)
      (fun _ => Steady state) fun _ _ => True := by
  rw [readParent]
  split
  · trivial
  · exact Action.meets_bind (steady_inParent (isQuiet_readFrame _).isIdle)
      fun _ _ steady => steady

/-- The page is copied, and the child admits it. -/
theorem enrolls_copyPage (notPaging : state.focus.parent.isPaging = false)
    (isPaging : state.focus.child.isPaging = true)
    (kept : (booksOf (childOf state)).IsKept)
    (aligned : Address.pageBase page = page)
    (untracked : state.focus.child.ledger.find? page = none) :
    ((copyPage page).run state).Meets (fun _ => True)
      (fun _ after => SameBooks (parentOf state) (parentOf after) ∧
        ∃ moves, Admits ((booksOf (parentOf state)).isMarked page) page moves ∧
          Follows (childOf state) moves (childOf after)) fun _ _ => True := by
  refine meets_copyPage_of_entry fun entry marks => ?_
  rw [marks, notPaging, if_neg Bool.false_ne_true, enrollPage]
  refine Action.meets_bind (steady_inChild isIdle_takeFrame)
    fun frame taken steadyTaken => ?_
  refine Action.meets_bind (Action.meets_onFailure
    (steady_readParent page entry) fun _ _ _ => Outcome.meets_true _)
      fun contents read steadyRead => ?_
  have steady := steadyTaken.trans steadyRead
  have installs : Leads (childOf read) (do
      writeFrame frame contents
      install page frame
        { entry.flags with pagedOut := false, valid := true })
      (Admits entry.flags.accessed page) Books.Balks := by
    refine .after_quiet (isQuiet_writeFrame _ _) fun _ written same => ?_
    have toWritten := steady.child.trans same
    refine leads_install (toWritten.isPaging.trans isPaging)
      (toWritten.books ▸ kept) aligned ?_
    rw [toWritten.ledger]
    exact untracked
  refine (inChild_of_meets installs).mono ?_ fun _ _ _ => trivial
  rintro _ after ⟨sameParent, moves, admits, follows⟩
  exact ⟨steady.parent.trans sameParent, moves, admits,
    steady.child.follows_trans follows⟩

theorem enrolls_copyRun (count : Nat)
    (notPaging : state.focus.parent.isPaging = false)
    (isPaging : state.focus.child.isPaging = true)
    (kept : (booksOf (childOf state)).IsKept)
    (aligned : Address.pageBase page = page)
    (untracked : ∀ other ∈ pagesFrom page count,
      state.focus.child.ledger.find? other = none) :
    ((copyRun page count).run state).Meets (fun _ => True)
      (fun _ after => SameBooks (parentOf state) (parentOf after) ∧
        ∃ moves, Each (fun page =>
            Admits ((booksOf (parentOf state)).isMarked page) page)
              (pagesFrom page count) moves ∧
          Follows (childOf state) moves (childOf after)) fun _ _ => True := by
  induction count generalizing state page with
  | zero => exact ⟨.refl _, [], rfl, (SameBooks.refl _).follows⟩
  | succ count ih =>
      have next := Address.pageBase_next aligned
      rw [copyRun]
      refine Action.meets_bind (Action.meets_onFailure (enrolls_copyPage
        notPaging isPaging kept aligned (untracked page (.head _)))
          fun _ _ _ => Outcome.meets_true _) ?_
      rintro _ middle ⟨same, moves, admits, follows⟩
      refine (ih (same.isPaging.trans notPaging)
        (follows.isPaging.trans isPaging) (follows.steps.isKept kept) next
          ?_).mono ?_ fun _ _ _ => trivial
      · exact untracked_behind admits follows untracked
      · rintro _ after ⟨sameMore, more, rest, followsMore⟩
        rw [same.books] at rest
        exact ⟨same.trans sameMore, moves ++ more,
          ⟨moves, more, admits, rest, rfl⟩, follows.trans followsMore⟩

/-- A child of a parent that is not under paging admits the pages in order. -/
theorem enrolls_forkCopy (size : Nat)
    (notPaging : state.focus.parent.isPaging = false)
    (isPaging : state.focus.child.isPaging = true)
    (kept : (booksOf (childOf state)).IsKept)
    (untracked : ∀ page, state.focus.child.ledger.find? page = none) :
    ((forkCopy size).run state).Meets (fun _ => True)
      (fun _ after => ∃ moves, Each (fun page =>
          Admits ((booksOf (parentOf state)).isMarked page) page)
            (pagesFrom 0 ((size + (pageSize - 1)) / pageSize)) moves ∧
        Follows (childOf state) moves (childOf after)) fun _ _ => True := by
  have single : bothPaging state.focus = false := by
    rw [bothPaging, notPaging, Bool.false_and]
  rw [forkCopy, Action.run_bind_of_done (Action.run_read _ _), single]
  refine Action.meets_crashUnless_bind (fun _ => trivial) fun _ => ?_
  refine Action.meets_bind (enrolls_copyRun _ notPaging isPaging kept rfl
    fun page _ => untracked page) ?_
  rintro _ copied ⟨_, moves, each, follows⟩
  exact ⟨moves, each, follows⟩

/-- The mark of a page is another, whatever becomes of the ledger. -/
structure Remarks (before : Hosted AddressSpace) (page : Nat) (isMarked : Bool)
    (after : Hosted AddressSpace) : Prop where
  isPaging : after.focus.isPaging = before.focus.isPaging
  marks : (booksOf after).isMarked =
    ((booksOf before).mark page isMarked).isMarked

theorem SameBooks.remarks {before middle after : Hosted AddressSpace}
    {isMarked : Bool} (same : SameBooks before middle)
    (remarks : Remarks middle page isMarked after) :
    Remarks before page isMarked after where
  isPaging := remarks.isPaging.trans same.isPaging
  marks := same.books ▸ remarks.marks

theorem remarks_markPagedOut (state : Hosted AddressSpace) (page : Nat)
    (flags : Flags) :
    ((markPagedOut page flags).run state).Meets (fun _ => True)
      (fun _ => Remarks state page flags.accessed) fun _ _ => True := by
  have walks : ((onTable (Action.step fun table => table.walk page true)).run
      state).Meets (fun _ => True) (fun found after => SameBooks state after ∧
        (found ≠ none → after.focus.table.get? page ≠ none))
        fun _ _ => False := by
    refine Action.meets_zoom_iff.mpr ?_
    by_cases inside : page < addressLimit
    · rcases state.focus.table.walk_of_lt inside with
        ⟨walked, _⟩ | ⟨table, walked, found, entries, _⟩
      · rw [Action.run_step_of_ok walked]
        exact ⟨⟨rfl, rfl, rfl⟩, fun some => absurd rfl some⟩
      · rw [Action.run_step_of_ok walked]
        refine ⟨⟨rfl, rfl, ?_⟩, fun _ => ?_⟩
        · simp only [booksOf, Books.of, entries]
        · rw [found]
          exact Option.some_ne_none _
    · rw [Action.run_step_of_error (PageTable.walk_of_le
        (Nat.le_of_not_lt inside) true)]
      trivial
  rw [markPagedOut]
  refine Action.meets_bind walks.of_sure ?_
  rintro found walked ⟨same, isThere⟩
  cases found with
  | none => trivial
  | some _ =>
      refine Action.meets_bind_of (fun _ after => after = walked) rfl ?_
      rintro _ _ rfl
      rename_i walked
      cases held : walked.focus.table.get? page with
      | none => exact absurd held (isThere (Option.some_ne_none _))
      | some entry =>
          refine same.remarks ⟨rfl, ?_⟩
          have updates : walked.focus.table.update page
              (fun _ => Entry.point 0 flags) =
                walked.focus.table.write page (Entry.point 0 flags) := by
            rw [PageTable.update, held]
          have written : Books.of (walked.focus.table.update page
              fun _ => Entry.point 0 flags) walked.focus.ledger =
                (booksOf walked).mark page flags.accessed := by
            rw [updates]
            exact Books.of_write held _
          exact congrArg Books.isMarked written

theorem remarks_receiveSlot (state : Hosted AddressSpace) (page slot : Nat)
    (contents : List UInt8) (flags : Flags) :
    ((receiveSlot page slot contents flags).run state).Meets (fun _ => True)
      (fun _ => Remarks state page flags.accessed) fun _ _ => True := by
  rw [receiveSlot]
  refine Action.meets_bind ((isQuiet_onSlots (Action.sure_change _) state).mono_failed
    fun _ _ _ => trivial) fun _ claimed same => ?_
  refine Action.meets_bind (Action.meets_onFailure
    ((isIdle_onDevice _ claimed).mono (fun _ _ still => still)
      fun _ _ still => still) fun _ _ _ => Outcome.meets_true _)
        fun _ stored still => ?_
  refine Action.meets_onFailure ((remarks_markPagedOut stored page flags).mono_done
    fun _ _ remarks => (same.trans still).remarks remarks) fun _ _ _ => Outcome.meets_true _

/-- A page in swap is copied with its mark. -/
theorem remarks_copySlot (page slot : Nat) (flags : Flags) :
    ((copySlot page slot flags).run state).Meets (fun _ => True)
      (fun _ after => SameBooks (parentOf state) (parentOf after) ∧
        Remarks (childOf state) page flags.accessed (childOf after))
      fun _ _ => True := by
  rw [copySlot, loadFromParent]
  refine Action.meets_bind (steady_inParent (isIdle_onDevice _))
    fun contents loaded steady => ?_
  refine (inChild_of_meets (remarks_receiveSlot (childOf loaded) page slot
    contents flags)).mono (fun _ after received => ?_) fun _ _ _ => trivial
  exact ⟨steady.parent.trans received.1, steady.child.remarks received.2⟩

/-- A page in memory is copied with its mark. -/
theorem remarks_copyFrame (aligned : Address.pageBase page = page)
    (source : Nat) (flags : Flags) :
    ((copyFrame page source flags).run state).Meets (fun _ => True)
      (fun _ after => SameBooks (parentOf state) (parentOf after) ∧
        Remarks (childOf state) page flags.accessed (childOf after))
      fun _ _ => True := by
  rw [copyFrame]
  refine Action.meets_bind (steady_inChild isIdle_takeFrame)
    fun frame taken steadyTaken => ?_
  refine Action.meets_bind (steady_inParent (isQuiet_readFrame _).isIdle)
    fun contents read steadyRead => ?_
  have steady := steadyTaken.trans steadyRead
  have places : ((do
      writeFrame frame contents.toList
      place page frame flags : SpaceAction Unit).run (childOf read)).Meets
        (fun _ => True)
        (fun _ => Remarks (childOf read) page flags.accessed)
        fun _ _ => True := by
    refine Action.meets_bind ((isQuiet_writeFrame _ _ _).mono_failed
      fun _ _ _ => trivial) fun _ written same => ?_
    exact (marks_place aligned frame flags written).mono
      (fun _ _ marks => same.remarks
        ⟨marks.isPaging, congrArg Books.isMarked marks.books⟩)
      fun _ _ _ => trivial
  refine (inChild_of_meets places).mono (fun _ after placed => ?_)
    fun _ _ _ => trivial
  exact ⟨steady.parent.trans placed.1, steady.child.remarks placed.2⟩

theorem remarks_adoptPage (aligned : Address.pageBase page = page)
    (entry : Entry) (handle : Nat) (tracked : Tracked) :
    ((adoptPage page entry handle tracked).run state).Meets (fun _ => True)
      (fun _ after => SameBooks (parentOf state) (parentOf after) ∧
        Remarks (childOf state) page entry.flags.accessed (childOf after))
      fun _ _ => True := by
  have adopts : ∀ copied : Hosted (Fork AddressSpace),
      SameBooks (parentOf state) (parentOf copied) ∧
        Remarks (childOf state) page entry.flags.accessed (childOf copied) →
      ((inChild (onLedger (Action.change fun ledger =>
        ledger.adopt handle tracked))).run copied).Meets (fun _ => True)
        (fun _ after => SameBooks (parentOf state) (parentOf after) ∧
          Remarks (childOf state) page entry.flags.accessed (childOf after))
        fun _ _ => True := by
    rintro copied ⟨same, remarks⟩
    refine (inChild_of_meets (computed_changeLedger _)).mono ?_
      fun _ _ _ => trivial
    rintro _ after ⟨still, ledger, _, adopted⟩
    rw [adopted]
    exact ⟨same.trans still, remarks.isPaging, remarks.marks⟩
  rw [adoptPage]
  cases entry.isPagedOut with
  | true =>
      rw [if_pos rfl]
      cases tracked.residence.slot? with
      | none => trivial
      | some slot =>
          rw [Action.run_bind_of_done (Action.run_orCrash_some _ _ _)]
          exact Action.meets_bind (remarks_copySlot page slot entry.flags)
            fun _ copied remarks => adopts copied remarks
  | false =>
      rw [if_neg Bool.false_ne_true]
      exact Action.meets_bind (remarks_copyFrame aligned _ entry.flags)
        fun _ copied remarks => adopts copied remarks

/-- A page that is copied with its place gets the mark that it has in the
parent. -/
theorem remarks_copyPage (both : bothPaging state.focus = true)
    (aligned : Address.pageBase page = page) :
    ((copyPage page).run state).Meets (fun _ => True)
      (fun _ after => SameBooks (parentOf state) (parentOf after) ∧
        Remarks (childOf state) page
          ((booksOf (parentOf state)).isMarked page) (childOf after))
      fun _ _ => True := by
  obtain ⟨parentPaging, childPaging⟩ := Bool.and_eq_true_iff.mp both
  refine meets_copyPage_of_entry fun entry marks => ?_
  rw [marks, parentPaging, if_pos rfl, copyTracked,
    Action.run_bind_of_done (Action.run_read _ _)]
  cases state.focus.parent.ledger.find? page with
  | none => trivial
  | some handle =>
      rw [Action.run_bind_of_done (Action.run_orCrash_some _ _ _),
        Action.liftM_eq_ofExcept]
      cases state.focus.parent.ledger.get handle with
      | error cause => trivial
      | ok tracked =>
          rw [Action.run_bind_of_done (Action.run_ofExcept_ok _ _),
            childPaging, if_pos rfl]
          exact remarks_adoptPage aligned entry handle tracked

theorem isMarked_pageBase (state : Hosted AddressSpace) (address : Nat) :
    (booksOf state).isMarked (Address.pageBase address) =
      (booksOf state).isMarked address :=
  congrArg (fun entry : Entry => entry.flags.accessed)
    (PageTable.entryAt_pageBase _ address)

theorem remarks_copyRun (count : Nat) (both : bothPaging state.focus = true)
    (aligned : Address.pageBase page = page)
    (marked : ∀ address < page, (booksOf (childOf state)).isMarked address =
      (booksOf (parentOf state)).isMarked address) :
    ((copyRun page count).run state).Meets (fun _ => True)
      (fun _ after => SameBooks (parentOf state) (parentOf after) ∧
        ∀ address < page + count * pageSize,
          (booksOf (childOf after)).isMarked address =
            (booksOf (parentOf state)).isMarked address) fun _ _ => True := by
  induction count generalizing state page with
  | zero =>
      refine ⟨.refl _, fun address below => marked address ?_⟩
      omega
  | succ count ih =>
      have next := Address.pageBase_next aligned
      have further := Address.add_succ_mul_pageSize page count
      rw [copyRun, further]
      refine Action.meets_bind (Action.meets_onFailure
        (remarks_copyPage both aligned) fun _ _ _ => Outcome.meets_true _) ?_
      rintro _ middle ⟨same, remarks⟩
      have stillBoth : bothPaging middle.focus = true :=
        (congrArg₂ (· && ·) same.isPaging remarks.isPaging).trans both
      refine (ih stillBoth next fun address below => ?_).mono ?_
        fun _ _ _ => trivial
      · rw [remarks.marks, Books.isMarked_mark, same.books, aligned]
        split
        · rename_i here
          rw [← here, isMarked_pageBase]
        · rename_i elsewhere
          refine marked address ?_
          simp only [Address.pageBase, pageSize] at *
          omega
      · rintro _ after ⟨sameMore, copied⟩
        rw [same.books] at copied
        exact ⟨same.trans sameMore, copied⟩

/-- Where both are under paging the child has the marks of the parent. -/
theorem marks_forkCopy (size : Nat) (both : bothPaging state.focus = true) :
    ((forkCopy size).run state).Meets (fun _ => True)
      (fun _ after => ∀ address < Address.pageCeil size,
        (booksOf (childOf after)).isMarked address =
          (booksOf (parentOf state)).isMarked address) fun _ _ => True := by
  rw [forkCopy, Action.run_bind_of_done (Action.run_read _ _)]
  refine Action.meets_crashUnless_bind (fun _ => trivial) fun _ => ?_
  refine Action.meets_bind (remarks_copyRun _ both rfl
    fun address below => absurd below (Nat.not_lt_zero address)) ?_
  rintro _ copied ⟨_, marked⟩
  rw [Nat.zero_add] at marked
  have looked : (inParent (look fun space => space.ledger.generation)).run
      copied = .done copied.focus.parent.ledger.generation copied :=
    run_inParent_of_done rfl
  rw [Action.runIf_of_pos both, Action.run_bind_of_done looked]
  exact marked

end AddressSpace

end DemandPaging
