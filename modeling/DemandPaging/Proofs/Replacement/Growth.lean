import DemandPaging.Proofs.AddressSpace.Growth
import DemandPaging.Proofs.Replacement.Residency

/-!
# The moves of growing and shrinking

Pages are admitted one after the other where memory grows and forgotten where
it shrinks.  If one of them cannot be admitted, those before it are forgotten
again.
-/

namespace DemandPaging

namespace Books

variable {moves more : List Move} {page start : Nat}

/-- The parts that make up some moves, one for each page. -/
def Each (part : Nat → List Move → Prop) : List Nat → List Move → Prop
  | [], moves => moves = []
  | page :: pages, moves => ∃ first rest,
      part page first ∧ Each part pages rest ∧ moves = first ++ rest

/-- A page is admitted, with the mark that it is mapped with. -/
def Admits (isMarked : Bool) (page : Nat) (moves : List Move) : Prop :=
  Brings (.enlist page isMarked) moves

/-- The addresses of consecutive pages. -/
def pagesFrom (page count : Nat) : List Nat :=
  List.range' page count pageSize

/-- Of the pages that follow `already` pages from `start` on, fewer than `count`
could be admitted, and then all of them are forgotten. -/
def Retreats (isMarked : Bool) (start already count : Nat)
    (moves : List Move) : Prop :=
  ∃ fewer < count, ∃ added balked,
    Each (Admits isMarked) (pagesFrom (start + already * pageSize) fewer)
      added ∧
    Balks balked ∧
    moves = added ++ balked ++
      (pagesFrom start (already + fewer)).map .forget

theorem mem_pagesFrom {count : Nat} :
    page ∈ pagesFrom start count ↔
      ∃ index < count, page = start + pageSize * index :=
  List.mem_range'

theorem Retreats.cons {isMarked : Bool} {start already count : Nat}
    (admits : Admits isMarked (start + already * pageSize) moves)
    (retreats : Retreats isMarked start (already + 1) count more) :
    Retreats isMarked start already (count + 1) (moves ++ more) := by
  obtain ⟨fewer, less, added, balked, each, balks, rfl⟩ := retreats
  have next : start + (already + 1) * pageSize =
      start + already * pageSize + pageSize := by
    rw [Nat.succ_mul, Nat.add_assoc]
  rw [next] at each
  refine ⟨fewer + 1, Nat.succ_lt_succ less, moves ++ added, balked,
    ⟨moves, added, admits, each, rfl⟩, balks, ?_⟩
  rw [Nat.add_right_comm already 1 fewer, Nat.add_assoc already fewer 1]
  simp only [List.append_assoc]

theorem Admits.find? {policy : Policy} {before after : Books} {isMarked : Bool}
    {other : Nat} (admits : Admits isMarked page moves)
    (steps : Steps policy moves before after) (elsewhere : page ≠ other) :
    after.ledger.find? other = before.ledger.find? other :=
  steps.find? (Brings.keeps admits elsewhere)

end Books

namespace AddressSpace

open Books (Move Step Brings Balks Admits Each Retreats pagesFrom)

variable {Result : Type} {state middle after : Hosted AddressSpace}
  {page frame : Nat} {flags : Flags} {moves : List Move}

/-- The pages behind one that came are not tracked yet. -/
theorem untracked_behind {count : Nat} {isMarked : Bool}
    (admits : Admits isMarked page moves) (follows : Follows state moves middle)
    (untracked : ∀ other ∈ pagesFrom page (count + 1),
      state.focus.ledger.find? other = none) :
    ∀ other ∈ pagesFrom (page + pageSize) count,
      middle.focus.ledger.find? other = none := by
  intro other member
  obtain ⟨index, _, rfl⟩ := Books.mem_pagesFrom.mp member
  have elsewhere : page ≠ page + pageSize + pageSize * index := by
    simp only [pageSize]
    omega
  exact (admits.find? follows.steps elsewhere).trans
    (untracked _ (.tail _ member))

theorem Leads.after_roundUp {next : Nat → SpaceAction Result} {size : Nat}
    {done failed : List Move → Prop}
    (rest : Leads state (next (Address.pageCeil size)) done failed) :
    Leads state (liftM (Word.roundUp size) >>= next) done failed :=
  Action.meets_roundUp_bind (fun _ => trivial) fun _ => rest

theorem isQuiet_releaseHeld (held : Option Nat) :
    IsQuiet (match held with
      | some slot => releaseSlot slot
      | none => return () : SpaceAction Unit) := by
  cases held with
  | some slot => exact isQuiet_releaseSlot slot
  | none => exact isQuiet_pure ()

/-- A page is not tracked any more. -/
theorem releases_untrack {entry : Entry} :
    ((untrack page entry).run state).Meets (fun _ => True)
      (fun _ after => ∃ handle tracked ledger,
        state.focus.ledger.find? page = some handle ∧
        state.focus.ledger.release handle = .ok (tracked, ledger) ∧
        SameBooks { state with focus := { state.focus with ledger } } after)
      fun _ _ => False := by
  rw [untrack, Action.run_bind_of_done (run_look _)]
  cases found : state.focus.ledger.find? page with
  | none => trivial
  | some handle =>
      rw [Action.run_bind_of_done (Action.run_orCrash_some _ _ _)]
      refine (isQuiet_ofExcept _).meets_bind fun tracked got sameGot => ?_
      refine (isQuiet_crashUnless _ _).meets_bind
        fun _ checked sameChecked => ?_
      have same := sameGot.trans sameChecked
      refine Action.meets_bind (computed_stepLedger _).of_sure ?_
      rintro released _ ⟨ledger, releases, rfl⟩
      rw [same.ledger] at releases
      refine (isQuiet_releaseHeld released.residence.slot? _).mono_done
        fun _ after last => ?_
      exact ⟨handle, released, ledger, rfl, releases,
        (same.withLedger ledger).trans last⟩

theorem makes_forget (isPaging : state.focus.isPaging = true) (freeing : Bool) :
    ((unmapPage freeing page).run state).Meets (fun _ => True)
      (fun _ => Makes state (.forget page)) fun _ _ => False := by
  rw [unmapPage]
  refine (isQuiet_lookup _).meets_bind fun _ looked sameLooked => ?_
  refine (isQuiet_orCrash _ _).meets_bind fun entry seen sameSeen => ?_
  refine (isQuiet_crashUnless _ _).meets_bind fun _ present samePresent => ?_
  refine (isQuiet_crashUnless _ _).meets_bind fun _ single sameSingle => ?_
  refine (isQuiet_crashUnless _ _).meets_bind fun _ leaf sameLeaf => ?_
  have same := (((sameLooked.trans sameSeen).trans samePresent).trans
    sameSingle).trans sameLeaf
  rw [Action.run_bind_of_done (run_look _), same.isPaging, isPaging]
  refine (isQuiet_crashUnless _ _).meets_bind fun _ known sameKnown => ?_
  have before := same.trans sameKnown
  rw [Action.runIf_of_pos rfl]
  refine Action.meets_bind releases_untrack.of_sure ?_
  rintro _ untracked ⟨handle, tracked, ledger, found, releases, sameUntracked⟩
  refine (isQuiet_runIf _ (isQuiet_releaseFrame _)).meets_bind
    fun _ freed sameFreed => ?_
  have toFreed := ((before.withLedger ledger).trans sameUntracked).trans
    sameFreed
  rw [before.ledger] at found releases
  refine ⟨toFreed.config, toFreed.isPaging, ?_⟩
  have step : Step state.focus.config.policy (.forget page) (booksOf state) _ :=
    .forget found releases
  have cleared : booksOf { freed with focus := { freed.focus with
      table := freed.focus.table.update page fun _ => Entry.empty } } =
        (booksOf freed).mark page false := Books.of_clear
  rw [toFreed.books] at cleared
  exact cleared ▸ step

theorem leads_unmapRun (freeing : Bool) (page count : Nat)
    (isPaging : state.focus.isPaging = true) :
    Leads state (unmapRun freeing page count)
      (fun moves => moves = (pagesFrom page count).map .forget)
      fun _ => False := by
  induction count generalizing state page with
  | zero => exact .of_quiet (isQuiet_pure ()) rfl
  | succ count ih =>
      rw [unmapRun]
      refine .bind (Makes.leads (makes_forget isPaging freeing))
        (fun _ moves middle forgets follows => ?_) fun _ isFailed => isFailed
      refine (ih (page + pageSize) (follows.isPaging.trans isPaging)).mono
        (fun more rest => ?_) fun _ isFailed => isFailed
      rw [forgets, rest]
      rfl

/-- The pages beyond the new size are forgotten. -/
theorem leads_shrink (isPaging : state.focus.isPaging = true) (old new : Nat) :
    Leads state (shrink old new)
      (fun moves => moves = (pagesFrom (Address.pageCeil new)
        ((Address.pageCeil old - Address.pageCeil new) / pageSize)).map .forget)
      fun _ => False := by
  rw [shrink]
  split
  · rename_i le
    rw [Nat.sub_eq_zero_of_le (Address.pageCeil_mono le)]
    exact .of_quiet (isQuiet_pure _) rfl
  · refine .after_roundUp (.after_roundUp ?_)
    refine Leads.then_quiet ?_ fun _ => isQuiet_pure new
    by_cases beyond : Address.pageCeil new < Address.pageCeil old
    · rw [Action.runIf_of_pos beyond, unmap]
      refine .after_quiet (isQuiet_crashUnless _ _) fun _ checked same => ?_
      exact leads_unmapRun true _ _ (same.isPaging.trans isPaging)
    · rw [Action.runIf_of_neg beyond,
        Nat.sub_eq_zero_of_le (Nat.le_of_not_lt beyond)]
      exact .of_quiet (isQuiet_pure ()) rfl

/-- Only the mark of a page is another. -/
structure Marks (before : Hosted AddressSpace) (page : Nat) (isMarked : Bool)
    (after : Hosted AddressSpace) : Prop where
  config : after.focus.config = before.focus.config
  isPaging : after.focus.isPaging = before.focus.isPaging
  books : booksOf after = (booksOf before).mark page isMarked

theorem Marks.ledger {isMarked : Bool} (marks : Marks state page isMarked after) :
    after.focus.ledger = state.focus.ledger :=
  congrArg Books.ledger marks.books

/-- To mark a page that is not tracked is no move. -/
theorem Marks.follows {isMarked : Bool} (marks : Marks state page isMarked after)
    (aligned : Address.pageBase page = page)
    (untracked : state.focus.ledger.find? page = none) :
    Follows state [] after where
  config := marks.config
  isPaging := marks.isPaging
  steps := by
    rw [marks.books]
    exact .wipe isMarked aligned untracked .nil

/-- A page is mapped with the mark that its flags have, or not at all. -/
theorem marks_map (aligned : Address.pageBase page = page) (frame : Nat)
    (flags : Flags) (table : PageTable) (ledger : Ledger) :
    ((PageTable.map page frame pageSize flags).run table).Meets (fun _ => True)
      (fun _ after => Books.of after ledger =
        (Books.of table ledger).mark page flags.accessed)
      fun _ after => after = table := by
  by_cases inside : page < addressLimit
  · have fits : page + pageSize < Word.limit := by
      simp only [addressLimit, pageSize, Word.limit] at *
      omega
    rw [PageTable.run_map_pageSize_eq aligned fits, PageTable.mapPage]
    rcases table.walk_of_lt inside with
      ⟨walked, _⟩ | ⟨after, walked, found, entries, _⟩
    · rw [Action.run_bind_of_done (Action.run_step_of_ok walked)]
      exact rfl
    · rw [Action.run_bind_of_done (Action.run_step_of_ok walked)]
      dsimp only
      split
      · trivial
      · have same : Books.of after ledger = Books.of table ledger := by
          simp only [Books.of, entries]
        exact same ▸ Books.of_write found _
  · obtain ⟨cause, refused⟩ := PageTable.run_map_pageSize_of_le table frame
      flags aligned (Nat.le_of_not_lt inside)
    rw [refused]
    trivial

theorem marks_place (aligned : Address.pageBase page = page) (frame : Nat)
    (flags : Flags) (state : Hosted AddressSpace) :
    ((place page frame flags).run state).Meets (fun _ => True)
      (fun _ => Marks state page flags.accessed)
      fun _ => SameBooks state := by
  have maps : ((onTable (PageTable.map page frame pageSize flags)).run
      state).Meets (fun _ => True) (fun _ => Marks state page flags.accessed)
        fun _ => SameBooks state := by
    refine Action.meets_zoom_iff.mpr ((marks_map aligned frame flags
      state.focus.table state.focus.ledger).mono
        (fun _ table marked => ⟨rfl, rfl, marked⟩) ?_)
    rintro _ _ rfl
    exact .refl state
  exact Action.meets_onFailure maps fun _ middle same =>
    (isQuiet_releaseFrame frame middle).mono (fun _ _ last => same.trans last)
      fun _ _ isFailed => isFailed.elim

theorem marks_withdraw (page frame : Nat) (state : Hosted AddressSpace) :
    ((withdraw page frame).run state).Meets (fun _ => True)
      (fun _ => Marks state page false) fun _ _ => False := by
  rw [withdraw]
  refine Action.meets_bind_of (fun _ => Marks state page false)
    ⟨rfl, rfl, Books.of_clear⟩ fun _ cleared marks => ?_
  exact (isQuiet_releaseFrame frame cleared).mono_done
    fun _ _ last => ⟨last.config.trans marks.config,
      last.isPaging.trans marks.isPaging, last.books.trans marks.books⟩

/-- A new page is mapped and admitted, or what was mapped is withdrawn. -/
theorem leads_install (isPaging : state.focus.isPaging = true)
    (kept : (booksOf state).IsKept) (aligned : Address.pageBase page = page)
    (untracked : state.focus.ledger.find? page = none) :
    Leads state (install page frame flags) (Admits flags.accessed page)
      Balks := by
  rw [install]
  refine Action.meets_bind ((marks_place aligned frame flags state).mono_failed
    fun _ _ same => ⟨[], .inl rfl, same.follows⟩) fun _ mapped marks => ?_
  have still : mapped.focus.ledger.find? page = none := by
    rw [marks.ledger]
    exact untracked
  have follows := marks.follows aligned untracked
  have keptMapped : (booksOf mapped).IsKept := marks.books ▸ kept.mark _
  have isMarked : (booksOf mapped).isMarked page = flags.accessed := by
    rw [marks.books, Books.isMarked_mark, if_pos rfl]
  have enrolls := leads_enroll (marks.isPaging.trans isPaging) keptMapped
    aligned still
  rw [isMarked] at enrolls
  refine Action.meets_onFailure (Outcome.Meets.mono enrolls ?_
    fun _ _ followed => followed) ?_
  · rintro _ after ⟨moves, brings, admits⟩
    exact ⟨moves, brings, follows.trans admits⟩
  · rintro _ middle ⟨moves, balks, refuses⟩
    have absent : middle.focus.ledger.find? page = none :=
      (refuses.steps.find? balks.keeps).trans still
    refine (marks_withdraw page frame middle).mono (fun _ _ withdrawn => ?_)
      fun _ _ isFailed => isFailed.elim
    exact ⟨moves, balks, follows.trans
      (List.append_nil moves ▸ refuses.trans (withdrawn.follows aligned absent))⟩

theorem leads_addPage (isPaging : state.focus.isPaging = true)
    (kept : (booksOf state).IsKept) (aligned : Address.pageBase page = page)
    (untracked : state.focus.ledger.find? page = none) (contents : List UInt8) :
    Leads state (addPage page contents flags) (Admits flags.accessed page)
      Balks := by
  rw [addPage]
  refine .after_idle isIdle_takeFrame (.inl rfl) fun frame taken sameTaken => ?_
  refine .after_quiet (isQuiet_onFrames (Action.sure_change _))
    fun _ cleared sameCleared => ?_
  refine .after_quiet (isQuiet_writeFrame _ _) fun _ written sameWritten => ?_
  have same := (sameTaken.trans sameCleared).trans sameWritten
  refine leads_install (same.isPaging.trans isPaging) (same.books ▸ kept)
    aligned ?_
  rw [same.ledger]
  exact untracked

theorem leads_addRun {old already : Nat} (count : Nat)
    (isPaging : state.focus.isPaging = true) (kept : (booksOf state).IsKept)
    (begins : page = Address.pageCeil old + already * pageSize)
    (untracked : ∀ other ∈ pagesFrom page count,
      state.focus.ledger.find? other = none) :
    Leads state (addRun flags old page count)
      (Each (Admits flags.accessed) (pagesFrom page count))
      (Retreats flags.accessed (Address.pageCeil old) already count) := by
  induction count generalizing state page already with
  | zero => exact .of_quiet (isQuiet_pure ()) rfl
  | succ count ih =>
      have aligned : Address.pageBase page = page := by
        simp only [begins, Address.pageBase, Address.pageCeil, pageSize]
        omega
      have added : (Address.pageCeil page - Address.pageCeil old) / pageSize =
          already := by
        simp only [begins, Address.pageCeil, pageSize]
        omega
      have next : page + pageSize =
          Address.pageCeil old + (already + 1) * pageSize := by
        rw [begins, Nat.succ_mul, Nat.add_assoc]
      have first : Leads state (addPage page [] flags)
          (Admits flags.accessed page) Balks :=
        leads_addPage isPaging kept aligned (untracked page (.head _)) []
      -- Where the page cannot be added those before it are forgotten.
      have tried : Leads state ((addPage page [] flags).onFailure fun _ => do
            let _ ← shrink page old)
          (Admits flags.accessed page)
          (fun moves => ∃ balked, Balks balked ∧ moves = balked ++
            (pagesFrom (Address.pageCeil old) already).map .forget) := by
        refine Action.meets_onFailure first ?_
        rintro _ middle ⟨moves, balks, follows⟩
        refine Action.meets_bind (Outcome.Meets.mono (leads_shrink
          (follows.isPaging.trans isPaging) page old)
            (fun _ _ shrunk => shrunk) fun _ _ balked =>
              balked.elim fun _ isFailed => isFailed.1.elim) ?_
        rintro _ after ⟨_, rfl, shrinks⟩
        rw [added] at shrinks
        exact ⟨_, ⟨moves, balks, rfl⟩, follows.trans shrinks⟩
      rw [addRun]
      refine tried.bind (fun _ moves middle admits follows => ?_) ?_
      · refine (ih (follows.isPaging.trans isPaging)
          (follows.steps.isKept kept) next ?_).mono ?_ ?_
        · exact untracked_behind admits follows untracked
        · exact fun more rest => ⟨moves, more, admits, rest, rfl⟩
        · intro more retreats
          exact Retreats.cons (begins ▸ admits) retreats
      · rintro _ ⟨balked, balks, rfl⟩
        exact ⟨0, Nat.succ_pos count, [], balked, rfl, balks, rfl⟩

theorem leads_grow (isPaging : state.focus.isPaging = true)
    (kept : (booksOf state).IsKept) {old new : Nat} (permissions : Flags)
    (untracked : ∀ page, Address.pageCeil old ≤ page →
      state.focus.ledger.find? page = none) :
    Leads state (grow old new permissions)
      (Each (Admits permissions.accessed)
        (pagesFrom (Address.pageCeil old) (grownPages old new)))
      (Retreats permissions.accessed (Address.pageCeil old) 0
        (grownPages old new)) := by
  rw [grow]
  split
  · rename_i less
    have nothing : grownPages old new = 0 := by
      have := Address.le_pageCeil old
      simp only [grownPages, pageSize]
      omega
    rw [nothing]
    exact .of_quiet (isQuiet_pure _) rfl
  · refine .after_roundUp (Leads.then_quiet ?_ fun _ => isQuiet_pure new)
    have marks : (permissions.union { read := true, user := true }).accessed =
        permissions.accessed := by
      simp [Flags.union]
    rw [← marks]
    refine leads_addRun _ isPaging kept (by omega)
      fun page member => untracked _ ?_
    obtain ⟨index, _, rfl⟩ := Books.mem_pagesFrom.mp member
    exact Nat.le_add_right _ _

end AddressSpace

end DemandPaging
