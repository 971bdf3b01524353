import DemandPaging.Proofs.AddressSpace.Requests
import DemandPaging.Proofs.Replacement.References

/-!
# The moves of copies

A copy goes over its range run by run and uses the page of each run, which may
have been sent away again by the time the next page is in use.  A copy that is
done used all its pages, or those up to the end of the string that it copied;
one that failed used those before the page that it may not use
(`Request.StopsBehind`).
-/

namespace DemandPaging

namespace Span

variable {address length more : Nat}

theorem first_first_add (le : more ≤ length - first address length) :
    first address (first address length + more) = first address length := by
  unfold first at *
  omega

/-- A range is its part in its first page and the rest. -/
theorem runs_first_add (positive : 0 < length)
    (le : more ≤ length - first address length) :
    runs address (first address length + more) =
      ⟨address, first address length⟩ ::
        runs (address + first address length) more := by
  have firstPos := first_pos address positive
  rw [runs_of_pos (by omega), first_first_add le, Nat.add_sub_cancel_left]

theorem runs_of_le_first (positive : 0 < more)
    (le : more ≤ first address length) : runs address more = [⟨address, more⟩] := by
  have whole : first address more = more := by
    unfold first at *
    omega
  rw [runs_of_pos positive, whole, Nat.sub_self, runs_zero]

end Span

namespace AddressSpace

open Books (Move Each Uses Misses)

variable {state middle after : Hosted AddressSpace} {error : PagingError}

/-- The pages that the runs of a copy are in. -/
def runPages (runs : List Run) : List Nat :=
  runs.map fun run => Address.pageBase run.address

/-- The pages from which a copy takes bytes, or to which it brings them. -/
def copiedPages (address length : Nat) : List Nat :=
  runPages (Span.runs address length)

theorem mem_copiedPages {page address length : Nat} :
    page ∈ copiedPages address length ↔
      ∃ index < length, Address.pageBase (address + index) = page := by
  induction length using Nat.strongRecOn generalizing address with
  | ind length ih =>
      by_cases isEmpty : length = 0
      · subst isEmpty
        simp [copiedPages, runPages]
      have positive : 0 < length := Nat.pos_of_ne_zero isEmpty
      have firstPos := Span.first_pos address positive
      have short := Span.first_le address length
      have inPage := Span.pageOffset_add_first_le address length
      rw [copiedPages, Span.runs_of_pos positive, runPages, List.map_cons,
        List.mem_cons, ← runPages, ← copiedPages, ih _ (by omega)]
      constructor
      · rintro (rfl | ⟨index, less, same⟩)
        · exact ⟨0, positive, rfl⟩
        · refine ⟨Span.first address length + index, by omega, ?_⟩
          rwa [← Nat.add_assoc]
      · rintro ⟨index, less, same⟩
        by_cases isFirst : index < Span.first address length
        · rw [Address.pageBase_add (by omega)] at same
          exact .inl same.symm
        · refine .inr ⟨index - Span.first address length, by omega, ?_⟩
          rwa [Nat.add_assoc, Nat.add_sub_cancel' (Nat.le_of_not_lt isFirst)]

/-- How many bytes runs have together. -/
def bytesIn (runs : List Run) : Nat :=
  (runs.map Run.length).sum

theorem writeRuns_append (runs more : List Run) (bytes : List UInt8) :
    writeRuns (runs ++ more) bytes = writeRuns runs bytes >>= fun _ =>
      writeRuns more (bytes.drop (bytesIn runs)) := by
  induction runs generalizing bytes with
  | nil => rfl
  | cons run runs ih =>
      rw [List.cons_append, writeRuns, writeRuns, bind_assoc]
      congr 1
      funext _
      rw [ih, List.drop_drop]
      rfl

theorem run_userPage_of_writeRun {run : Run} {bytes : List UInt8}
    (ran : (writeRun run bytes).run state = .failed error after) :
    (userPage run.address true).run state = .failed error after := by
  obtain first | ⟨frame, middle, _, rest⟩ :=
    Action.run_bind_eq_failed_iff.mp ran
  · exact first
  · have quiet := (isQuiet_readFrame frame).bind (fun page =>
      isQuiet_writeFrame frame (page.overwrite
        (Address.pageOffset run.address) bytes).toList) middle
    rw [rest] at quiet
    exact quiet.elim

theorem exists_stop_of_writeRuns {runs : List Run} {bytes : List UInt8}
    (ran : (writeRuns runs bytes).run state = .failed error after) :
    ∃ passed stopped rest middle, runs = passed ++ stopped :: rest ∧
      (writeRuns passed bytes).run state = .done () middle ∧
      (userPage stopped.address true).run middle = .failed error after := by
  induction runs generalizing state bytes with
  | nil => cases ran
  | cons run runs ih =>
      obtain first | ⟨_, middle, first, ran⟩ :=
        Action.run_bind_eq_failed_iff.mp ran
      · exact ⟨[], run, runs, state, rfl, rfl, run_userPage_of_writeRun first⟩
      · obtain ⟨passed, stopped, rest, last, rfl, passes, stops⟩ := ih ran
        refine ⟨run :: passed, stopped, rest, last, rfl, ?_, stops⟩
        rw [writeRuns, Action.run_bind_of_done first]
        exact passes

theorem leads_writeRuns (runs : List Run) (bytes : List UInt8) :
    Leads state (writeRuns runs bytes) (Each Uses (runPages runs))
      fun _ => True := by
  induction runs generalizing state bytes with
  | nil => exact .of_quiet (isQuiet_pure ()) rfl
  | cons run runs ih =>
      rw [writeRuns]
      refine (leads_writeRun run _).bind (fun _ moves middle uses follows => ?_)
        fun _ _ => trivial
      exact (ih _).mono (fun more rest => ⟨moves, more, uses, rest, rfl⟩)
        fun _ _ => trivial

end AddressSpace

namespace UserRead

open Books (Move Each Uses)
open AddressSpace (Follows Leads SameBooks bytesIn copiedPages runPages
  userPage)

variable {First Result : Type} {state middle after : Hosted UserRead}
  {error : PagingError}

theorem fillRuns_append (offset : Nat) (runs more : List Run) :
    fillRuns offset (runs ++ more) = fillRuns offset runs >>= fun _ =>
      fillRuns (offset + bytesIn runs) more := by
  induction runs generalizing offset with
  | nil => rfl
  | cons run runs ih =>
      simp only [List.cons_append, fillRuns, bind_assoc, ih, bytesIn,
        List.map_cons, List.sum_cons, Nat.add_assoc]

theorem fillString_append (offset : Nat) (runs more : List Run) :
    fillString offset (runs ++ more) = fillString offset runs >>= fun found =>
      match found with
      | some last => pure (some last)
      | none => fillString (offset + bytesIn runs) more := by
  induction runs generalizing offset with
  | nil => rfl
  | cons run runs ih =>
      simp only [List.cons_append, fillString, bind_assoc]
      congr 1
      funext bytes
      cases bytes.findIdx? (· == 0) with
      | some last => rfl
      | none =>
          simp only [bind_assoc, ih, bytesIn, List.map_cons, List.sum_cons,
            Nat.add_assoc]

theorem run_source_of_failed {action : SpaceAction Result}
    (ran : (inSpace action).run state = .failed error after) :
    action.run (source state) = .failed error (source after) := by
  rw [inSpace, Hosted.within, Action.run_zoom] at ran
  split at ran
  · cases ran
  · rename_i ended
    cases ran
    exact ended
  · cases ran

theorem run_source_of_done {action : SpaceAction Result} {result : Result}
    (ran : (inSpace action).run state = .done result after) :
    action.run (source state) = .done result (source after) := by
  rw [inSpace, Hosted.within, Action.run_zoom] at ran
  split at ran
  · rename_i ended
    cases ran
    exact ended
  · cases ran
  · cases ran

theorem exists_userPage_of_readRun {run : Run} {bytes : List UInt8}
    (ran : (inSpace (AddressSpace.readRun run)).run state =
      .done bytes after) :
    ∃ frame last, (userPage run.address false).run (source state) =
      .done frame last := by
  obtain ⟨frame, last, used, _⟩ :=
    Action.run_bind_eq_done_iff.mp (run_source_of_done ran)
  exact ⟨frame, last, used⟩

/-- A run cannot be read only if its page may not be used. -/
theorem run_userPage_of_readRun {run : Run}
    (ran : (inSpace (AddressSpace.readRun run)).run state =
      .failed error after) :
    (userPage run.address false).run (source state) =
      .failed error (source after) := by
  obtain first | ⟨frame, middle, _, rest⟩ :=
    Action.run_bind_eq_failed_iff.mp (run_source_of_failed ran)
  · exact first
  · have quiet := (AddressSpace.isQuiet_readFrame frame).bind (fun page =>
      AddressSpace.isQuiet_pure
        (page.slice (Address.pageOffset run.address) run.length)) middle
    rw [rest] at quiet
    exact quiet.elim

theorem exists_stop_of_fillRuns {offset : Nat} {runs : List Run}
    (ran : (fillRuns offset runs).run state = .failed error after) :
    ∃ passed stopped rest middle, runs = passed ++ stopped :: rest ∧
      (fillRuns offset passed).run state = .done () middle ∧
      (userPage stopped.address false).run (source middle) =
        .failed error (source after) := by
  induction runs generalizing state offset with
  | nil => cases ran
  | cons run runs ih =>
      obtain first | ⟨bytes, middle, first, ran⟩ :=
        Action.run_bind_eq_failed_iff.mp ran
      · exact ⟨[], run, runs, state, rfl, rfl, run_userPage_of_readRun first⟩
      · rw [Action.run_bind_of_done (run_fill bytes)] at ran
        obtain ⟨passed, stopped, rest, last, rfl, passes, stops⟩ := ih ran
        refine ⟨run :: passed, stopped, rest, last, rfl, ?_, stops⟩
        rw [fillRuns, Action.run_bind_of_done first,
          Action.run_bind_of_done (run_fill bytes)]
        exact passes

theorem exists_stop_of_fillString {offset : Nat} {runs : List Run}
    (ran : (fillString offset runs).run state = .failed error after) :
    ∃ passed stopped rest middle, runs = passed ++ stopped :: rest ∧
      (fillString offset passed).run state = .done none middle ∧
      (userPage stopped.address false).run (source middle) =
        .failed error (source after) := by
  induction runs generalizing state offset with
  | nil => cases ran
  | cons run runs ih =>
      obtain first | ⟨bytes, middle, first, ran⟩ :=
        Action.run_bind_eq_failed_iff.mp ran
      · exact ⟨[], run, runs, state, rfl, rfl, run_userPage_of_readRun first⟩
      · cases ends : bytes.findIdx? (· == 0) with
        | some last =>
            simp only [ends] at ran
            rw [Action.run_bind_of_done (run_fill _)] at ran
            cases ran
        | none =>
            simp only [ends] at ran
            rw [Action.run_bind_of_done (run_fill bytes)] at ran
            obtain ⟨passed, stopped, rest, last, rfl, passes, stops⟩ := ih ran
            refine ⟨run :: passed, stopped, rest, last, rfl, ?_, stops⟩
            rw [fillString, Action.run_bind_of_done first]
            simp only [ends]
            rw [Action.run_bind_of_done (run_fill bytes)]
            exact passes

theorem run_fillRuns_of_fillString {offset : Nat} {runs : List Run}
    (ran : (fillString offset runs).run state = .done none after) :
    (fillRuns offset runs).run state = .done () after := by
  induction runs generalizing state offset with
  | nil =>
      cases ran
      rfl
  | cons run runs ih =>
      obtain ⟨bytes, middle, read, ran⟩ := Action.run_bind_eq_done_iff.mp ran
      rw [fillRuns, Action.run_bind_of_done read]
      cases ends : bytes.findIdx? (· == 0) with
      | some last =>
          simp only [ends] at ran
          cases ran
      | none =>
          simp only [ends] at ran
          exact ih ran

/-- The operation makes moves in the space that the buffer is filled from, as
far as it is done. -/
def Draws (state : Hosted UserRead) (action : ReadAction Result)
    (done : Result → List Move → Prop) : Prop :=
  (action.run state).Meets (fun _ => True)
    (fun result after => ∃ moves, done result moves ∧
      Follows (source state) moves (source after)) fun _ _ => True

theorem Draws.bind {first : ReadAction First}
    {next : First → ReadAction Result} {begun : First → List Move → Prop}
    {done : Result → List Move → Prop} (draws : Draws state first begun)
    (rest : ∀ result moves middle, begun result moves →
      Draws middle (next result) fun last more => done last (moves ++ more)) :
    Draws state (first >>= next) done := by
  refine Action.meets_bind draws ?_
  rintro result middle ⟨moves, isBegun, follows⟩
  refine Outcome.Meets.mono_done (rest result moves middle isBegun) ?_
  rintro last after ⟨more, isDone, followsMore⟩
  exact ⟨moves ++ more, isDone, follows.trans followsMore⟩

theorem Draws.after_fill {offset : Nat} {bytes : List UInt8}
    {next : Unit → ReadAction Result} {done : Result → List Move → Prop}
    (rest : Draws (filled state offset bytes) (next ()) done) :
    Draws state (fill offset bytes >>= next) done := by
  rw [Draws, Action.run_bind_of_done (run_fill bytes)]
  exact rest

theorem draws_pure {result : Result} {done : Result → List Move → Prop}
    (isDone : done result []) : Draws state (pure result) done :=
  ⟨[], isDone, (SameBooks.refl (source state)).follows⟩

theorem length_le_of_readRun {space last : Hosted AddressSpace} {run : Run}
    {bytes : List UInt8}
    (ran : (AddressSpace.readRun run).run space = .done bytes last) :
    bytes.length ≤ run.length := by
  obtain ⟨_, _, _, ran⟩ := Action.run_bind_eq_done_iff.mp ran
  obtain ⟨page, _, _, ran⟩ := Action.run_bind_eq_done_iff.mp ran
  cases ran
  rw [Page.slice, Bytes.length_slice]
  exact Nat.min_le_left _ _

theorem draws_readRun (run : Run) :
    Draws state (inSpace (AddressSpace.readRun run)) fun bytes moves =>
      bytes.length ≤ run.length ∧
        Uses (Address.pageBase run.address) moves := by
  have leads : Leads (source state) _ _ _ := AddressSpace.leads_readRun run
  refine Action.meets_zoom_iff.mpr ?_
  change ((AddressSpace.readRun run).run (source state)).Meets _ _ _
  rw [Leads] at leads
  cases ran : (AddressSpace.readRun run).run (source state) with
  | done bytes space =>
      rw [ran] at leads
      obtain ⟨moves, uses, follows⟩ := leads
      exact ⟨moves, ⟨length_le_of_readRun ran, uses⟩, follows⟩
  | failed _ _ | fatal _ => trivial

theorem draws_fillRuns (offset : Nat) (runs : List Run) :
    Draws state (fillRuns offset runs) fun _ => Each Uses (runPages runs) := by
  induction runs generalizing state offset with
  | nil => exact draws_pure rfl
  | cons run runs ih =>
      rw [fillRuns]
      refine (draws_readRun run).bind fun bytes moves middle read => ?_
      obtain ⟨_, uses⟩ := read
      refine .after_fill ((ih _).mono_done ?_)
      rintro _ after ⟨more, rest, follows⟩
      exact ⟨more, ⟨moves, more, uses, rest, rfl⟩, follows⟩

/-- The pages of a string, with its end, or of the whole range if the string does
not end in it. -/
def StringUses (offset address length : Nat) (found : Option Nat)
    (moves : List Move) : Prop :=
  match found with
  | some last => ∃ count < length, last = offset + count ∧
      Each Uses (copiedPages address (count + 1)) moves
  | none => Each Uses (copiedPages address length) moves

theorem draws_fillString (offset address length : Nat) :
    Draws state (fillString offset (Span.runs address length))
      (StringUses offset address length) := by
  induction length using Nat.strongRecOn
    generalizing state offset address with
  | ind length ih =>
      by_cases isEmpty : length = 0
      · subst isEmpty
        exact draws_pure rfl
      have positive : 0 < length := Nat.pos_of_ne_zero isEmpty
      have firstPos := Span.first_pos address positive
      rw [Span.runs_of_pos positive, fillString]
      refine (draws_readRun _).bind fun bytes moves middle read => ?_
      obtain ⟨isShort, uses⟩ := read
      cases ends : bytes.findIdx? (· == 0) with
      | some last =>
          obtain ⟨inside, _⟩ := List.findIdx?_eq_some_iff_getElem.mp ends
          have inRun : last < Span.first address length :=
            Nat.lt_of_lt_of_le inside isShort
          have short := Span.first_le address length
          refine .after_fill (draws_pure ⟨last, by omega, rfl, ?_⟩)
          rw [copiedPages, Span.runs_of_le_first (Nat.succ_pos last) inRun]
          exact ⟨moves, [], uses, rfl, rfl⟩
      | none =>
          refine .after_fill ((ih _ (by omega) _ _).mono_done ?_)
          rintro found after ⟨more, rest, follows⟩
          refine ⟨more, ?_, follows⟩
          cases found with
          | none =>
              rw [StringUses, copiedPages, Span.runs_of_pos positive]
              exact ⟨moves, more, uses, rest, rfl⟩
          | some last =>
              obtain ⟨count, less, rfl, rest⟩ := rest
              refine ⟨Span.first address length + count, by omega,
                Nat.add_assoc _ _ _, ?_⟩
              rw [copiedPages, Nat.add_assoc,
                Span.runs_first_add positive (by omega)]
              exact ⟨moves, more, uses, rest, rfl⟩

end UserRead

namespace AddressSpace

open Books (Move Each Uses Misses)

variable {state middle after : Hosted AddressSpace} {error : PagingError}
  {passed ahead : List Run}

namespace Request

variable {request : Request}

/-- The runs of a copy, page by page. -/
def runs : Request → List Run
  | copyOut address bytes => Span.runs address bytes.length
  | copyIn address buffer | copyInString address buffer =>
    Span.runs address buffer.size
  | _ => []

/-- Does the request write to user memory? -/
def isWrite : Request → Bool
  | copyOut _ _ => true
  | _ => false

/-- A copy goes over some runs and finds no end of a string there. -/
def Passes (state : Hosted AddressSpace) (runs : List Run)
    (middle : Hosted AddressSpace) : Request → Prop
  | copyOut _ bytes => (writeRuns runs bytes).run state = .done () middle
  | copyIn _ buffer => ∃ filled,
    (UserRead.fillRuns 0 runs).run ⟨⟨state.focus, buffer⟩, state.host⟩ =
      .done () filled ∧ UserRead.source filled = middle
  | copyInString _ buffer => ∃ filled,
    (UserRead.fillString 0 runs).run ⟨⟨state.focus, buffer⟩, state.host⟩ =
      .done none filled ∧ UserRead.source filled = middle
  | _ => False

/-- A copy that failed went over the runs `passed`, and may not use the page of
the next run.  If there is none, it missed the end of a string. -/
def StopsBehind (state : Hosted AddressSpace) (error : PagingError)
    (after : Hosted AddressSpace) (passed ahead : List Run)
    (request : Request) : Prop :=
  request.runs = passed ++ ahead ∧ ∃ middle,
    request.Passes state passed middle ∧
      match ahead with
      | [] => after = middle
      | stopped :: _ =>
        (userPage stopped.address request.isWrite).run middle =
          .failed error after

theorem Passes.unique {other : Hosted AddressSpace}
    (passes : request.Passes state passed middle)
    (also : request.Passes state passed other) : other = middle := by
  cases request with
  | copyOut address bytes =>
      cases passes.symm.trans also
      rfl
  | copyIn address buffer | copyInString address buffer =>
      obtain ⟨_, ran, rfl⟩ := passes
      obtain ⟨_, same, rfl⟩ := also
      cases ran.symm.trans same
      rfl
  | grow _ _ | shrink _ | pageIn _ | resolveFault _ _ | evict | tick
  | touch _ _ | clearUser _ => exact passes.elim

/-- What goes over a run uses its page. -/
theorem Passes.uses {stopped : Run}
    (passes : request.Passes state (passed ++ stopped :: ahead) after) :
    ∃ middle, request.Passes state passed middle ∧ ∃ frame last,
      (userPage stopped.address request.isWrite).run middle =
        .done frame last := by
  cases request with
  | copyOut address bytes =>
      have whole : (writeRuns (passed ++ stopped :: ahead) bytes).run state =
        .done () after := passes
      rw [writeRuns_append] at whole
      obtain ⟨_, middle, begun, rest⟩ := Action.run_bind_eq_done_iff.mp whole
      obtain ⟨_, _, written, _⟩ := Action.run_bind_eq_done_iff.mp rest
      obtain ⟨frame, last, used, _⟩ := Action.run_bind_eq_done_iff.mp written
      exact ⟨middle, begun, frame, last, used⟩
  | copyIn address buffer =>
      obtain ⟨filled, whole, _⟩ := passes
      rw [UserRead.fillRuns_append] at whole
      obtain ⟨_, middle, begun, rest⟩ := Action.run_bind_eq_done_iff.mp whole
      obtain ⟨_, _, read, _⟩ := Action.run_bind_eq_done_iff.mp rest
      exact ⟨_, ⟨middle, begun, rfl⟩, UserRead.exists_userPage_of_readRun read⟩
  | copyInString address buffer =>
      obtain ⟨filled, whole, _⟩ := passes
      rw [UserRead.fillString_append] at whole
      obtain ⟨found, middle, begun, rest⟩ :=
        Action.run_bind_eq_done_iff.mp whole
      cases found with
      | some last => cases rest
      | none =>
          obtain ⟨_, _, read, _⟩ := Action.run_bind_eq_done_iff.mp rest
          exact ⟨_, ⟨middle, begun, rfl⟩,
            UserRead.exists_userPage_of_readRun read⟩
  | grow _ _ | shrink _ | pageIn _ | resolveFault _ _ | evict | tick
  | touch _ _ | clearUser _ => exact passes.elim

theorem StopsBehind.eq_nil {more beyond : List Run}
    (stops : request.StopsBehind state error after passed ahead)
    (further : request.Passes state (passed ++ more) middle)
    (split : ahead = more ++ beyond) : more = [] := by
  cases more with
  | nil => rfl
  | cons stopped more =>
      obtain ⟨_, _, passes, stops⟩ := stops
      obtain ⟨_, begun, frame, last, used⟩ := further.uses
      obtain rfl := passes.unique begun
      subst split
      cases used.symm.trans stops

theorem StopsBehind.unique {others beyond : List Run}
    (stops : request.StopsBehind state error after passed ahead)
    (also : request.StopsBehind state error after others beyond) :
    others = passed := by
  obtain ⟨_, passes, _⟩ := stops.2
  obtain ⟨_, passesAlso, _⟩ := also.2
  obtain ⟨more, rfl, split⟩ | ⟨more, rfl, split⟩ :=
    List.append_eq_append_iff.mp (stops.1.symm.trans also.1)
  · rw [stops.eq_nil passesAlso split, List.append_nil]
  · rw [also.eq_nil passes split, List.append_nil]

theorem Passes.follows {runs : List Run}
    (passes : request.Passes state runs middle) :
    ∃ moves, Each Uses (runPages runs) moves ∧ Follows state moves middle := by
  have fills : ∀ {buffer : Array UInt8} {filled : Hosted UserRead},
      (UserRead.fillRuns 0 runs).run ⟨⟨state.focus, buffer⟩, state.host⟩ =
        .done () filled →
      ∃ moves, Each Uses (runPages runs) moves ∧
        Follows state moves (UserRead.source filled) := by
    intro buffer filled ran
    have draws : UserRead.Draws ⟨⟨state.focus, buffer⟩, state.host⟩
      (UserRead.fillRuns 0 runs) _ := UserRead.draws_fillRuns 0 runs
    rw [UserRead.Draws, ran] at draws
    exact draws
  cases request with
  | copyOut address bytes =>
      have leads : Leads state (writeRuns runs bytes) _ _ :=
        leads_writeRuns runs bytes
      have ran : (writeRuns runs bytes).run state = .done () middle := passes
      rw [Leads, ran] at leads
      exact leads
  | copyIn address buffer =>
      obtain ⟨filled, ran, rfl⟩ := passes
      exact fills ran
  | copyInString address buffer =>
      obtain ⟨filled, ran, rfl⟩ := passes
      exact fills (UserRead.run_fillRuns_of_fillString ran)
  | grow _ _ | shrink _ | pageIn _ | resolveFault _ _ | evict | tick
  | touch _ _ | clearUser _ => exact passes.elim

end Request

/-- The moves of a copy that went over the runs `passed` and failed. -/
def Falters (passed ahead : List Run) (moves : List Move) : Prop :=
  ∃ first rest, Each Uses (runPages passed) first ∧ moves = first ++ rest ∧
    match ahead with
    | [] => rest = []
    | stopped :: _ => Misses (Address.pageBase stopped.address) rest

theorem Request.StopsBehind.follows {request : Request}
    (stops : request.StopsBehind state error after passed ahead) :
    ∃ moves, Falters passed ahead moves ∧ Follows state moves after := by
  obtain ⟨_, middle, passes, stops⟩ := stops
  obtain ⟨first, uses, follows⟩ := passes.follows
  cases ahead with
  | nil =>
      obtain rfl : after = middle := stops
      exact ⟨first, ⟨first, [], uses, (List.append_nil _).symm, rfl⟩, follows⟩
  | cons stopped ahead =>
      have leads : Leads middle (userPage stopped.address request.isWrite) _ _ :=
        leads_userPage stopped.address request.isWrite
      rw [Leads, show (userPage stopped.address request.isWrite).run middle =
        .failed error after from stops] at leads
      obtain ⟨rest, misses, further⟩ := leads
      exact ⟨first ++ rest, ⟨first, rest, uses, rfl, misses⟩,
        follows.trans further⟩

section Copies

variable (size address : Nat) (state : Hosted AddressSpace)

theorem meets_copyOut_moves (bytes : List UInt8) :
    ((Request.copyOut address bytes).action size |>.run state).Meets
      (fun _ => True)
      (fun _ after => ∃ moves,
        Each Uses (copiedPages address bytes.length) moves ∧
          Follows state moves after)
      (fun error after => ∃ passed ahead, (Request.copyOut address
        bytes).StopsBehind state error after passed ahead) := by
  refine Action.meets_map ?_
  have leads : Leads state
    (writeRuns (Span.runs address bytes.length) bytes) _ _ :=
      leads_writeRuns _ bytes
  rw [AddressSpace.copyOut]
  rw [Leads] at leads
  cases ran : (writeRuns (Span.runs address bytes.length) bytes).run state with
  | done _ after =>
      rw [ran] at leads
      exact leads
  | failed error after =>
      obtain ⟨passed, stopped, rest, middle, split, passes, stops⟩ :=
        exists_stop_of_writeRuns ran
      exact ⟨passed, stopped :: rest, split, middle, passes, stops⟩
  | fatal _ => trivial

theorem meets_copyIn_moves (buffer : Array UInt8) :
    ((Request.copyIn address buffer).action size |>.run state).Meets
      (fun _ => True)
      (fun _ after => ∃ moves,
        Each Uses (copiedPages address buffer.size) moves ∧
          Follows state moves after)
      (fun error after => ∃ passed ahead, (Request.copyIn address
        buffer).StopsBehind state error after passed ahead) := by
  refine Action.meets_map (meets_withBuffer ?_ fun _ _ drawn => drawn)
  rw [UserRead.copyIn, Action.run_bind_of_done (Action.run_read _ _)]
  have draws : UserRead.Draws ⟨⟨state.focus, buffer⟩, state.host⟩
    (UserRead.fillRuns 0 (Span.runs address buffer.size)) _ :=
      UserRead.draws_fillRuns 0 _
  rw [UserRead.Draws] at draws
  cases ran : (UserRead.fillRuns 0 (Span.runs address buffer.size)).run
      ⟨⟨state.focus, buffer⟩, state.host⟩ with
  | done _ filled =>
      rw [ran] at draws
      exact draws
  | failed error filled =>
      obtain ⟨passed, stopped, rest, middle, split, passes, stops⟩ :=
        UserRead.exists_stop_of_fillRuns ran
      exact ⟨passed, stopped :: rest, split, _, ⟨middle, passes, rfl⟩, stops⟩
  | fatal _ => trivial

theorem meets_copyInString_moves (buffer : Array UInt8) :
    ((Request.copyInString address buffer).action size |>.run state).Meets
      (fun _ => True)
      (fun reply after => ∃ length filled, reply = .string length filled ∧
        ∃ moves, length < buffer.size ∧
          Each Uses (copiedPages address (length + 1)) moves ∧
          Follows state moves after)
      (fun error after => ∃ passed ahead, (Request.copyInString address
        buffer).StopsBehind state error after passed ahead) := by
  have draws : UserRead.Draws ⟨⟨state.focus, buffer⟩, state.host⟩
    (UserRead.fillString 0 (Span.runs address buffer.size)) _ :=
      UserRead.draws_fillString 0 address buffer.size
  rw [UserRead.Draws] at draws
  suffices meets : ((UserRead.copyInString address).run
      ⟨⟨state.focus, buffer⟩, state.host⟩).Meets (fun _ => True)
      (fun length filled => ∃ moves, length < buffer.size ∧
        Each Uses (copiedPages address (length + 1)) moves ∧
          Follows state moves (UserRead.source filled))
      (fun error filled => ∃ passed ahead, (Request.copyInString address
        buffer).StopsBehind state error (UserRead.source filled) passed
          ahead) from
    Action.meets_map (meets_withBuffer meets
      fun length _ drawn => ⟨length, _, rfl, drawn⟩)
  rw [UserRead.copyInString, Action.run_bind_of_done (Action.run_read _ _)]
  cases ran : (UserRead.fillString 0 (Span.runs address buffer.size)).run
      ⟨⟨state.focus, buffer⟩, state.host⟩ with
  | done found filled =>
      rw [ran] at draws
      rw [Action.run_bind_of_done ran]
      cases found with
      | some last =>
          obtain ⟨moves, ⟨count, less, same, uses⟩, follows⟩ := draws
          obtain rfl : last = count := same.trans (Nat.zero_add count)
          exact ⟨moves, less, uses, follows⟩
      | none =>
          exact ⟨Span.runs address buffer.size, [],
            (List.append_nil _).symm, _, ⟨filled, ran, rfl⟩, rfl⟩
  | failed error filled =>
      rw [Action.run_bind_of_failed ran]
      obtain ⟨passed, stopped, rest, middle, split, passes, stops⟩ :=
        UserRead.exists_stop_of_fillString ran
      exact ⟨passed, stopped :: rest, split, _, ⟨middle, passes, rfl⟩, stops⟩
  | fatal _ =>
      rw [Action.run_bind_of_fatal ran]
      trivial

end Copies

end AddressSpace

end DemandPaging
