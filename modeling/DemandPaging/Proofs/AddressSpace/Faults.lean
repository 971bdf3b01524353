import DemandPaging.PageFault
import DemandPaging.Proofs.AddressSpace.Residency

/-!
# Ticks, references and page faults

What the scheduler and the processor do to an address space.  None of it is
noticed by user code, whether it succeeds or not.
-/

namespace DemandPaging

/-- A reference to user memory changes marks at most, and only of one page. -/
theorem PageTable.touch_of_lt {table : PageTable} {address : Nat}
    (inside : address < addressLimit) (isWrite : Bool) :
    ∃ touched, table.touch address isWrite = .ok touched ∧
      (∀ other, (table.entryAt other).SameButMarks (touched.entryAt other)) ∧
      ∀ other, Address.pageBase other ≠ Address.pageBase address →
        touched.entryAt other = table.entryAt other := by
  refine ⟨table.update address fun entry =>
      if entry.isValid then entry.insert (referenceFlags isWrite) else entry,
    ?_, fun other => ?_, fun other elsewhere => ?_⟩
  · rw [touch, checkAddress, if_pos inside]
    rfl
  · rw [entryAt_update (.inr rfl)]
    by_cases samePage : Address.pageBase other = Address.pageBase address
    · rw [if_pos samePage, entryAt_eq_of_pageBase_eq samePage]
      split
      · exact .insert_reference _ _
      · exact .refl _
    · rw [if_neg samePage]
      exact .refl _
  · rw [entryAt_update (.inr rfl), if_neg elsewhere]

namespace AddressSpace

open Pager (Terms)

variable {Result : Type} {state middle after : Hosted AddressSpace}
  {terms : Terms} {time : Nat} {pending : Option Nat} {address : Nat}

theorem meets_tick (ready : Ready terms time pending state) :
    (tick.run state).Meets terms.fatal
      (fun _ => Kept state terms time pending)
      fun _ => Kept state terms time pending := by
  have looked : (look isPaging).run state =
      .done (pager state).isPaging state := rfl
  rw [tick, Action.run_bind_of_done looked]
  by_cases isPaging : (pager state).isPaging = true
  · rw [if_pos isPaging, age]
    refine Action.meets_bind (meets_count _) fun _ counted counts => ?_
    have samePolicy : counted.focus.config.policy =
        (pager state).config.policy :=
      congrArg (fun parts : Pager => parts.config.policy) counts.parts
    obtain ⟨aged, ledger, table, success, refreshes⟩ :=
      Pager.onTick_of_sound ready.sound (pager state).config.policy
    rw [← counts.parts, counts.parts, ← samePolicy, ← counts.parts] at success
    refine Action.meets_bind (meets_onPolicy success) ?_
    rintro aged ticked ⟨rfl, becomes⟩
    rw [counts.parts] at becomes
    have toTicked := counts.trans becomes
    have kept : Kept state terms time pending ticked :=
      ⟨ready.becomes toTicked (ready.parts.refresh refreshes),
        .of_becomes toTicked refreshes.keeps⟩
    cases aged with
    | none => exact kept
    | some aged =>
        exact Action.meets_bind (meets_report _) fun _ _ reports =>
          kept.unchanged reports
  · rw [if_neg isPaging]
    exact Kept.refl ready

/-- A reference changes marks at most, and only of a page that is in user
memory. -/
theorem meets_touch (ready : Ready terms time pending state) (isWrite : Bool)
    (inside : terms.IsLax ∨ address < addressLimit) :
    ((onTable (Action.change fun table =>
      table.touch address isWrite)).run state).Meets terms.fatal
      (fun _ after => Kept state terms time pending after ∧
        ∃ table, Becomes state { pager state with table } after ∧
          ∀ other, ((pager state).entryAt other).SameButMarks
            (table.entryAt other))
      fun _ => Kept state terms time pending := by
  by_cases isInside : address < addressLimit
  · obtain ⟨table, marked, marks, _⟩ :=
      (pager state).table.touch_of_lt isInside isWrite
    have refreshes : (pager state).Refreshes table (pager state).ledger 0 :=
      ⟨marks, .refl ready.sound.ledger⟩
    refine (meets_changeTable marked).mono_done fun _ after becomes => ?_
    exact ⟨⟨ready.becomes becomes (ready.parts.refresh refreshes),
      .of_becomes becomes refreshes.keeps⟩, _, becomes, refreshes.marks⟩
  · rcases inside with lax | inside
    · have refused : (Action.change fun table : PageTable =>
          table.touch address isWrite).run state.focus.table =
            .fatal (.walkBeyondLimit address) := by
        apply Action.run_change_of_error
        rw [PageTable.touch, PageTable.checkAddress, if_neg isInside]
        rfl
      rw [onTable, Action.run_zoom, refused]
      exact lax _
    · exact absurd inside isInside

/-- A page fault is not noticed by user code, however it is resolved. -/
theorem meets_resolveFault (access : Access)
    (ready : Ready terms (time + ((pager state).turns + 1)) none
      state) :
    ((resolveFault address access).run state).Meets terms.fatal
      (fun _ => Kept state terms time none)
      fun _ => Kept state terms time none := by
  have denies : ∀ {middle : Hosted AddressSpace},
      Kept state terms time none middle →
        ((denyAccess address access : SpaceAction Resolution).run
          middle).Meets terms.fatal (fun _ => Kept state terms time none)
          fun _ => Kept state terms time none := by
    intro middle kept
    exact Action.meets_bind (meets_report _) fun _ _ reports =>
      kept.unchanged reports
  have kept : Kept state terms time none state :=
    (Kept.refl ready).weaken (Nat.le_add_right _ _)
  rw [resolveFault]
  refine Action.meets_bind (meets_count _) fun _ counted counts => ?_
  have keptCounted := kept.unchanged counts
  have readyCounted := ready.unchanged counts
  rw [← counts.parts] at readyCounted
  refine Action.meets_failUnless_bind (fun _ => keptCounted) fun inside => ?_
  rw [Action.run_bind_of_done (run_lookup_of_lt inside)]
  cases counted.focus.table.get? (Address.pageBase address) with
  | none => exact denies keptCounted
  | some entry =>
      dsimp only
      split
      · exact denies keptCounted
      · split
        · exact Action.meets_bind ((meets_pageIn readyCounted).mono
            (fun _ _ done => keptCounted.trans done.1)
            fun _ _ failed => keptCounted.trans failed) fun _ _ back => back
        · exact Action.meets_bind (meets_report _) fun _ _ reports =>
            keptCounted.unchanged reports

end AddressSpace

end DemandPaging
