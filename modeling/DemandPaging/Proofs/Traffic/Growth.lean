import DemandPaging.Proofs.Replacement.Growth
import DemandPaging.Proofs.Traffic.Swapping

/-!
# Pages that are added and pages that are unmapped

Growing evicts pages, new ones among them, to make room for the next.  Where
pages are unmapped those that are in swap give up their slots and count neither
as evicted nor as brought back.  So where growing fails and its pages are
unmapped again, some of them may have been evicted in the meantime.
-/

namespace DemandPaging

namespace AddressSpace

open Books (pagesFrom)

variable {Result : Type} {origin : AddressSpace} {state : Hosted AddressSpace}
  {journal : List Passage} {spare : Int} {page : Nat}

theorem passes_untrack {entry : Entry} (booked : IsBooked state.focus) :
    ((untrack page entry).run state).Meets (fun _ => True)
      (fun _ after => Passes state.focus [.unmap page] 0 after.focus)
      fun _ _ => False := by
  rw [untrack, Action.run_bind_of_done (run_look _)]
  cases found : state.focus.ledger.find? page with
  | none => trivial
  | some handle =>
      rw [Action.run_bind_of_done (Action.run_orCrash_some _ _ _)]
      apply Action.meets_bind_of fun _ after => state = after
      · rw [Action.liftM_eq_ofExcept]
        cases state.focus.ledger.get handle <;> trivial
      rintro tracked _ rfl
      apply Action.meets_crashUnless_bind fun _ => trivial
      intro _
      apply Action.meets_bind (computed_stepLedger _)
      rintro old _ ⟨ledger, released, rfl⟩
      obtain ⟨consistent, gone, fewer⟩ :=
        Ledger.swappedPages_of_release booked.ledger found released
      have unmapped : Passes state.focus [.unmap page]
          (old.residence.slot?.isSome.toNat : Nat)
          (Hosted.mk { state.focus with ledger } state.host).focus :=
        booked.passes_single consistent gone rfl rfl
          (by rw [swappedPages]; omega)
      cases held : old.residence.slot? with
      | none =>
          rw [held] at unmapped
          exact unmapped
      | some slot =>
          rw [held] at unmapped
          exact passes_releaseSlot slot unmapped

theorem passes_unmapPage (freeing : Bool) (booked : IsBooked state.focus) :
    ((unmapPage freeing page).run state).Meets (fun _ => True)
      (fun _ after => Passes state.focus [.unmap page] 0 after.focus)
      fun _ _ => False := by
  rw [unmapPage]
  apply (rests_lookup _).meets_then (.refl booked)
  intro found looked passes
  apply Rests.meets_then (Action.relates_orCrash _ found) passes
  intro entry seen passes
  apply Rests.meets_then (Action.relates_crashUnless _ _) passes
  intro _ present passes
  apply Rests.meets_then (Action.relates_crashUnless _ _) passes
  intro _ single passes
  apply Rests.meets_then (Action.relates_crashUnless _ _) passes
  intro _ leaf passes
  rw [Action.run_bind_of_done (run_look _), passes.isBooked.isPaging]
  apply Rests.meets_then (Action.relates_crashUnless _ _) passes
  intro _ known passes
  rw [Action.runIf_of_pos rfl]
  apply Action.meets_bind (passes_untrack passes.isBooked)
  intro _ untracked unmapped
  have passes := passes.trans unmapped
  apply Rests.meets_then (Action.relates_runIf fun _ =>
    rests_releaseFrame entry.address) passes
  intro _ freed passes
  exact (rests_updateEntry page _).meets passes

/-- The pages of a run are unmapped in order. -/
theorem passes_unmapRun (freeing : Bool) (page count : Nat)
    (booked : IsBooked state.focus) :
    ((unmapRun freeing page count).run state).Meets (fun _ => True)
      (fun _ after => Passes state.focus
        ((pagesFrom page count).map .unmap) 0 after.focus)
      fun _ _ => False := by
  induction count generalizing state page with
  | zero => exact .refl booked
  | succ count ih =>
      apply Action.meets_bind (passes_unmapPage freeing booked)
      intro _ middle passes
      apply (ih (page + pageSize) passes.isBooked).mono
      · exact fun _ _ rest => passes.trans rest
      · exact fun _ _ impossible => impossible

theorem passes_unmap (freeing : Bool) (address count : Nat)
    (booked : IsBooked state.focus) :
    ((unmap address count freeing).run state).Meets (fun _ => True)
      (fun _ after => Passes state.focus
        ((pagesFrom address count).map .unmap) 0 after.focus)
      fun _ _ => False := by
  apply Action.meets_crashUnless_bind fun _ => trivial
  exact fun _ => passes_unmapRun freeing address count booked

/-- The pages by which a space shrinks. -/
def shrunkPages (old new : Nat) : List Nat :=
  pagesFrom (Address.pageCeil new)
    ((Address.pageCeil old - Address.pageCeil new) / pageSize)

theorem passes_shrink (old new : Nat) (booked : IsBooked state.focus) :
    ((shrink old new).run state).Meets (fun _ => True)
      (fun _ after => Passes state.focus
        ((shrunkPages old new).map .unmap) 0 after.focus)
      fun _ _ => False := by
  rw [shrink, shrunkPages]
  split
  · rename_i le
    rw [Nat.sub_eq_zero_of_le (Address.pageCeil_mono le)]
    exact .refl booked
  · refine Action.meets_roundUp_bind (fun _ => trivial) fun _ => ?_
    refine Action.meets_roundUp_bind (fun _ => trivial) fun _ => ?_
    by_cases beyond : Address.pageCeil new < Address.pageCeil old
    · rw [Action.runIf_of_pos beyond]
      exact Action.meets_bind (passes_unmap true _ _ booked)
        fun _ _ passes => passes
    · rw [Action.runIf_of_neg beyond,
        Nat.sub_eq_zero_of_le (Nat.le_of_not_lt beyond)]
      exact Passes.refl booked

theorem rests_place (page frame : Nat) (flags : Flags) :
    Rests True (place page frame flags) := by
  apply Action.Relates.onFailure (rests_onTable (Action.relates_any _))
  exact fun _ => rests_releaseFrame frame

theorem rests_withdraw (page frame : Nat) :
    Rests True (withdraw page frame) := by
  apply (rests_updateEntry _ _).bind
  exact fun _ => rests_releaseFrame frame

theorem trades_install (page frame : Nat) (flags : Flags) :
    Trades (install page frame flags) := by
  apply (rests_place page frame flags).trades.bind
  intro _
  apply (trades_enroll page).onFailure
  exact fun _ => (rests_withdraw page frame).trades

theorem trades_addPage (page : Nat) (contents : List UInt8) (flags : Flags) :
    Trades (addPage page contents flags) := by
  apply rests_takeFrame.trades.bind
  intro frame
  apply (rests_changeFrames _).trades.bind
  intro _
  apply (rests_writeFrame frame contents).trades.bind
  exact fun _ => trades_install page frame flags

/-- Some pages were evicted or brought back, and then as many pages from `start`
on were unmapped. -/
def Retreats (start count : Nat) (journal : List Passage) : Prop :=
  ∃ trade, IsTrade trade ∧ journal = trade ++ (pagesFrom start count).map .unmap

/-- A run of pages is added, or of those that were and of the `already` pages
before them all are unmapped again. -/
theorem passes_addRun {flags : Flags} {old already : Nat} (count : Nat)
    (begins : page = Address.pageCeil old + already * pageSize)
    (booked : IsBooked state.focus) :
    ((addRun flags old page count).run state).Meets (fun _ => True)
      (fun _ after => ∃ journal, IsTrade journal ∧
        Passes state.focus journal 0 after.focus)
      fun _ after => ∃ fewer < count, ∃ journal,
        Retreats (Address.pageCeil old) (already + fewer) journal ∧
          Passes state.focus journal 0 after.focus := by
  induction count generalizing state page already with
  | zero => exact ⟨[], isTrade_nil, .refl booked⟩
  | succ count ih =>
      have added : shrunkPages page old =
          pagesFrom (Address.pageCeil old) already := by
        have same : (Address.pageCeil page - Address.pageCeil old) / pageSize =
            already := by
          simp only [begins, Address.pageCeil, pageSize]
          omega
        rw [shrunkPages, same]
      have next : page + pageSize =
          Address.pageCeil old + (already + 1) * pageSize := by
        rw [begins, Nat.succ_mul, Nat.add_assoc]
      have tried : (((addPage page [] flags).onFailure fun _ => do
          let _ ← shrink page old).run state).Meets (fun _ => True)
            (fun _ after => ∃ journal, IsTrade journal ∧
              Passes state.focus journal 0 after.focus)
            fun _ after => ∃ journal,
              Retreats (Address.pageCeil old) already journal ∧
                Passes state.focus journal 0 after.focus := by
        apply Action.meets_onFailure ((trades_addPage page [] flags state).mono
          (fun _ _ traded => traded booked)
          fun _ _ traded => traded.2 booked)
        rintro _ middle ⟨journal, isTrade, passes⟩
        have shrinks := passes_shrink page old passes.isBooked
        rw [added] at shrinks
        apply Action.meets_bind shrinks.of_sure
        exact fun _ _ shrunk =>
          ⟨_, ⟨journal, isTrade, rfl⟩, passes.trans shrunk⟩
      apply Action.meets_bind (tried.mono_failed ?_)
      · rintro _ middle ⟨journal, isTrade, passes⟩
        apply (ih next passes.isBooked).mono
        · rintro _ after ⟨more, isMore, rest⟩
          exact ⟨_, isTrade.append isMore, passes.trans rest⟩
        · rintro _ after ⟨fewer, less, _, ⟨more, isMore, rfl⟩, rest⟩
          refine ⟨fewer + 1, Nat.succ_lt_succ less, _,
            ⟨journal ++ more, isTrade.append isMore, rfl⟩, ?_⟩
          have whole := passes.trans rest
          rw [Nat.add_right_comm, ← List.append_assoc] at whole
          exact whole
      · exact fun _ _ retreated => ⟨0, Nat.succ_pos count, retreated⟩

/-- New pages may push others into swap, and one another.  If one of them cannot
be had those before it are unmapped. -/
theorem passes_grow (old new : Nat) (permissions : Flags)
    (booked : IsBooked state.focus) :
    ((grow old new permissions).run state).Meets (fun _ => True)
      (fun _ after => ∃ journal, IsTrade journal ∧
        Passes state.focus journal 0 after.focus)
      fun _ after => ∃ fewer < grownPages old new, ∃ journal,
        Retreats (Address.pageCeil old) fewer journal ∧
          Passes state.focus journal 0 after.focus := by
  rw [grow]
  split
  · exact ⟨[], isTrade_nil, .refl booked⟩
  · refine Action.meets_roundUp_bind (fun _ => trivial) fun _ => ?_
    apply Action.meets_bind_of fun _ after => ∃ journal, IsTrade journal ∧
      Passes state.focus journal 0 after.focus
    · have begins : Address.pageCeil old =
          Address.pageCeil old + 0 * pageSize := by
        omega
      apply (passes_addRun _ begins booked).mono
      · exact fun _ _ traded => traded
      · rintro _ after ⟨fewer, less, retreated⟩
        rw [Nat.zero_add] at retreated
        exact ⟨fewer, less, retreated⟩
    · exact fun _ _ traded => traded

end AddressSpace

end DemandPaging
