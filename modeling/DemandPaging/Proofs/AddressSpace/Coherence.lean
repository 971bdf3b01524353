import DemandPaging.Proofs.AddressSpace.Fork

/-!
# Spaces that stay coherent

An operation that does not end the run leaves the parts of its space in
agreement and every frame of others as it was, whether it was done or failed,
and whether or not its caller kept to what it asks for.
-/

namespace DemandPaging

namespace AddressSpace

open Fork
open Pager (Terms Confined)

variable {state after : Hosted AddressSpace} {size : Nat}

/-- The parts agree, and the pages are those of the first `size` bytes. -/
structure IsCoherent (size : Nat) (state : Hosted AddressSpace) : Prop where
  served : IsServed state
  sound : (pager state).Sound none
  ceiling : (pager state).ledger.residentCount ≤
    (pager state).ledger.maxResident
  spans : FlatMemory.Spans (pager state).logicalPage? size

/-- The operation stayed within its space, which is coherent. -/
structure IsOrderly (before : Hosted AddressSpace) (size : Nat)
    (after : Hosted AddressSpace) : Prop where
  changes : Changes before Confined after
  coherent : IsCoherent size after

theorem IsOrderly.sameShape (orderly : IsOrderly state size after) :
    after.focus.isPaging = state.focus.isPaging ∧
      after.focus.config = state.focus.config :=
  ⟨orderly.changes.parts.shape.isPaging, orderly.changes.parts.shape.config⟩

namespace IsCoherent

theorem ready (coherent : IsCoherent size state) {time total : Nat}
    (le : (pager state).ledger.generation + time ≤ total) :
    Ready ⟨fun _ => True, total⟩ time none state where
  served := coherent.served
  parts := {
    sound := coherent.sound
    ceiling := coherent.ceiling
    strict := .inl fun _ => trivial
    time_le := le
    overflow := fun _ _ _ => trivial }

theorem of_ready {terms : Terms} {time : Nat}
    (ready : Ready terms time none state)
    (spans : FlatMemory.Spans (pager state).logicalPage? size) :
    IsCoherent size state :=
  ⟨ready.served, ready.sound, ready.parts.ceiling, spans⟩

theorem isVacant (coherent : IsCoherent 0 state) :
    (pager state).IsVacant :=
  coherent.sound.isVacant fun address =>
    Option.not_isSome_iff_eq_none.mp fun isThere => by
      have below := (coherent.spans address).mp isThere
      simp [Address.pageCeil, pageSize] at below

theorem isCopyable (coherent : IsCoherent size state) :
    (pager state).IsCopyable where
  ledger := coherent.sound.ledger
  resident isPaging page aligned isValid _ := by
    have known := coherent.sound.resident isPaging page isValid nofun
    rwa [aligned] at known
  framed := coherent.sound.framed
  aligned _ page residence known :=
    (coherent.sound.tracked page residence known).2.1

end IsCoherent

/-- A space that cannot be made leaves the host as it was. -/
theorem meets_make {config : Config} {isEligible : Bool} {pool : Nat}
    {table : PageTable} {swap : SwapSpace} {host : Host} :
    ((make config isEligible pool table swap).run host).Meets
      (fun cause => cause = .overflow ∧
        Word.limit ≤ config.maxResident + config.maxSwap)
      (fun space after =>
        (make config isEligible pool table swap).run host =
          .done space after)
      (fun _ after => after = host) := by
  refine Outcome.Meets.itself ?_
  rw [make]
  cases config.validate with
  | error error =>
      rw [Action.run_bind_of_failed (Action.run_ofResult_error error host)]
      rfl
  | ok _ =>
      rw [Action.run_bind_of_done (Action.run_ofResult_ok _ host)]
      refine Action.meets_failUnless_bind (fun _ => rfl) fun _ => ?_
      dsimp only
      rw [Action.run_bind_of_done (Action.run_modify _ host),
        Action.liftM_eq_ofExcept]
      rcases Nat.lt_or_ge (config.maxResident + config.maxSwap) Word.limit
        with fits | large
      · rw [Ledger.new_eq_ok_iff.mpr ⟨fits, rfl⟩,
          Action.run_bind_of_done (Action.run_ofExcept_ok _ _)]
        trivial
      · have refused : Ledger.new config.maxResident config.maxSwap =
            .error .overflow := by
          rw [Ledger.new, Word.add, Word.fit_of_le large]
          rfl
        rw [refused, Action.run_bind_of_fatal (Action.run_ofExcept_error _ _)]
        exact ⟨rfl, large⟩

theorem IsNew.isCoherent (isNew : IsNew state) : IsCoherent 0 state := by
  have inOrder := isNew.inOrder
  exact ⟨inOrder.served, inOrder.sound, inOrder.ceiling,
    isNew.isMade.isVacant.spans⟩

/-- A page table is given back only when nothing is left. -/
theorem meets_destroy {terms : Terms} {time : Nat}
    {failed : PagingError → Hosted AddressSpace → Prop}
    (ready : Ready terms time none state)
    (nothing : terms.IsLax ∨
      ∀ address, (pager state).logicalPage? address = none) :
    ((onTable (Action.change PageTable.destroy)).run state).Meets terms.fatal
      (fun _ after => Changes state Confined after ∧
        Ready terms time none after ∧ (pager after).IsVacant) failed := by
  rw [onTable, Action.meets_zoom_iff]
  cases ended : state.focus.table.destroy with
  | error cause =>
      rw [Action.run_change_of_error ended]
      rcases nothing with lax | nothing
      · exact lax cause
      · have noLeaf : state.focus.table.leaves = [] := by
          refine List.eq_nil_iff_forall_not_mem.mpr ?_
          rintro ⟨page, entry⟩ member
          obtain ⟨_, rfl, isPresent⟩ :=
            PageTable.mem_leaves_iff_entryAt.mp member
          have isThere := ready.sound.isSome_logicalPage? page
          rw [nothing page] at isThere
          cases isThere.trans isPresent
        cases ended.symm.trans (PageTable.destroy_eq_ok_iff.mpr ⟨noLeaf, rfl⟩)
  | ok table =>
      rw [Action.run_change_of_ok ended]
      obtain ⟨noLeaf, rfl⟩ := PageTable.destroy_eq_ok_iff.mp ended
      have sound := ready.sound
      have vacant : (pager state).IsVacant := by
        refine sound.isVacant fun address => ?_
        refine Option.not_isSome_iff_eq_none.mp fun isThere => ?_
        rw [sound.isSome_logicalPage?, ← Pager.entryAt_pageBase] at isThere
        have member := PageTable.mem_leaves_iff_entryAt.mpr
          ⟨Address.pageBase_pageBase address, rfl, isThere⟩
        change _ ∈ state.focus.table.leaves at member
        rw [noLeaf] at member
        cases member
      have stays : Stays state ⟨{ state.focus with
          table := PageTable.new state.focus.table.budget }, state.host⟩ :=
        ⟨rfl, rfl, fun _ _ => rfl⟩
      have shape : (pager state).SameShape (pager ⟨{ state.focus with
          table := PageTable.new state.focus.table.budget }, state.host⟩) :=
        ⟨rfl, rfl, rfl, rfl, rfl, rfl⟩
      have isVacant : (pager ⟨{ state.focus with
          table := PageTable.new state.focus.table.budget },
            state.host⟩).IsVacant :=
        ⟨fun _ => rfl, vacant.places, vacant.slots⟩
      refine ⟨⟨stays, shape, fun frame contents => ?_⟩,
        ⟨ready.served, ?_⟩, isVacant⟩
      · rw [isVacant.unowned_iff, vacant.unowned_iff]
        exact Iff.rfl
      · exact {
          sound := isVacant.sound (sound.fits.of_sameShape shape) sound.ledger
            sound.swap sound.frames
          ceiling := ready.parts.ceiling
          strict := .inr isVacant.strict
          time_le := ready.parts.time_le
          overflow := ready.parts.overflow }

/-- A space that is torn down has nothing, and where the size is that of its
memory the operation ends. -/
theorem meets_tearDown {terms : Terms} {time : Nat}
    {failed : PagingError → Hosted AddressSpace → Prop}
    (ready : Ready terms time none state) (size : Nat)
    (whole : terms.IsLax ∨
      FlatMemory.Spans (pager state).logicalPage? size) :
    ((tearDown size).run state).Meets terms.fatal
      (fun _ after => Changes state Confined after ∧
        Ready terms time none after ∧ (pager after).IsVacant) failed := by
  have bounded : terms.IsLax ∨ size ≤ addressLimit :=
    whole.imp_right fun spans => le_of_spans ready spans
  have areThere : terms.IsLax ∨ AreThere state 0 (Address.pageCeil size) :=
    whole.imp_right fun spans address _ below => (spans address).mpr below
  have cleared : ((Action.runIf (0 < size) do
      let stop ← Word.roundUp size
      unmap 0 (stop / pageSize) true : SpaceAction Unit).run state).Meets
      terms.fatal
      (fun _ after => Left state Confined terms time after ∧
        (terms.IsLax ∨ ∀ address, (pager after).logicalPage? address = none))
      failed := by
    refine Action.meets_runIf (fun _ => ?_) fun isZero =>
      ⟨⟨ready, .refl state, .refl _⟩, whole.imp_right fun spans address => ?_⟩
    · rw [Action.liftM_eq_ofExcept]
      rcases roundUp_of_bounded bounded with rounds | ⟨refused, lax⟩
      · rw [rounds, Action.run_bind_of_done (Action.run_ofExcept_ok _ _)]
        have same : 0 + Address.pageCeil size / pageSize * pageSize =
            Address.pageCeil size := by
          simp only [Address.pageCeil, pageSize]
          omega
        refine (meets_unmap ready rfl same areThere).mono_done
          fun _ _ left => ⟨left.mono Pager.Clears.toConfined, ?_⟩
        refine whole.imp_right fun spans address => ?_
        rw [left.changes.parts.logicalPage?]
        split
        · rfl
        · rename_i beyond
          refine Option.not_isSome_iff_eq_none.mp fun isThere => beyond ?_
          exact ⟨Nat.zero_le _, (spans address).mp isThere⟩
      · rw [refused, Action.run_bind_of_fatal (Action.run_ofExcept_error _ _)]
        exact lax
    · refine Option.not_isSome_iff_eq_none.mp fun isThere => ?_
      have below := (spans address).mp isThere
      simp only [Address.pageCeil, pageSize] at below
      omega
  rw [tearDown]
  refine Action.meets_bind cleared ?_
  rintro _ middle ⟨⟨readyMiddle, toMiddle⟩, nothing⟩
  refine Action.meets_bind (meets_destroy readyMiddle nothing) ?_
  rintro _ final ⟨toFinal, readyFinal, isVacant⟩
  have looked : (look fun space => space.ledger.trackedCount).run final =
      .done final.focus.ledger.trackedCount final := rfl
  have noneTracked : final.focus.ledger.trackedCount = 0 :=
    ((isVacant_iff readyFinal.sound.ledger).mp isVacant).trackedCount
  rw [Action.run_bind_of_done looked, Action.run_crashUnless,
    if_pos noneTracked]
  exact ⟨toMiddle.trans toFinal Confined.trans, readyFinal, isVacant⟩

/-- A request, or the end of the space. -/
inductive Call where
  | request (asked : Request)
  | tearDown

namespace Call

/-- The operation that is called for, of a space with `size` bytes of user
memory. -/
def action (size : Nat) : Call → SpaceAction Unit
  | request asked => (fun _ => ()) <$> asked.action size
  | tearDown => AddressSpace.tearDown size

/-- The bytes of user memory once a call is done. -/
def sizeAfter (size : Nat) : Call → Nat
  | request asked => asked.sizeAfter size
  | tearDown => 0

end Call

namespace IsCoherent

theorem meets_request (coherent : IsCoherent size state) (asked : Request) :
    ((asked.action size).run state).Meets (fun _ => True)
      (fun _ => IsOrderly state (asked.sizeAfter size))
      (fun _ => IsOrderly state size) := by
  have ready := coherent.ready (Nat.le_refl ((pager state).ledger.generation +
    (0 + asked.ticks size (pager state).turns)))
  refine (AddressSpace.meets_request asked ready coherent.spans
    (.inl fun _ => trivial)).mono (fun _ _ left => ?_) fun _ _ left => ?_
  · exact ⟨left.changes.mono And.left,
      .of_ready left.ready (left.changes.parts.2.spans coherent.spans)⟩
  · exact ⟨left.changes.mono And.left,
      .of_ready left.ready (left.changes.parts.2.spans coherent.spans)⟩

theorem sameShape_of_done (coherent : IsCoherent size state) {asked : Request}
    {reply : Reply} (ran : (asked.action size).run state = .done reply after) :
    after.focus.isPaging = state.focus.isPaging ∧
      after.focus.config = state.focus.config := by
  have orderly := coherent.meets_request asked
  rw [ran] at orderly
  exact orderly.sameShape

theorem sameShape_of_failed (coherent : IsCoherent size state)
    {asked : Request} {error : PagingError}
    (ran : (asked.action size).run state = .failed error after) :
    after.focus.isPaging = state.focus.isPaging ∧
      after.focus.config = state.focus.config := by
  have orderly := coherent.meets_request asked
  rw [ran] at orderly
  exact orderly.sameShape

theorem meets_call (coherent : IsCoherent size state) (call : Call) :
    ((call.action size).run state).Meets (fun _ => True)
      (fun _ => IsOrderly state (call.sizeAfter size))
      (fun _ => IsOrderly state size) := by
  cases call with
  | request asked =>
      rw [Call.action]
      refine Action.meets_map (coherent.meets_request asked)
  | tearDown =>
      have ready := coherent.ready
        (Nat.le_refl ((pager state).ledger.generation + 0))
      refine (meets_tearDown ready size (.inl fun _ => trivial)).mono
        (fun _ _ done => ?_) fun _ _ (impossible : False) => impossible.elim
      obtain ⟨changes, readyAfter, vacant⟩ := done
      exact ⟨changes, .of_ready readyAfter vacant.spans⟩

end IsCoherent

/-- A fork keeps parent and child coherent. -/
theorem meets_forkCopy_of_coherent {state : Hosted (Fork AddressSpace)}
    {parentSize : Nat} (parent : IsCoherent parentSize (parentOf state))
    (child : IsCoherent 0 (childOf state)) (size : Nat) :
    ((forkCopy size).run state).Meets (fun _ => True)
      (fun _ after => after.focus.parent = state.focus.parent ∧
        IsOrderly (childOf state) size (childOf after))
      (fun _ after => after.focus.parent = state.focus.parent ∧
        IsOrderly (childOf state) 0 (childOf after)) := by
  have forkable : Forkable state :=
    ⟨parent.served, parent.isCopyable, child.isVacant⟩
  refine (meets_forkCopy forkable size (.inl fun _ => trivial)
    (child.ready (Nat.le_refl _))).mono (fun _ after done => ?_)
      fun _ after copied => ?_
  · obtain ⟨copied, copying, rfl⟩ := done
    have faithful := copying.clocked
    exact ⟨faithful.parent,
      faithful.left.changes.mono Pager.Copies.toConfined,
      .of_ready faithful.left.ready (faithful.spans child.isVacant)⟩
  · exact ⟨copied.parent, copied.left.changes.mono Pager.Copies.toConfined,
      .of_ready copied.left.ready (copied.isVacant child.isVacant).spans⟩

end AddressSpace

end DemandPaging
