import DemandPaging.Proofs.AddressSpace.Coherence

/-!
# Spaces that stay tidy

A space whose callers keep to what its operations ask for stays tidy: besides
being coherent, every page of it can be read, none is both in memory and in
swap, and no claimed slot is too high.  On a tidy space no check fails, so an
operation ends only if the clock of the second-chance policy runs out, or if a
fork asks for a slot that the child does not have.
-/

namespace DemandPaging

namespace AddressSpace

open Fork
open Pager (Terms)

variable {state before after : Hosted AddressSpace} {size time : Nat}

/-- The space is coherent, and its entries and slots are as operations expect
them. -/
structure IsTidy (size : Nat) (state : Hosted AddressSpace) : Prop extends
    IsCoherent size state where
  strict : (pager state).Strict

/-- The operation stayed within its space, which is tidy. -/
structure IsTidied (before : Hosted AddressSpace) (size : Nat)
    (after : Hosted AddressSpace) : Prop extends
    IsOrderly before size after where
  strict : (pager after).Strict

theorem IsTidied.tidy (tidied : IsTidied before size after) :
    IsTidy size after :=
  ⟨tidied.coherent, tidied.strict⟩

/-- The clock of the queue may have to advance by `time`, which is too much. -/
def RunsLate (state : Hosted AddressSpace) (time : Nat) (cause : Fatal) :
    Prop :=
  cause = .overflow ∧ state.focus.config.policy = .scfifo ∧ 0 < time ∧
    Word.limit ≤ state.focus.ledger.generation + time

/-- An operation in `time` ticks, which ends the run only if the clock runs
out. -/
def lateTerms (state : Hosted AddressSpace) (time : Nat) : Terms :=
  ⟨RunsLate state time, state.focus.ledger.generation + time⟩

theorem not_isLax_lateTerms : ¬(lateTerms state time).IsLax := by
  intro lax
  obtain ⟨impossible, _⟩ := lax .outOfBounds
  cases impossible

theorem growTicks_le (size : Nat) {target : Nat} (inside : target ≤ addressLimit)
    (parts : Pager) :
    grownPages size target * (parts.turns + 1) ≤ 2 ^ 53 := by
  have pages : grownPages size target ≤ 2 ^ 26 := by
    simp only [grownPages, Address.pageCeil, pageSize, addressLimit] at *
    omega
  have turns : parts.turns ≤ 2 ^ 26 := Nat.min_le_right _ _
  calc grownPages size target * (parts.turns + 1)
      ≤ 2 ^ 26 * (2 ^ 26 + 1) :=
        Nat.mul_le_mul pages (Nat.succ_le_succ turns)
    _ ≤ 2 ^ 53 := by decide

theorem IsNew.isTidy (isNew : IsNew state) : IsTidy 0 state :=
  ⟨isNew.isCoherent, isNew.isMade.isVacant.strict⟩

namespace IsTidy

theorem rehost {host : Host} (tidy : IsTidy size state)
    (same : host.pools = state.host.pools) :
    IsTidy size ⟨state.focus, host⟩ := by
  obtain ⟨pools, transfers, events⟩ := host
  obtain rfl : pools = state.host.pools := same
  exact ⟨⟨tidy.served, tidy.sound, tidy.ceiling, tidy.spans⟩, tidy.strict⟩

theorem ready (tidy : IsTidy size state) (time : Nat) :
    Ready (lateTerms state time) time none state where
  served := tidy.served
  parts := {
    sound := tidy.sound
    ceiling := tidy.ceiling
    strict := .inr tidy.strict
    time_le := Nat.le_refl _
    overflow := fun policy positive late => ⟨rfl, policy, positive, late⟩ }

theorem of_ready {terms : Terms} (ready : Ready terms time none state)
    (notLax : ¬terms.IsLax)
    (spans : FlatMemory.Spans (pager state).logicalPage? size) :
    IsTidy size state :=
  ⟨.of_ready ready spans, ready.parts.strict.resolve_left notLax⟩

theorem isTidied {relation : Pager → Pager → Prop}
    (left : Left state relation (lateTerms before time) 0 after)
    (confined : relation (pager state) (pager after) →
      (pager state).Confined (pager after))
    (spans : FlatMemory.Spans (pager after).logicalPage? size) :
    IsTidied state size after := by
  have tidy := of_ready left.ready not_isLax_lateTerms spans
  exact ⟨⟨left.changes.mono confined, tidy.toIsCoherent⟩, tidy.strict⟩

/-- A request keeps a space tidy and has the effect that it asks for, or fails
without effect on what there is. -/
theorem meets_request (tidy : IsTidy size state) (asked : Request)
    (admissible : asked.Admissible state) :
    ((asked.action size).run state).Meets
      (RunsLate state (asked.ticks size (pager state).turns))
      (fun reply after => IsTidied state (asked.sizeAfter size) after ∧
        asked.Succeeds size (pager state).logicalPage?
          (pager after).logicalPage? reply)
      (fun _ => IsTidied state size) := by
  have ready := tidy.ready (asked.ticks size (pager state).turns)
  have split : asked.ticks size (pager state).turns =
      0 + asked.ticks size (pager state).turns := (Nat.zero_add _).symm
  rw [split] at ready
  refine (AddressSpace.meets_request asked ready tidy.spans
    (.inr admissible)).mono (fun _ _ left => ?_) (fun _ _ left => ?_)
      |>.mono_fatal fun cause ends => ?_
  · have succeeds := left.changes.parts.2
    exact ⟨isTidied left And.left (succeeds.spans tidy.spans), succeeds⟩
  · exact isTidied left And.left (left.changes.parts.2.spans tidy.spans)
  · rw [split]
    exact ends

/-- A space that is torn down has nothing, and this always ends well. -/
theorem meets_tearDown (tidy : IsTidy size state) {cause : Fatal → Prop}
    {failed : PagingError → Hosted AddressSpace → Prop} :
    ((tearDown size).run state).Meets cause
      (fun _ after => IsTidied state 0 after ∧ (pager after).IsVacant)
      failed := by
  refine (AddressSpace.meets_tearDown (tidy.ready 0) size
    (.inr tidy.spans)).mono (fun _ after torn => ?_)
      (fun _ _ isFailed => isFailed) |>.mono_fatal fun cause ends => ?_
  · obtain ⟨changes, readyAfter, isVacant⟩ := torn
    exact ⟨isTidied ⟨readyAfter, changes⟩ id isVacant.spans, isVacant⟩
  · exact absurd ends.2.2.1 (Nat.lt_irrefl 0)

/-- The first page is made, unless the program does not fit. -/
theorem meets_firstPage (tidy : IsTidy 0 state) (code : List UInt8) :
    ((firstPage code).run state).Meets
      (fun cause => cause = .firstPageTooLong ∧ pageSize ≤ code.length ∨
        RunsLate state ((pager state).turns + 1) cause)
      (fun _ => IsTidied state pageSize)
      (fun _ => IsTidied state 0) := by
  have absent : ∀ address, (pager state).logicalPage? address = none := by
    intro address
    refine Option.not_isSome_iff_eq_none.mp fun isThere => ?_
    have below := (tidy.spans address).mp isThere
    simp [Address.pageCeil, pageSize] at below
  have ready := tidy.ready (0 + ((pager state).turns + 1))
  rw [firstPage]
  refine Action.meets_crashUnless_bind (fun long =>
    .inl ⟨rfl, Nat.le_of_not_lt long⟩) fun _ => ?_
  have aligned : Address.pageBase 0 = 0 := rfl
  refine (meets_addPage code ready aligned (absent 0) (.inr (by decide))
    (.inr ⟨rfl, rfl⟩)).mono (fun _ after left => ?_)
      (fun _ after kept => ?_) |>.mono_fatal fun cause ends => ?_
  · refine isTidied left Pager.Adds.toConfined fun address => ?_
    rw [left.changes.parts.logicalPage?, absent]
    split
    · rename_i inside
      exact iff_of_true rfl inside.2
    · rename_i outside
      exact iff_of_false Bool.false_ne_true fun below =>
        outside ⟨Nat.zero_le _, below⟩
  · have left : Left state Pager.Keeps (lateTerms state
        (0 + ((pager state).turns + 1))) 0 after :=
      ⟨kept.ready, kept.changes⟩
    refine isTidied left Pager.Keeps.toConfined fun address => ?_
    rw [kept.changes.parts.logicalPage?]
    exact tidy.spans address
  · rw [Nat.zero_add] at ends
    exact .inr ends

end IsTidy

/-- What ends a fork of a tidy space: the limits differ, a page is in a slot
that the child does not have, or the child tracks the pages by itself and its
clock runs out. -/
def ForkEnds (state : Hosted (Fork AddressSpace)) (size : Nat)
    (cause : Fatal) : Prop :=
  cause = .forkLimitsDiffer ∧ bothPaging state.focus = true ∧
      sameLimits state.focus = false ∨
    cause = .outOfBounds ∧ bothPaging state.focus = true ∧
      (∃ page slot, page < Address.pageCeil size ∧
        (pager (parentOf state)).residenceOf? page =
          some (.swapped page slot) ∧
        state.focus.child.swap.capacity ≤ slot) ∨
    bothPaging state.focus = false ∧
      RunsLate (childOf state) (grownPages 0 size *
        ((pager (childOf state)).turns + 1)) cause

/-- A fork of the first `size` bytes of a tidy space makes a tidy child, or
leaves it empty. -/
theorem meets_forkCopy_of_tidy {state : Hosted (Fork AddressSpace)}
    {parentSize : Nat} (parent : IsTidy parentSize (parentOf state))
    (child : IsTidy 0 (childOf state)) (size : Nat)
    (within : Address.pageCeil size ≤ Address.pageCeil parentSize) :
    ((forkCopy size).run state).Meets (ForkEnds state size)
      (fun _ after => after.focus.parent = state.focus.parent ∧
        IsTidied (childOf state) size (childOf after))
      (fun _ after => after.focus.parent = state.focus.parent ∧
        IsTidied (childOf state) 0 (childOf after)) := by
  have forkable : Forkable state :=
    ⟨parent.served, parent.isCopyable, child.isVacant⟩
  obtain ⟨time, isTime⟩ : ∃ time, time =
      (size + (pageSize - 1)) / pageSize * pageTicks state := ⟨_, rfl⟩
  obtain ⟨terms, isTerms⟩ : ∃ terms : Terms, terms =
      ⟨ForkEnds state size, state.focus.child.ledger.generation + time⟩ :=
    ⟨_, rfl⟩
  have notLax : ¬terms.IsLax := by
    rw [isTerms]
    intro lax
    rcases lax .swapFull with ⟨impossible, _⟩ | ⟨impossible, _⟩ | impossible
    · cases impossible
    · cases impossible
    · cases impossible.2.1
  have ready : Ready terms time none (childOf state) := by
    rw [isTerms]
    refine ⟨child.served, {
      sound := child.sound
      ceiling := child.ceiling
      strict := .inr child.strict
      time_le := Nat.le_refl _
      overflow := fun policy positive late => .inr (.inr ?_) }⟩
    -- Where both track pages the child's clock does not advance.
    have alone : bothPaging state.focus = false := by
      rw [← Bool.not_eq_true]
      intro both
      rw [isTime, pageTicks, if_pos both, Nat.mul_zero] at positive
      exact absurd positive (Nat.lt_irrefl 0)
    rw [isTime, pageTicks, alone, if_neg Bool.false_ne_true] at positive late
    exact ⟨alone, rfl, policy, positive, late⟩
  have permits : (bothPaging state.focus = true →
      sameLimits state.focus = true) →
        Permits state terms (Address.pageCeil size) := by
    intro agree
    refine ⟨parent.sound, parent.strict, parent.ceiling, fun address below =>
      (parent.spans address).mpr (Nat.lt_of_lt_of_le below within), agree,
      fun both page slot below known => ?_⟩
    rw [isTerms]
    by_cases inside : slot < state.focus.child.swap.capacity
    · exact .inr inside
    · exact .inl (.inr (.inl ⟨rfl, both, page, slot, below, known,
        Nat.le_of_not_lt inside⟩))
  have limits : bothPaging state.focus = true →
      sameLimits state.focus = false → terms.fatal .forkLimitsDiffer := by
    rw [isTerms]
    exact fun both differ => .inl ⟨rfl, both, differ⟩
  refine (meets_forkCopy forkable size (.inr ⟨limits, permits⟩)
    (isTime ▸ ready)).mono (fun _ after done => ?_) (fun _ after copied => ?_)
      |>.mono_fatal fun cause ends => ?_
  · obtain ⟨copied, copying, rfl⟩ := done
    have faithful := copying.clocked
    refine ⟨faithful.parent, ⟨faithful.left.changes.mono
      Pager.Copies.toConfined, .of_ready faithful.left.ready
        (faithful.spans child.isVacant)⟩, ?_⟩
    have strict := copying.left.ready.parts.strict.resolve_left notLax
    obtain ⟨generation, parts⟩ := pager_clocked state copied
    rw [parts]
    exact ⟨strict.entries, strict.slot_le⟩
  · exact ⟨copied.parent, ⟨copied.left.changes.mono Pager.Copies.toConfined,
      .of_ready copied.left.ready (copied.isVacant child.isVacant).spans⟩,
        copied.left.ready.parts.strict.resolve_left notLax⟩
  · rwa [isTerms] at ends

end AddressSpace

end DemandPaging
