import DemandPaging.Proofs.UserCopy.Copies

/-!
# Buffers filled to the byte

A copy from user memory fills a buffer run by run and leaves memory as it is to
user code.  Where it stops, the buffer has the bytes before, and what lies
beyond them in the buffer is as it was.
-/

namespace DemandPaging

namespace UserRead

open AddressSpace (Carries CopyEnds IsBarred IsFormed RefusesPage Stops
  Traverses copyTicks copyTicks_eq_first_add isPageAligned_add_first
  logicalPage? logicalPage?_eq_of_view? pager view?)

variable {origin state middle after : Hosted UserRead}
  {address offset length passed copied more ticks : Nat}
  {error : PagingError} {bytes : List UInt8}

/-- A part of the buffer was filled from user memory, which shows what it
showed. -/
structure Fetches (origin state : Hosted UserRead)
    (address offset passed : Nat) : Prop where
  view? : view? (source state) = AddressSpace.view? (source origin)
  fills : FlatMemory.Fills (logicalPage? (source origin)) address offset passed
    origin.focus.buffer state.focus.buffer

theorem Fetches.logicalPage? (fetches : Fetches origin state address offset
    passed) : logicalPage? (source state) =
      AddressSpace.logicalPage? (source origin) :=
  logicalPage?_eq_of_view? fetches.view?

theorem Fetches.refl (state : Hosted UserRead) (address offset : Nat) :
    Fetches state state address offset 0 :=
  ⟨rfl, .refl ..⟩

theorem Fetches.trans (first : Fetches origin middle address offset passed)
    (second : Fetches middle state (address + passed) (offset + passed)
      more) : Fetches origin state address offset (passed + more) where
  view? := second.view?.trans first.view?
  fills := by
    have fills := second.fills
    rw [first.logicalPage?] at fills
    exact first.fills.trans fills

/-- The part of the buffer for the first page was filled, and the rest. -/
theorem Fetches.of_first
    (first : Fetches origin middle address offset (Span.first address length))
    (rest : Fetches middle state (address + Span.first address length)
      (offset + Span.first address length)
      (length - Span.first address length)) :
    Fetches origin state address offset length := by
  have whole := first.trans rest
  rwa [Nat.add_sub_cancel' (Span.first_le address length)] at whole

/-- The bytes of one run were read for the buffer, and nothing was put there
yet. -/
structure ReadsRun (state after : Hosted UserRead) (address length : Nat)
    (bytes : List UInt8) : Prop where
  buffer : after.focus.buffer = state.focus.buffer
  view? : view? (source after) = AddressSpace.view? (source state)
  size : bytes.length = length
  reads : FlatMemory.Reads (AddressSpace.logicalPage? (source state)) address
    bytes
  traverses : ∀ count, 0 < count → count ≤ length →
    Traverses (source state) (source after) false address count
      ((pager (source state)).turns + 1)

/-- The bytes of one run are read, or the copy is refused its page. -/
theorem readsRun_readRun (formed : IsFormed (source state))
    (inPage : Address.pageOffset address + length ≤ pageSize) :
    ((inSpace (AddressSpace.readRun ⟨address, length⟩)).run state).Meets
      (CopyEnds (source state) ((pager (source state)).turns + 1))
      (fun bytes after => ReadsRun state after address length bytes)
      (fun error after => after.focus.buffer = state.focus.buffer ∧
        RefusesPage (source state) (source after) false address error) := by
  refine Action.meets_zoom_iff.mpr
    ((AddressSpace.meets_readRun_of_isFormed formed inPage).mono ?_
      fun _ _ refuses => ⟨rfl, refuses⟩)
  rintro bytes after ⟨allowed, carries, sameView, size, reads⟩
  exact ⟨rfl, sameView, size, reads, fun count positive le =>
    .of_page carries allowed positive (by omega)⟩

namespace ReadsRun

variable (run : ReadsRun state middle address length bytes)

include run

/-- The first `count` bytes that were read are put into the buffer. -/
theorem fetches_take {count : Nat} (le : count ≤ length)
    (fits : offset + count ≤ state.focus.buffer.size) :
    Fetches state (filled middle offset (bytes.take count)) address offset
      count where
  view? := run.view?
  fills := by
    have taken : (bytes.take count).length = count :=
      List.length_take_of_le (run.size ▸ le)
    have fills := (run.reads.take count).fills
      (taken.symm ▸ fits : offset + (bytes.take count).length ≤ _)
    change FlatMemory.Fills _ _ _ _ _
      (Bytes.overwrite middle.focus.buffer offset (bytes.take count))
    rw [run.buffer]
    rwa [taken] at fills

theorem fetches (fits : offset + length ≤ state.focus.buffer.size) :
    Fetches state (filled middle offset bytes) address offset length := by
  have whole := run.fetches_take (Nat.le_refl length) fits
  rwa [List.take_of_length_le (Nat.le_of_eq run.size)] at whole

/-- Behind the run the space is as good as before, and the rest of the range
fits the rest of the buffer. -/
theorem rest {whole : Nat} (positive : 0 < length) (le : length ≤ whole)
    (fits : offset + whole ≤ state.focus.buffer.size) :
    IsFormed (source (filled middle offset bytes)) ∧
      (pager (source (filled middle offset bytes))).turns =
        (pager (source state)).turns ∧
      offset + length + (whole - length) ≤
        (filled middle offset bytes).focus.buffer.size := by
  have carries := (run.traverses _ positive (Nat.le_refl _)).carries
  refine ⟨carries.formed, carries.turns, ?_⟩
  rw [(run.fetches (Nat.le_trans (Nat.add_le_add_left le offset)
    fits)).fills.size]
  omega

end ReadsRun

/-- A copy that is refused its page has not touched the buffer. -/
theorem Fetches.of_refusesPage
    (sameBuffer : after.focus.buffer = state.focus.buffer)
    (refuses : RefusesPage (source state) (source after) false address
      error) : Fetches state after address offset 0 where
  view? := refuses.view?
  fills := sameBuffer ▸ .refl ..

/-- The buffer is filled as far as the range reaches, or as far as the page
where the copy stops. -/
theorem fetches_fillRuns (formed : IsFormed (source state))
    (address offset : Nat) (fits : offset + length ≤ state.focus.buffer.size) :
    ((fillRuns offset (Span.runs address length)).run state).Meets
      (CopyEnds (source state)
        (copyTicks address length (pager (source state)).turns))
      (fun _ after =>
        Traverses (source state) (source after) false address length
          (copyTicks address length (pager (source state)).turns) ∧
        Fetches state after address offset length)
      (fun error after => ∃ copied,
        Stops (source state) (source after) false address length
          (copyTicks address length (pager (source state)).turns) error
          copied ∧
        Fetches state after address offset copied) := by
  induction length using Nat.strongRecOn
    generalizing state address offset with
  | ind length ih =>
      by_cases isEmpty : length = 0
      · subst isEmpty
        exact ⟨(Traverses.refl formed false address).weaken (Nat.zero_le _),
          .refl ..⟩
      have positive : 0 < length := Nat.pos_of_ne_zero isEmpty
      have firstLe := Span.first_le address length
      have firstPos := Span.first_pos address positive
      rw [Span.runs_of_pos positive, fillRuns,
        copyTicks_eq_first_add positive]
      refine Action.meets_bind (((readsRun_readRun formed
        (Span.pageOffset_add_first_le address length)).mono_failed
          fun error after refused => ?_).mono_fatal
            fun _ ends => ends.mono (Nat.le_add_right _ _)) ?_
      · exact ⟨0, .of_refusesPage refused.2 positive (Nat.le_add_right _ _),
          .of_refusesPage refused.1 refused.2⟩
      intro bytes middle run
      have traverses := run.traverses _ firstPos (Nat.le_refl _)
      have fetches := run.fetches
        (by omega : offset + Span.first address length ≤ _)
      obtain ⟨formedRest, turns, room⟩ := run.rest firstPos firstLe fits
      have rest := ih (length - Span.first address length) (by omega)
        formedRest (address + Span.first address length)
        (offset + Span.first address length) room
      rw [turns] at rest
      rw [Action.run_bind_of_done (run_fill bytes)]
      refine (rest.mono (fun _ after done => ?_)
        fun error after stopped => ?_).mono_fatal
          fun _ ends => ends.of_carries traverses.carries
      · exact ⟨traverses.of_first done.1, fetches.of_first done.2⟩
      · obtain ⟨copied, stops, fetchesRest⟩ := stopped
        exact ⟨_, .of_first traverses stops, fetches.trans fetchesRest⟩

/-- A string is copied with the zero that ends it, or there is no zero in the
range, or none before the page where the copy stops. -/
theorem fetches_fillString (formed : IsFormed (source state))
    (address offset : Nat) (fits : offset + length ≤ state.focus.buffer.size) :
    ((fillString offset (Span.runs address length)).run state).Meets
      (CopyEnds (source state)
        (copyTicks address length (pager (source state)).turns))
      (fun found after => (∃ count, found = some (offset + count) ∧
          count < length ∧
          EndsAt (logicalPage? (source state)) address count ∧
          Traverses (source state) (source after) false address (count + 1)
            (copyTicks address length (pager (source state)).turns) ∧
          Fetches state after address offset (count + 1)) ∨
        found = none ∧
          IsZeroFree (logicalPage? (source state)) address length ∧
          Traverses (source state) (source after) false address length
            (copyTicks address length (pager (source state)).turns) ∧
          Fetches state after address offset length)
      (fun error after => ∃ copied,
        IsZeroFree (logicalPage? (source state)) address copied ∧
        Stops (source state) (source after) false address length
          (copyTicks address length (pager (source state)).turns) error
          copied ∧
        Fetches state after address offset copied) := by
  induction length using Nat.strongRecOn
    generalizing state address offset with
  | ind length ih =>
      by_cases isEmpty : length = 0
      · subst isEmpty
        exact .inr ⟨rfl, fun _ less => absurd less (Nat.not_lt_zero _),
          (Traverses.refl formed false address).weaken (Nat.zero_le _),
          .refl ..⟩
      have positive : 0 < length := Nat.pos_of_ne_zero isEmpty
      have firstLe := Span.first_le address length
      have firstPos := Span.first_pos address positive
      rw [Span.runs_of_pos positive, fillString,
        copyTicks_eq_first_add positive]
      refine Action.meets_bind (((readsRun_readRun formed
        (Span.pageOffset_add_first_le address length)).mono_failed
          fun error after refused => ?_).mono_fatal
            fun _ ends => ends.mono (Nat.le_add_right _ _)) ?_
      · exact ⟨0, fun _ less => absurd less (Nat.not_lt_zero _),
          .of_refusesPage refused.2 positive (Nat.le_add_right _ _),
          .of_refusesPage refused.1 refused.2⟩
      intro bytes middle run
      have size := run.size
      cases search : bytes.findIdx? (· == 0) with
      | some last =>
          obtain ⟨inside, endsAt⟩ := endsAt_of_findIdx? run.reads search
          dsimp only
          rw [Action.run_bind_of_done (run_fill _)]
          exact .inl ⟨last, rfl, by omega, endsAt,
            (run.traverses _ (Nat.succ_pos last) (by omega)).weaken
              (Nat.le_add_right _ _),
            run.fetches_take (by omega) (by omega)⟩
      | none =>
          have free := isZeroFree_of_findIdx? run.reads search
          have traverses := run.traverses _ firstPos (Nat.le_refl _)
          have fetches := run.fetches
            (by omega : offset + Span.first address length ≤ _)
          obtain ⟨formedRest, turns, room⟩ := run.rest firstPos firstLe fits
          have rest := ih (length - Span.first address length) (by omega)
            formedRest (address + Span.first address length)
            (offset + Span.first address length) room
          rw [turns, fetches.logicalPage?] at rest
          rw [size] at free
          dsimp only
          rw [Action.run_bind_of_done (run_fill bytes)]
          refine (rest.mono (fun found after done => ?_)
            fun error after stopped => ?_).mono_fatal
              fun _ ends => ends.of_carries traverses.carries
          · obtain ⟨count, rfl, less, endsAt, traversesRest, fetchesRest⟩ |
              ⟨rfl, freeRest, traversesRest, fetchesRest⟩ := done
            · refine .inl ⟨Span.first address length + count, ?_, by omega,
                .of_isZeroFree free endsAt, ?_, ?_⟩
              · rw [Nat.add_assoc]
              · exact traverses.trans traversesRest
              · exact fetches.trans fetchesRest
            · have noZero := free.append freeRest
              rw [Nat.add_sub_cancel' firstLe] at noZero
              exact .inr ⟨rfl, noZero, traverses.of_first traversesRest,
                fetches.of_first fetchesRest⟩
          · obtain ⟨copied, freeRest, stops, fetchesRest⟩ := stopped
            exact ⟨_, free.append freeRest, .of_first traverses stops,
              fetches.trans fetchesRest⟩

end UserRead

end DemandPaging
