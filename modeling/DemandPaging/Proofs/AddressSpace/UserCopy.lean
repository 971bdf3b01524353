import DemandPaging.Proofs.AddressSpace.Faults
import DemandPaging.Proofs.AddressSpace.Unmapping
import DemandPaging.Proofs.Pager.Copies
import DemandPaging.UserCopy

/-!
# Copies to and from user memory

A copy may bring pages in, and evict others for them, between any two of its
runs.  User code sees nothing of this; it sees the bytes of a copy to user
memory, all of them or, if the copy fails, those of the pages before the one it
failed on.
-/

namespace DemandPaging

namespace AddressSpace

open Pager (Terms)

variable {Result : Type} {origin state middle after : Hosted AddressSpace}
  {terms : Terms} {time : Nat} {address length : Nat} {bytes : List UInt8}
  {failed : PagingError → Hosted AddressSpace → Prop}

/-- The page that holds `address` is in the frame `frame` with the contents
`contents`. -/
structure InFrame (state : Hosted AddressSpace) (address frame : Nat)
    (contents : Page) : Prop where
  isValid : ((pager state).entryAt address).isValid = true
  points : ((pager state).entryAt address).address = frame
  lent : (pager state).frames.contents? frame = some contents

/-- What is read of a frame is what is in memory at its page. -/
theorem InFrame.reads {frame : Nat} {contents : Page}
    (inFrame : InFrame state address frame contents)
    (inPage : Address.pageOffset address + length ≤ pageSize) :
    (contents.slice (Address.pageOffset address) length).length = length ∧
      FlatMemory.Reads (pager state).logicalPage? address
        (contents.slice (Address.pageOffset address) length) := by
  have lent := inFrame.lent
  rw [← inFrame.points] at lent
  have shown := Pager.logicalPage?_of_isValid inFrame.isValid lent
  have whole : (contents.slice (Address.pageOffset address) length).length =
      length := by
    rw [Page.slice, Bytes.length_slice, Vector.size_toArray]
    omega
  refine ⟨whole, fun index less => ?_⟩
  rw [whole] at less
  have within : Address.pageOffset address + index < pageSize := by omega
  rw [FlatMemory.byte?, Pager.logicalPage?_eq_of_pageBase_eq
      (Address.pageBase_add within), shown, Address.pageOffset_add within,
    Page.slice, Bytes.getElem?_slice, if_pos less, Vector.getElem?_toArray]
  exact Vector.getElem?_toList

/-- A page that a copy may use is brought into memory and marked. -/
theorem meets_userPage (isWrite : Bool)
    (ready : Ready terms (time + ((pager state).turns + 1)) none
      state) :
    ((userPage address isWrite).run state).Meets terms.fatal
      (fun frame after => Kept state terms time none after ∧
        ∃ contents, InFrame after address frame contents)
      (fun _ => Kept state terms time none) := by
  have kept : Kept state terms time none state :=
    (Kept.refl ready).weaken (Nat.le_add_right _ _)
  rw [userPage]
  refine Action.meets_failUnless_bind (fun _ => kept) fun inside => ?_
  rw [Action.run_bind_of_done (run_lookup_of_lt inside)]
  cases state.focus.table.get? (Address.pageBase address) with
  | none => exact kept
  | some entry =>
      rw [Action.run_bind_of_done (Action.run_orFail_some _ _ _)]
      refine Action.meets_failUnless_bind (fun _ => kept) fun _ => ?_
      refine Action.meets_bind_of (fun _ => Kept state terms time none)
        (Action.meets_runIf (fun _ => (meets_pageIn ready).mono_done
          fun _ _ done => done.1) fun _ => kept) ?_
      rintro _ middle kept
      rw [Action.run_bind_of_done (run_look _)]
      cases found : middle.focus.translate (Address.pageBase address) with
      | none => exact kept
      | some frame =>
          rw [Action.run_bind_of_done (Action.run_orFail_some _ _ _)]
          obtain ⟨isValid, points⟩ :
              ((pager middle).entryAt address).isValid = true ∧
                ((pager middle).entryAt address).address = frame := by
            rw [translate, PageTable.translate, if_pos inside,
              PageTable.get?_pageBase] at found
            cases held : middle.focus.table.get? address with
            | none =>
                rw [held] at found
                cases found
            | some entry =>
                rw [held] at found
                have here : (pager middle).entryAt address = entry :=
                  PageTable.entryAt_of_get? held
                dsimp only at found
                split at found
                · rename_i usable
                  cases found
                  rw [here]
                  exact ⟨(Bool.and_eq_true_iff.mp usable).1, rfl⟩
                · cases found
          obtain ⟨contents, lent⟩ := kept.ready.sound.framed address isValid
          rw [points] at lent
          refine Action.meets_bind ((meets_touch kept.ready isWrite
            (.inr inside)).mono_failed
              fun _ _ touched => kept.trans touched) ?_
          rintro _ after ⟨touched, table, becomes, marks⟩
          refine ⟨kept.trans touched, contents, ?_, ?_, ?_⟩
          · rw [becomes.parts]
            exact (marks address).isValid.trans isValid
          · rw [becomes.parts]
            exact (marks address).address.trans points
          · rw [becomes.parts]
            exact lent

/-- One run is written, or nothing is. -/
theorem meets_writeRun
    (ready : Ready terms (time + ((pager state).turns + 1)) none
      state)
    (inPage : Address.pageOffset address + bytes.length ≤ pageSize) :
    ((writeRun ⟨address, length⟩ bytes).run state).Meets terms.fatal
      (fun _ => Left state (fun before after =>
        before.Writes after address bytes) terms time)
      (fun _ => Kept state terms time none) := by
  rw [writeRun]
  refine Action.meets_bind (meets_userPage true ready) ?_
  rintro frame middle ⟨kept, contents, inFrame⟩
  have ready := kept.ready
  have lent := inFrame.lent
  rw [Action.run_bind_of_done (run_readFrame ready.served lent)]
  rw [← inFrame.points] at lent
  obtain ⟨frames, written, inOrder, writes⟩ :=
    ready.parts.writes inFrame.isValid lent inPage
  rw [inFrame.points] at written
  refine (meets_changeFrames ready.served written).mono_done
    fun _ after becomes => ?_
  exact ⟨ready.becomes becomes inOrder, kept.changes.becomes becomes
    fun keeps => .of_keeps_trans keeps writes⟩

/-- What a copy that failed has written: the bytes of the pages before the one
that it failed on. -/
def WrittenInPart (origin : Hosted AddressSpace) (address : Nat)
    (bytes : List UInt8) (terms : Terms) (time : Nat)
    (state : Hosted AddressSpace) : Prop :=
  ∃ copied, copied < bytes.length ∧
    (copied = 0 ∨ Address.isPageAligned (address + copied) = true) ∧
      Left origin (fun before after =>
        before.Writes after address (bytes.take copied)) terms time state

/-- The most that the clock advances in a copy. -/
def copyTicks (address length maxResident : Nat) : Nat :=
  (Span.runs address length).length * (maxResident + 1)

theorem copyTicks_of_pos (positive : 0 < length) (maxResident : Nat) :
    copyTicks address length maxResident =
      copyTicks (address + Span.first address length)
        (length - Span.first address length) maxResident +
          (maxResident + 1) := by
  rw [copyTicks, Span.runs_of_pos positive, List.length_cons, Nat.succ_mul,
    copyTicks]

/-- A copy of some bytes is a copy to the first page and a copy of the
rest. -/
theorem copyOut_of_pos (positive : 0 < bytes.length) :
    copyOut address bytes = (do
      writeRun ⟨address, Span.first address bytes.length⟩
        (bytes.take (Span.first address bytes.length))
      copyOut (address + Span.first address bytes.length)
        (bytes.drop (Span.first address bytes.length))) := by
  rw [copyOut, Span.runs_of_pos positive, writeRuns, copyOut,
    List.length_drop]

/-- A copy writes all its bytes, or those of whole pages before some page. -/
theorem meets_copyOut
    (ready : Ready terms (time + copyTicks address bytes.length
      (pager state).turns) none state) :
    ((copyOut address bytes).run state).Meets terms.fatal
      (fun _ => Left state (fun before after =>
        before.Writes after address bytes) terms time)
      (fun _ => WrittenInPart state address bytes terms time) := by
  induction count : bytes.length using Nat.strongRecOn
    generalizing state address bytes with
  | ind count ih =>
      subst count
      by_cases isEmpty : bytes.length = 0
      · obtain rfl := List.length_eq_zero_iff.mp isEmpty
        exact ⟨ready.weaken (Nat.le_add_right _ _), .refl state,
          .of_keeps (.refl _) _⟩
      · have positive : 0 < bytes.length := by omega
        have firstPos := Span.first_pos address positive
        have firstLe := Span.first_le address bytes.length
        have taken : (bytes.take
            (Span.first address bytes.length)).length =
              Span.first address bytes.length :=
          List.length_take_of_le firstLe
        have dropped : (bytes.drop
            (Span.first address bytes.length)).length =
              bytes.length - Span.first address bytes.length :=
          List.length_drop
        have inPage : Address.pageOffset address + (bytes.take
            (Span.first address bytes.length)).length ≤ pageSize := by
          rw [taken]
          exact Span.pageOffset_add_first_le address bytes.length
        rw [copyTicks_of_pos positive, ← Nat.add_assoc, ← dropped] at ready
        rw [copyOut_of_pos positive]
        refine Action.meets_bind ((meets_writeRun ready inPage).mono_failed
          fun _ after kept => ?_) ?_
        · refine ⟨0, positive, .inl rfl,
            kept.ready.weaken (Nat.le_add_right _ _), ?_⟩
          exact kept.changes.mono fun keeps => .of_keeps keeps _
        rintro _ middle ⟨readyMiddle, first⟩
        have sameCeiling := first.parts.shape.turns
        rw [← sameCeiling] at readyMiddle
        refine (ih _ (by omega) readyMiddle rfl).mono
          (fun _ after rest => ?_) ?_
        · exact ⟨rest.ready, first.trans rest.changes
            fun first rest => first.trans rest⟩
        · rintro _ after ⟨copied, less, boundary, rest⟩
          -- What follows the first page begins a page.
          have begins : Address.isPageAligned
              (address + Span.first address bytes.length) = true :=
            Address.isPageAligned_iff.mpr
              (Span.pageOffset_add_first (by omega))
          refine ⟨Span.first address bytes.length + copied, by omega, ?_,
            rest.ready, ?_⟩
          · right
            rcases boundary with rfl | boundary
            · exact begins
            · rw [← Nat.add_assoc]
              exact boundary
          · exact first.trans rest.changes
              fun first rest => first.trans_take rest

/-- The bytes of a run are read. -/
theorem meets_readRun
    (ready : Ready terms (time + ((pager state).turns + 1)) none
      state)
    (inPage : Address.pageOffset address + length ≤ pageSize) :
    ((readRun ⟨address, length⟩).run state).Meets terms.fatal
      (fun bytes after => Kept state terms time none after ∧
        bytes.length = length ∧
          FlatMemory.Reads (pager state).logicalPage? address bytes)
      (fun _ => Kept state terms time none) := by
  rw [readRun]
  refine Action.meets_bind (meets_userPage false ready) ?_
  rintro frame middle ⟨kept, contents, inFrame⟩
  rw [Action.run_bind_of_done
    (run_readFrame kept.ready.served inFrame.lent)]
  obtain ⟨whole, reads⟩ := inFrame.reads inPage
  have sameMemory : (pager middle).logicalPage? = (pager state).logicalPage? :=
    funext kept.changes.parts.logicalPage?
  rw [sameMemory] at reads
  exact ⟨kept, whole, reads⟩

end AddressSpace

namespace UserRead

open Pager (Terms)
open AddressSpace (pager Ready Kept copyTicks copyTicks_of_pos)

variable {Result : Type} {state : Hosted UserRead} {terms : Terms}
  {time : Nat} {address offset length : Nat}

/-- The space that a buffer is being filled from. -/
def source (state : Hosted UserRead) : Hosted AddressSpace :=
  ⟨state.focus.space, state.host⟩

/-- User code sees the memory it saw, and a part of the buffer is filled. -/
structure KeptFilled (origin : Hosted UserRead) (terms : Terms) (time : Nat)
    (address offset count : Nat) (state : Hosted UserRead) : Prop where
  kept : Kept (source origin) terms time none (source state)
  fills : FlatMemory.Fills (pager (source origin)).logicalPage? address offset
    count origin.focus.buffer state.focus.buffer

/-- A run is read for the buffer, which is not changed yet. -/
theorem meets_inSpace_readRun
    (ready : Ready terms
      (time + ((pager (source state)).turns + 1)) none
      (source state))
    (inPage : Address.pageOffset address + length ≤ pageSize) :
    ((inSpace (AddressSpace.readRun ⟨address, length⟩)).run state).Meets
      terms.fatal
      (fun bytes after => Kept (source state) terms time none (source after) ∧
        after.focus.buffer = state.focus.buffer ∧ bytes.length = length ∧
          FlatMemory.Reads (pager (source state)).logicalPage? address bytes)
      (fun _ after => Kept (source state) terms time none (source after)) :=
  Action.meets_zoom_iff.mpr ((AddressSpace.meets_readRun ready inPage).mono_done
    fun _ _ done => ⟨done.1, rfl, done.2⟩)

/-- The state once bytes are put into the buffer. -/
def filled (state : Hosted UserRead) (offset : Nat) (bytes : List UInt8) :
    Hosted UserRead :=
  { state with focus := { state.focus with
    buffer := Bytes.overwrite state.focus.buffer offset bytes } }

theorem run_fill (bytes : List UInt8) :
    (fill offset bytes).run state = .done () (filled state offset bytes) :=
  rfl

theorem KeptFilled.trans {origin middle : Hosted UserRead}
    {more count further : Nat}
    (first : KeptFilled origin terms more address offset count middle)
    (second : KeptFilled middle terms time (address + count)
      (offset + count) further state) :
    KeptFilled origin terms time address offset (count + further) state where
  kept := first.kept.trans second.kept
  fills := by
    have sameMemory : (pager (source middle)).logicalPage? =
        (pager (source origin)).logicalPage? :=
      funext first.kept.changes.parts.logicalPage?
    have fills := second.fills
    rw [sameMemory] at fills
    exact first.fills.trans fills

/-- A run that was read is put into the buffer. -/
theorem KeptFilled.of_reads {middle : Hosted UserRead} {bytes : List UInt8}
    (kept : Kept (source state) terms time none (source middle))
    (sameBuffer : middle.focus.buffer = state.focus.buffer)
    (reads : FlatMemory.Reads (pager (source state)).logicalPage? address
      bytes)
    (fits : offset + bytes.length ≤ state.focus.buffer.size) :
    KeptFilled state terms time address offset bytes.length
      (filled middle offset bytes) where
  kept := kept
  fills := by
    change FlatMemory.Fills _ _ _ _ _
      (Bytes.overwrite middle.focus.buffer offset bytes)
    rw [sameBuffer]
    exact reads.fills fits

/-- What is left of the buffer and of the time is enough for what is left of the
range. -/
theorem KeptFilled.ready_rest {middle : Hosted UserRead} {first : Nat}
    (started : KeptFilled state terms
      (time + copyTicks (address + first) (length - first)
        (pager (source state)).turns) address offset first middle)
    (fits : offset + length ≤ state.focus.buffer.size)
    (le : first ≤ length) :
    Ready terms (time + copyTicks (address + first) (length - first)
        (pager (source middle)).turns) none (source middle) ∧
      offset + first + (length - first) ≤ middle.focus.buffer.size := by
  have ready := started.kept.ready
  rw [← started.kept.changes.parts.shape.turns] at ready
  refine ⟨ready, ?_⟩
  rw [started.fills.size]
  omega

/-- The buffer is filled as far as the range reaches. -/
theorem meets_fillRuns
    (ready : Ready terms (time + copyTicks address length
      (pager (source state)).turns) none (source state))
    (fits : offset + length ≤ state.focus.buffer.size) :
    ((fillRuns offset (Span.runs address length)).run state).Meets terms.fatal
      (fun _ => KeptFilled state terms time address offset length)
      (fun _ after => Kept (source state) terms time none (source after)) := by
  induction length using Nat.strongRecOn
    generalizing state address offset with
  | ind length ih =>
      by_cases isEmpty : length = 0
      · subst isEmpty
        exact ⟨(Kept.refl ready).weaken (Nat.le_add_right _ _), .refl ..⟩
      · have positive : 0 < length := by omega
        have firstPos := Span.first_pos address positive
        have firstLe := Span.first_le address length
        rw [copyTicks_of_pos positive, ← Nat.add_assoc] at ready
        rw [Span.runs_of_pos positive, fillRuns]
        refine Action.meets_bind ((meets_inSpace_readRun ready
          (Span.pageOffset_add_first_le address length)).mono_failed
            fun _ _ kept => kept.weaken (Nat.le_add_right _ _)) ?_
        rintro bytes middle ⟨kept, sameBuffer, count, reads⟩
        have first := KeptFilled.of_reads kept sameBuffer reads
          (by omega : offset + bytes.length ≤ state.focus.buffer.size)
        rw [count] at first
        rw [Action.run_bind_of_done (run_fill bytes)]
        obtain ⟨readyRest, room⟩ := first.ready_rest fits firstLe
        refine (ih _ (by omega) readyRest room).mono
          (fun _ after rest => ?_)
          fun _ _ failed => first.kept.trans failed
        have whole := first.trans rest
        rw [Nat.add_sub_cancel' firstLe] at whole
        exact whole

/-- A copy from user memory fills the whole buffer. -/
theorem meets_copyIn
    (ready : Ready terms (time + copyTicks address state.focus.buffer.size
      (pager (source state)).turns) none (source state)) :
    ((copyIn address).run state).Meets terms.fatal
      (fun _ => KeptFilled state terms time address 0
        state.focus.buffer.size)
      (fun _ after => Kept (source state) terms time none (source after)) := by
  have looked : (Action.read Hosted.focus : ReadAction UserRead).run state =
      .done state.focus state := rfl
  rw [copyIn, Action.run_bind_of_done looked]
  exact meets_fillRuns ready (Nat.le_of_eq (Nat.zero_add _))

/-- The first zero at or after `address` is `count` bytes on. -/
structure EndsAt (memory : FlatMemory) (address count : Nat) : Prop where
  isZero : memory.byte? (address + count) = some 0
  noZero : ∀ index, index < count → memory.byte? (address + index) ≠ some 0

/-- No byte of memory from `address` on is zero before the one at `length`. -/
def IsZeroFree (memory : FlatMemory) (address length : Nat) : Prop :=
  ∀ index, index < length → memory.byte? (address + index) ≠ some 0

section Zeros

variable {memory : FlatMemory} {count further : Nat} {bytes : List UInt8}

theorem IsZeroFree.append (free : IsZeroFree memory address count)
    (freeRest : IsZeroFree memory (address + count) further) :
    IsZeroFree memory address (count + further) := by
  intro index less
  by_cases isEarly : index < count
  · exact free index isEarly
  · have later := freeRest (index - count) (by omega)
    have position : address + count + (index - count) = address + index := by
      omega
    rwa [position] at later

theorem EndsAt.of_isZeroFree (free : IsZeroFree memory address count)
    (endsAt : EndsAt memory (address + count) further) :
    EndsAt memory address (count + further) where
  isZero := by
    rw [← Nat.add_assoc]
    exact endsAt.isZero
  noZero := free.append endsAt.noZero

theorem endsAt_of_findIdx? (reads : FlatMemory.Reads memory address bytes)
    (search : bytes.findIdx? (· == 0) = some count) :
    count < bytes.length ∧ EndsAt memory address count := by
  obtain ⟨inside, isZero, before⟩ :=
    List.findIdx?_eq_some_iff_getElem.mp search
  refine ⟨inside, ?_, fun index less => ?_⟩
  · rw [reads count inside, List.getElem?_eq_getElem inside]
    exact congrArg some (beq_iff_eq.mp isZero)
  · have within : index < bytes.length := Nat.lt_trans less inside
    rw [reads index within, List.getElem?_eq_getElem within]
    intro same
    exact before index less (beq_iff_eq.mpr (Option.some.inj same))

theorem isZeroFree_of_findIdx? (reads : FlatMemory.Reads memory address bytes)
    (search : bytes.findIdx? (· == 0) = none) :
    IsZeroFree memory address bytes.length := by
  intro index less
  rw [reads index less, List.getElem?_eq_getElem less]
  intro same
  have absent := List.findIdx?_eq_none_iff.mp search _ (List.getElem_mem less)
  rw [Option.some.inj same] at absent
  cases absent

end Zeros

/-- A string is copied with the zero that ends it, or there is none. -/
theorem meets_fillString
    (ready : Ready terms (time + copyTicks address length
      (pager (source state)).turns) none (source state))
    (fits : offset + length ≤ state.focus.buffer.size) :
    ((fillString offset (Span.runs address length)).run state).Meets
      terms.fatal
      (fun found after =>
        Kept (source state) terms time none (source after) ∧
          ∀ last, found = some last → ∃ count, last = offset + count ∧
            EndsAt (pager (source state)).logicalPage? address count ∧
            FlatMemory.Fills (pager (source state)).logicalPage? address
              offset (count + 1) state.focus.buffer after.focus.buffer)
      (fun _ after => Kept (source state) terms time none (source after)) := by
  induction length using Nat.strongRecOn
    generalizing state address offset with
  | ind length ih =>
      by_cases isEmpty : length = 0
      · subst isEmpty
        exact ⟨(Kept.refl ready).weaken (Nat.le_add_right _ _),
          fun _ impossible => nomatch impossible⟩
      · have positive : 0 < length := by omega
        have firstPos := Span.first_pos address positive
        have firstLe := Span.first_le address length
        rw [copyTicks_of_pos positive, ← Nat.add_assoc] at ready
        rw [Span.runs_of_pos positive, fillString]
        refine Action.meets_bind ((meets_inSpace_readRun ready
          (Span.pageOffset_add_first_le address length)).mono_failed
            fun _ _ kept => kept.weaken (Nat.le_add_right _ _)) ?_
        rintro bytes middle ⟨kept, sameBuffer, count, reads⟩
        cases search : bytes.findIdx? (· == 0) with
        | some last =>
            obtain ⟨inside, endsAt⟩ := endsAt_of_findIdx? reads search
            have part := reads.take (last + 1)
            have taken : (bytes.take (last + 1)).length = last + 1 :=
              List.length_take_of_le inside
            have first := KeptFilled.of_reads kept sameBuffer part
              (by omega :
                offset + (bytes.take (last + 1)).length ≤
                  state.focus.buffer.size)
            rw [taken] at first
            dsimp only
            rw [Action.run_bind_of_done (run_fill _)]
            refine ⟨first.kept.weaken (Nat.le_add_right _ _), ?_⟩
            rintro _ ⟨⟩
            exact ⟨last, rfl, endsAt, first.fills⟩
        | none =>
            have free := isZeroFree_of_findIdx? reads search
            have first := KeptFilled.of_reads kept sameBuffer reads
              (by omega : offset + bytes.length ≤ state.focus.buffer.size)
            rw [count] at first free
            dsimp only
            rw [Action.run_bind_of_done (run_fill bytes)]
            obtain ⟨readyRest, room⟩ := first.ready_rest fits firstLe
            have sameMemory : (pager (source
                (filled middle offset bytes))).logicalPage? =
                  (pager (source state)).logicalPage? :=
              funext first.kept.changes.parts.logicalPage?
            refine (ih _ (by omega) readyRest room).mono ?_
              fun _ _ failed => first.kept.trans failed
            rintro found after ⟨rest, ends⟩
            refine ⟨first.kept.trans rest, fun last same => ?_⟩
            obtain ⟨further, rfl, endsAt, fills⟩ := ends last same
            rw [sameMemory] at endsAt fills
            refine ⟨Span.first address length + further, by omega,
              .of_isZeroFree free endsAt, ?_⟩
            rw [Nat.add_assoc]
            exact first.fills.trans fills

/-- A string that is copied ends in the first zero of user memory. -/
theorem meets_copyInString
    (ready : Ready terms (time + copyTicks address state.focus.buffer.size
      (pager (source state)).turns) none (source state)) :
    ((copyInString address).run state).Meets terms.fatal
      (fun count after =>
        Kept (source state) terms time none (source after) ∧
          EndsAt (pager (source state)).logicalPage? address count ∧
          FlatMemory.Fills (pager (source state)).logicalPage? address 0
            (count + 1) state.focus.buffer after.focus.buffer)
      (fun _ after => Kept (source state) terms time none (source after)) := by
  have looked : (Action.read Hosted.focus : ReadAction UserRead).run state =
      .done state.focus state := rfl
  rw [copyInString, Action.run_bind_of_done looked]
  refine Action.meets_bind (meets_fillString ready
    (Nat.le_of_eq (Nat.zero_add _))) ?_
  rintro found after ⟨kept, ends⟩
  cases found with
  | none => exact kept
  | some last =>
      obtain ⟨count, rfl, endsAt, fills⟩ := ends last rfl
      rw [Nat.zero_add]
      exact ⟨kept, endsAt, fills⟩

end UserRead

end DemandPaging
