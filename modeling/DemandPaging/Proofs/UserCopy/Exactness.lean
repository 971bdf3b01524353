import DemandPaging.Proofs.AddressSpace.Runs
import DemandPaging.Proofs.UserCopy.Fetches

/-!
# What copies move, and where they stop

From any well-formed space, under paging or not, a copy moves exactly the bytes
before the first page that it may not use, and a copy of a string exactly those
as far as the first zero.  None of them ends the run unless the clock of the
queue runs out or a slot is too far.
-/

namespace DemandPaging

/-- A buffer to be filled from a space. -/
def UserRead.over (state : Hosted AddressSpace) (buffer : Array UInt8) :
    Hosted UserRead :=
  ⟨⟨state.focus, buffer⟩, state.host⟩

namespace AddressSpace

variable {state after : Hosted AddressSpace}
  {address length copied ticks bad : Nat} {isWrite : Bool}
  {error : PagingError}

/-- A copy of `length` bytes ended in `error` after the first `copied` bytes,
all of which it may use: the next one begins a page, if not the copy, and is
the first that the copy may not use, or its page could not be brought in. -/
structure Halts (state after : Hosted AddressSpace) (isWrite : Bool)
    (address length : Nat) (error : PagingError) (copied : Nat) : Prop where
  less : copied < length
  begins : copied = 0 ∨ Address.isPageAligned (address + copied) = true
  allowed : ∀ index, index < copied → ¬IsBarred state isWrite (address + index)
  isWord : address + copied < Word.limit
  reason : error = .badAddress (address + copied) ∧
      IsBarred state isWrite (address + copied) ∨
    IsShortfall state after error ∧
      ¬IsBarred state isWrite (address + copied) ∧ after.focus.IsPagedOut (Address.pageBase (address + copied))

theorem lt_addressLimit_of_not_isBarred
    (allowed : ¬IsBarred state isWrite address) : address < addressLimit := by
  have inside : Address.pageBase address < addressLimit :=
    Nat.lt_of_not_le fun outside => allowed (.inl outside)
  simp only [Address.pageBase, addressLimit, pageSize] at inside ⊢
  omega

theorem Traverses.add_le_addressLimit
    (traverses : Traverses state after isWrite address copied ticks)
    (positive : 0 < copied) : address + copied ≤ addressLimit := by
  have inside := lt_addressLimit_of_not_isBarred
    (traverses.allowed (copied - 1) (by omega))
  omega

theorem Traverses.add_lt_limit
    (traverses : Traverses state after isWrite address copied ticks)
    (isWord : address < Word.limit) : address + copied < Word.limit := by
  rcases Nat.eq_zero_or_pos copied with rfl | positive
  · exact isWord
  · have inside := traverses.add_le_addressLimit positive
    simp only [addressLimit, Word.limit] at inside ⊢
    omega

theorem Stops.halts
    (stops : Stops state after isWrite address length ticks error copied)
    (isWord : address < Word.limit) :
    Halts state after isWrite address length error copied where
  less := stops.less
  begins := stops.begins
  allowed := stops.allowed
  isWord := stops.toTraverses.add_lt_limit isWord
  reason := stops.reason

/-- The clock has no more turns than pages that can be in memory. -/
theorem CopyEnds.of_turns {cause : Fatal}
    (ends : CopyEnds state (copyTicks address length (pager state).turns)
      cause) :
    CopyEnds state (copyTicks address length state.focus.ledger.maxResident)
      cause :=
  ends.mono (Nat.mul_le_mul_left _ (Nat.succ_le_succ (Nat.min_le_left _ _)))

theorem length_of_logicalPage? {page : LogicalPage}
    (shown : logicalPage? state address = some page) :
    page.bytes.length = pageSize := by
  rw [logicalPage?_eq] at shown
  exact Pager.length_bytes shown

/-- A copy is exact.  If it is done, it may use every page of its range, and
all bytes are where they belong.  If it fails, it has moved the bytes before
the one where it halts, and no others: if it names a bad address, this is the
first that the copy may not use, and otherwise a frame or a transfer was
wanting where it halts. -/
theorem copies_exactly (wellFormed : WellFormed state)
    (isWord : address < Word.limit) :
    (∀ bytes : List UInt8, ((copyOut address bytes).run state).Meets
      (CopyEnds state
        (copyTicks address bytes.length state.focus.ledger.maxResident))
      (fun _ after =>
        (∀ index, index < bytes.length →
          ¬IsBarred state true (address + index)) ∧
        (0 < bytes.length → address + bytes.length ≤ addressLimit) ∧
        logicalPage? after =
          FlatMemory.written (logicalPage? state) address bytes ∧
        FlatMemory.Reads (logicalPage? after) address bytes)
      (fun error after => ∃ copied,
        Halts state after true address bytes.length error copied ∧
        logicalPage? after = FlatMemory.written (logicalPage? state) address
          (bytes.take copied) ∧
        FlatMemory.Reads (logicalPage? after) address (bytes.take copied))) ∧
    ∀ buffer : Array UInt8,
      ((UserRead.copyIn address).run (UserRead.over state buffer)).Meets
        (CopyEnds state
          (copyTicks address buffer.size state.focus.ledger.maxResident))
        (fun _ after =>
          (∀ index, index < buffer.size →
            ¬IsBarred state false (address + index)) ∧
          (0 < buffer.size → address + buffer.size ≤ addressLimit) ∧
          logicalPage? (UserRead.source after) = logicalPage? state ∧
          after.focus.buffer.size = buffer.size ∧
          FlatMemory.Reads (logicalPage? state) address
            after.focus.buffer.toList)
        (fun error after => ∃ copied,
          Halts state (UserRead.source after) false address buffer.size error
            copied ∧
          logicalPage? (UserRead.source after) = logicalPage? state ∧
          FlatMemory.Fills (logicalPage? state) address 0 copied buffer
            after.focus.buffer) := by
  have formed := wellFormed.isFormed
  have whole : ∀ other page, logicalPage? state other = some page →
      page.bytes.length = pageSize := fun _ _ => length_of_logicalPage?
  refine ⟨fun bytes => ?_, fun buffer => ?_⟩
  · refine ((traverses_copyOut formed address bytes).mono ?_ ?_).mono_fatal
      fun _ ends => ends.of_turns
    · rintro _ after ⟨traverses, receives⟩
      exact ⟨traverses.allowed, traverses.add_le_addressLimit,
        receives.eq_written, receives.reads whole⟩
    · rintro error after ⟨copied, stops, receives⟩
      exact ⟨copied, stops.halts isWord, receives.eq_written,
        receives.reads whole⟩
  · have looked : (Action.read Hosted.focus : ReadAction UserRead).run
        (UserRead.over state buffer) = .done ⟨state.focus, buffer⟩
          (UserRead.over state buffer) := rfl
    have origin : IsFormed (UserRead.source (UserRead.over state buffer)) :=
      formed
    have fits : 0 + buffer.size ≤
        (UserRead.over state buffer).focus.buffer.size :=
      Nat.le_of_eq (Nat.zero_add _)
    rw [UserRead.copyIn, Action.run_bind_of_done looked]
    refine ((UserRead.fetches_fillRuns origin address 0 fits).mono ?_
      ?_).mono_fatal fun _ ends => ends.of_turns
    · rintro _ after ⟨traverses, fetches⟩
      have size : after.focus.buffer.size = buffer.size := fetches.fills.size
      refine ⟨traverses.allowed, traverses.add_le_addressLimit,
        fetches.logicalPage?, size, fun index less => ?_⟩
      rw [Array.length_toList, size] at less
      have filled := fetches.fills.inside index less
      rw [Nat.zero_add] at filled
      rw [Array.getElem?_toList]
      exact filled.symm
    · rintro error after ⟨copied, stops, fetches⟩
      exact ⟨copied, stops.halts isWord, fetches.logicalPage?, fetches.fills⟩

/-- Of three bytes the third is beyond the only page. -/
theorem copies_exactly_of_one_page : ∃ state : Hosted AddressSpace,
    WellFormed state ∧ 4094 < Word.limit ∧
    ∃ after, (copyOut 4094 [7, 8, 9]).run state =
        .failed (.badAddress 4096) after ∧
      IsBarred state true 4096 ∧
      FlatMemory.Reads (logicalPage? after) 4094 [7, 8] := by
  have computed : leadsThrough
      (fun _ => (copyOut 4094 [7, 8, 9]).failsWith (.badAddress 4096))
      [.grow pageSize { write := true }] 0 ⟨smallSpace, smallHost⟩ = true := by
    decide +kernel
  obtain ⟨_, _, state, runs, _, fails⟩ :=
    (Runs.new isNew_small).exists_of_leadsThrough computed
  obtain ⟨after, fails⟩ := Action.exists_of_failsWith fails
  have wellFormed : WellFormed state := runs.inOrder.wellFormed
  obtain ⟨meets, _⟩ :=
    copies_exactly wellFormed (by decide : 4094 < Word.limit)
  have ended := meets [7, 8, 9]
  rw [fails] at ended
  obtain ⟨copied, halts, _, reads⟩ := ended
  obtain ⟨same, barred⟩ | ⟨shortfall, _⟩ := halts.reason
  · injection same with same
    obtain rfl : copied = 2 := by omega
    exact ⟨state, wellFormed, by decide, after, fails, barred, reads⟩
  · exact absurd shortfall not_isShortfall_badAddress

/-- The string at `address` has `count` bytes before its zero, all of which,
and the zero, a copy into `room` bytes may use and has room for. -/
structure HasString (state : Hosted AddressSpace) (address room count : Nat) :
    Prop where
  less : count < room
  endsAt : UserRead.EndsAt (logicalPage? state) address count
  allowed : ∀ index, index ≤ count → ¬IsBarred state false (address + index)

/-- The first byte that a copy into `room` bytes may not use is `bad` bytes from
`address`, and no byte before is zero. -/
structure IsCutOff (state : Hosted AddressSpace) (address room bad : Nat) :
    Prop where
  less : bad < room
  isBarred : IsBarred state false (address + bad)
  allowed : ∀ index, index < bad → ¬IsBarred state false (address + index)
  noZero : UserRead.IsZeroFree (logicalPage? state) address bad

/-- There are more bytes than `room` before the first zero, and a copy may use
these. -/
structure IsTooLong (state : Hosted AddressSpace) (address room : Nat) :
    Prop where
  allowed : ∀ index, index < room → ¬IsBarred state false (address + index)
  noZero : UserRead.IsZeroFree (logicalPage? state) address room

theorem HasString.count_unique {room count other : Nat}
    (first : HasString state address room count)
    (second : HasString state address room other) : count = other := by
  rcases Nat.lt_trichotomy count other with less | same | more
  · exact absurd first.endsAt.isZero (second.endsAt.noZero count less)
  · exact same
  · exact absurd second.endsAt.isZero (first.endsAt.noZero other more)

theorem IsCutOff.bad_unique {room other : Nat}
    (first : IsCutOff state address room bad)
    (second : IsCutOff state address room other) : bad = other := by
  rcases Nat.lt_trichotomy bad other with less | same | more
  · exact absurd first.isBarred (second.allowed bad less)
  · exact same
  · exact absurd second.isBarred (first.allowed other more)

theorem HasString.not_isCutOff {room count : Nat}
    (has : HasString state address room count) :
    ¬IsCutOff state address room bad := by
  intro cut
  rcases Nat.lt_or_ge count bad with less | late
  · exact cut.noZero count less has.endsAt.isZero
  · exact has.allowed bad late cut.isBarred

theorem isTooLong_iff {room : Nat} : IsTooLong state address room ↔
    (¬∃ count, HasString state address room count) ∧
      ¬∃ bad, IsCutOff state address room bad := by
  constructor
  · intro tooLong
    refine ⟨fun ⟨count, has⟩ => ?_, fun ⟨bad, cut⟩ => ?_⟩
    · exact tooLong.noZero count has.less has.endsAt.isZero
    · exact tooLong.allowed bad cut.less cut.isBarred
  · rintro ⟨noString, notCut⟩
    -- Byte by byte: the first that is barred or zero would cut the string off
    -- or end it.
    suffices clean : ∀ index, index < room →
        ¬IsBarred state false (address + index) ∧
          FlatMemory.byte? (logicalPage? state) (address + index) ≠ some 0 from
      ⟨fun index less => (clean index less).1,
        fun index less => (clean index less).2⟩
    intro index
    induction index using Nat.strongRecOn with
    | ind index ih =>
        intro less
        have before : ∀ other, other < index →
            ¬IsBarred state false (address + other) ∧
              FlatMemory.byte? (logicalPage? state) (address + other) ≠
                some 0 := fun other early =>
          ih other early (Nat.lt_trans early less)
        have allowed : ¬IsBarred state false (address + index) :=
          fun barred => notCut ⟨index, less, barred,
            fun other early => (before other early).1,
            fun other early => (before other early).2⟩
        refine ⟨allowed, fun isZero => noString ⟨index, less,
          ⟨isZero, fun other early => (before other early).2⟩,
          fun other upTo => ?_⟩⟩
        rcases Nat.eq_or_lt_of_le upTo with rfl | early
        · exact allowed
        · exact (before other early).1

/-- Pages beyond the one with the first zero are left alone by a copy that does
not pass it. -/
theorem Carries.undisturbed_beyond {last : Nat}
    (carries : Carries state after ticks address (address + copied))
    (early : copied ≤ last + 1) {other : Nat}
    (beyond : Address.pageBase (address + last) < Address.pageBase other) :
    Undisturbed state after other := by
  refine carries.undisturbed other fun used _ upTo same => ?_
  have later : Address.pageBase used ≤ Address.pageBase (address + last) := by
    simp only [Address.pageBase, pageSize]
    omega
  omega

/-- Nothing is wanting for pages in swap to come in: there is a frame for one more
page than can be in memory, and the device completes every transfer. -/
structure IsSupplied (state : Hosted AddressSpace) : Prop where
  frames : state.focus.isPaging = true →
    state.focus.ledger.maxResident < frameSupply state
  isReliable : state.focus.isPaging = true → state.focus.swap.IsReliable

/-- A copy is short of nothing where nothing was wanting at its start. -/
theorem IsSupplied.not_isShortfall {start stop : Nat}
    (supplied : IsSupplied state)
    (carries : Carries state after ticks start stop)
    (isPaging : state.focus.isPaging = true) :
    ¬IsShortfall state after error := by
  have reliable := supplied.isReliable isPaging
  rintro (⟨_, isEmpty⟩ | ⟨slot, inside, refuses⟩)
  · have ceiling : after.focus.ledger.residentCount ≤
        after.focus.ledger.maxResident :=
      (carries.formed.agrees.tracks
        (carries.setting.isPaging.trans isPaging)).residentCount_le
    have enough := supplied.frames isPaging
    rw [← carries.supply, frameSupply, isEmpty,
      ← carries.setting.maxResident] at enough
    omega
  · have fits : slot * pageSize + pageSize ≤ state.focus.swap.file.size := by
      have works : (SwapDevice.space
        ⟨state.focus.swap, state.host.transfers⟩).IsReliable := reliable
      exact SwapDevice.slot_fits works inside
    have completed : ∀ {left : Option Nat},
        ¬state.focus.swap.Refuses left slot error := by
      rintro left ⟨_, ⟨isMetered, _⟩ | outside⟩
      · cases reliable.unmetered.symm.trans isMetered
      · omega
    exact refuses.elim completed completed

/-- The page that holds `address`, which a copy may read, stayed in swap for want
of a frame or because a transfer failed. -/
structure StaysOut (state after : Hosted AddressSpace) (address : Nat)
    (error : PagingError) : Prop where
  shortfall : IsShortfall state after error
  unsupplied : ¬IsSupplied state
  allowed : ¬IsBarred state false address
  isPagedOut : after.focus.IsPagedOut (Address.pageBase address)

/-- A copy that stops short of a page stops because the page stayed in swap. -/
theorem Stops.staysOut
    (stops : Stops state after false address length ticks error copied)
    (shortfall : IsShortfall state after error)
    (allowed : ¬IsBarred state false (address + copied))
    (isPagedOut : after.focus.IsPagedOut
      (Address.pageBase (address + copied))) :
    StaysOut state after (address + copied) error where
  shortfall := shortfall
  unsupplied supplied := by
    have isOut := ((isPagedOut_iff after _).mp isPagedOut).2
    have isPaging := stops.carries.formed.isPaging_of_isPagedOut isOut
    exact supplied.not_isShortfall stops.carries
      (stops.carries.setting.isPaging.symm.trans isPaging) shortfall
  allowed := allowed
  isPagedOut := isPagedOut

/-- What a copy of a string leaves, however it ends: user code sees the memory
that it saw, the first `copied` bytes of the buffer are those at `address`, and
the others are as they were.  No page beyond the one with the first zero was
brought in or marked. -/
structure LeavesString (state : Hosted AddressSpace) (buffer : Array UInt8)
    (address copied : Nat) (after : Hosted UserRead) : Prop where
  logicalPage? : logicalPage? (UserRead.source after) =
    AddressSpace.logicalPage? state
  fills : FlatMemory.Fills (AddressSpace.logicalPage? state) address 0 copied
    buffer after.focus.buffer
  undisturbed : ∀ last,
    UserRead.EndsAt (AddressSpace.logicalPage? state) address last →
      ∀ other, Address.pageBase (address + last) < Address.pageBase other →
        Undisturbed state (UserRead.source after) other

/-- How a copy of a string ends and what it leaves. -/
theorem leavesString_copyInString (formed : IsFormed state)
    (isWord : address < Word.limit) (buffer : Array UInt8) :
    ((UserRead.copyInString address).run (UserRead.over state buffer)).Meets
      (CopyEnds state
        (copyTicks address buffer.size state.focus.ledger.maxResident))
      (fun count after => HasString state address buffer.size count ∧
        LeavesString state buffer address (count + 1) after)
      (fun error after =>
        (∃ bad, error = .badAddress (address + bad) ∧
          address + bad < Word.limit ∧
          IsCutOff state address buffer.size bad ∧
          LeavesString state buffer address bad after) ∨
        error = .unterminated buffer.size ∧
          IsTooLong state address buffer.size ∧
          LeavesString state buffer address buffer.size after ∨
        ∃ copied < buffer.size,
          StaysOut state (UserRead.source after) (address + copied) error ∧
          LeavesString state buffer address copied after) := by
  have looked : (Action.read Hosted.focus : ReadAction UserRead).run
      (UserRead.over state buffer) = .done ⟨state.focus, buffer⟩
        (UserRead.over state buffer) := rfl
  have origin : IsFormed (UserRead.source (UserRead.over state buffer)) :=
    formed
  have fits : 0 + buffer.size ≤
      (UserRead.over state buffer).focus.buffer.size :=
    Nat.le_of_eq (Nat.zero_add _)
  have leaves : ∀ {after : Hosted UserRead} {copied ticks : Nat},
      UserRead.Fetches (UserRead.over state buffer) after address 0 copied →
      Traverses state (UserRead.source after) false address copied ticks →
      (∀ last, UserRead.EndsAt (logicalPage? state) address last →
        copied ≤ last + 1) →
        LeavesString state buffer address copied after :=
    fun fetches traverses early => ⟨fetches.logicalPage?, fetches.fills,
      fun last endsAt _ beyond =>
        traverses.carries.undisturbed_beyond (early last endsAt) beyond⟩
  have noZero : ∀ {copied last : Nat},
      UserRead.IsZeroFree (logicalPage? state) address copied →
      UserRead.EndsAt (logicalPage? state) address last →
        copied ≤ last + 1 := by
    intro copied last free endsAt
    refine Nat.le_succ_of_le (Nat.le_of_not_lt fun less => ?_)
    exact free last less endsAt.isZero
  rw [UserRead.copyInString, Action.run_bind_of_done looked]
  refine (Action.meets_bind
    ((UserRead.fetches_fillString origin address 0 fits).mono_failed
      ?_) ?_).mono_fatal fun _ ends => ends.of_turns
  · rintro error after ⟨copied, free, stops, fetches⟩
    have left := leaves fetches stops.toTraverses fun _ => noZero free
    obtain ⟨rfl, barred⟩ | ⟨shortfall, allowed, isPagedOut⟩ := stops.reason
    · exact .inl ⟨copied, rfl, stops.toTraverses.add_lt_limit isWord,
        ⟨stops.less, barred, stops.allowed, free⟩, left⟩
    · exact .inr (.inr ⟨copied, stops.less,
        stops.staysOut shortfall allowed isPagedOut, left⟩)
  · rintro found after (⟨count, rfl, less, endsAt, traverses, fetches⟩ |
      ⟨rfl, free, traverses, fetches⟩)
    · rw [Nat.zero_add]
      refine ⟨⟨less, endsAt, fun index upTo => ?_⟩, ?_⟩
      · exact traverses.allowed index (Nat.lt_succ_of_le upTo)
      · refine leaves fetches traverses fun last ends => Nat.succ_le_succ
          (Nat.le_of_not_lt fun early => ?_)
        exact endsAt.noZero last early ends.isZero
    · exact .inr (.inl ⟨rfl, ⟨traverses.allowed, free⟩,
        leaves fetches traverses fun _ => noZero free⟩)

/-- A copy of a string finds the first zero.  It is short of a frame or a transfer
only at a page that it may use and that is in swap.  If nothing is wanting for
such pages, or at least the copy did not come to want it, and the clock does not
run out, then the length of the string is given exactly if the string ends in the
buffer's room before the first page that may not be used; the first address in
such a page is named exactly if it is in that range and no zero is before; and in
all other cases the string is too long, and the buffer is full of its first
bytes. -/
theorem copyInString_finds_first_zero (wellFormed : WellFormed state)
    (isWord : address < Word.limit) (buffer : Array UInt8) :
    ((UserRead.copyInString address).run (UserRead.over state buffer)).Meets
      (CopyEnds state
        (copyTicks address buffer.size state.focus.ledger.maxResident))
      (fun count after => HasString state address buffer.size count ∧
        LeavesString state buffer address (count + 1) after)
      (fun error after =>
        (∃ bad, error = .badAddress (address + bad) ∧
          address + bad < Word.limit ∧
          IsCutOff state address buffer.size bad ∧
          LeavesString state buffer address bad after) ∨
        error = .unterminated buffer.size ∧
          IsTooLong state address buffer.size ∧
          LeavesString state buffer address buffer.size after ∨
        ∃ copied < buffer.size,
          StaysOut state (UserRead.source after) (address + copied) error ∧
          LeavesString state buffer address copied after) ∧
    ((IsSupplied state ∨ ∀ error after, (UserRead.copyInString address).run
        (UserRead.over state buffer) = .failed error after →
          ¬IsShortfall state (UserRead.source after) error) →
      (∀ cause, ¬CopyEnds state
        (copyTicks address buffer.size state.focus.ledger.maxResident)
        cause) →
      (∀ count, (∃ after, (UserRead.copyInString address).run
          (UserRead.over state buffer) = .done count after) ↔
        HasString state address buffer.size count) ∧
      (∀ bad, (∃ after, (UserRead.copyInString address).run
          (UserRead.over state buffer) =
            .failed (.badAddress (address + bad)) after) ↔
        IsCutOff state address buffer.size bad) ∧
      ((∃ after, (UserRead.copyInString address).run
          (UserRead.over state buffer) =
            .failed (.unterminated buffer.size) after) ↔
        (¬∃ count, HasString state address buffer.size count) ∧
          ¬∃ bad, IsCutOff state address buffer.size bad)) := by
  have meets := leavesString_copyInString wellFormed.isFormed isWord buffer
  refine ⟨meets, fun provided inTime => ?_⟩
  rw [← isTooLong_iff]
  revert meets provided
  generalize (UserRead.copyInString address).run
    (UserRead.over state buffer) = outcome
  intro meets provided
  cases outcome with
  | fatal cause => exact absurd meets (inTime cause)
  | done count after =>
      have has := meets.1
      refine ⟨fun other => ⟨?_, fun otherHas => ?_⟩, fun bad => ?_, ?_⟩
      · rintro ⟨_, ⟨⟩⟩
        exact has
      · rw [has.count_unique otherHas]
        exact ⟨after, rfl⟩
      · exact iff_of_false (fun ⟨_, ended⟩ => nomatch ended) has.not_isCutOff
      · exact iff_of_false (fun ⟨_, ended⟩ => nomatch ended)
          fun tooLong => (isTooLong_iff.mp tooLong).1 ⟨count, has⟩
  | failed error after =>
      obtain ⟨bad, rfl, _, cut, _⟩ | ⟨rfl, tooLong, _⟩ | ⟨_, _, away, _⟩ := meets
      · refine ⟨fun count => ?_, fun other => ⟨?_, fun otherCut => ?_⟩, ?_⟩
        · exact iff_of_false (fun ⟨_, ended⟩ => nomatch ended)
            fun has => has.not_isCutOff cut
        · rintro ⟨_, ended⟩
          injection ended with sameError
          injection sameError with same
          rwa [Nat.add_left_cancel same] at cut
        · rw [cut.bad_unique otherCut]
          exact ⟨after, rfl⟩
        · exact iff_of_false (fun ⟨_, ended⟩ => nomatch ended)
            fun tooLong => (isTooLong_iff.mp tooLong).2 ⟨bad, cut⟩
      · obtain ⟨noString, notCut⟩ := isTooLong_iff.mp tooLong
        refine ⟨fun count => ?_, fun bad => ?_, fun _ => tooLong,
          fun _ => ⟨after, rfl⟩⟩
        · exact iff_of_false (fun ⟨_, ended⟩ => nomatch ended)
            fun has => noString ⟨count, has⟩
        · exact iff_of_false (fun ⟨_, ended⟩ => nomatch ended)
            fun cut => notCut ⟨bad, cut⟩
      · exact (provided.elim away.unsupplied fun none =>
          none _ _ rfl away.shortfall).elim

/-- The string of two bytes is in a page that left memory.  It is found where
there is room for its zero, and it is too long where there is none.  Another
string is cut off at the end of memory. -/
theorem copyInString_finds_first_zero_of_reshuffled :
    ∃ state : Hosted AddressSpace, WellFormed state ∧
      2 * pageSize + 5 < Word.limit ∧ IsSupplied state ∧
      state.focus.IsPagedOut (2 * pageSize) ∧
      (∃ after, (UserRead.copyInString (2 * pageSize + 5)).run
          (UserRead.over state #[1, 1, 1, 1]) = .done 2 after ∧
        HasString state (2 * pageSize + 5) 4 2 ∧
        after.focus.buffer = #[7, 8, 0, 1]) ∧
      (∃ after, (UserRead.copyInString (2 * pageSize + 5)).run
          (UserRead.over state #[1, 1]) = .failed (.unterminated 2) after) ∧
      ∃ after, (UserRead.copyInString (3 * pageSize)).run
          (UserRead.over state #[1, 1]) =
            .failed (.badAddress (3 * pageSize)) after ∧
        IsCutOff state (3 * pageSize) 2 0 := by
  have computed : leadsThrough (fun _ state =>
      decide (state.focus.ledger.maxResident < frameSupply state ∧
        state.focus.swap.isMetered = false ∧
        state.focus.swap.capacity = 1 ∧ pageSize ≤ state.focus.swap.file.size ∧
        state.focus.ledger.generation +
          copyTicks (2 * pageSize + 5) 4 state.focus.ledger.maxResident <
            Word.limit ∧
        state.focus.ledger.generation +
          copyTicks (3 * pageSize) 2 state.focus.ledger.maxResident <
            Word.limit ∧
        (state.focus.table.entryAt (2 * pageSize)).isPagedOut = true) &&
      (((UserRead.copyInString (2 * pageSize + 5)).yields
          (fun count after => decide (count = 2 ∧
            after.focus.buffer = #[7, 8, 0, 1]))
          (UserRead.over state #[1, 1, 1, 1])) &&
        ((UserRead.copyInString (2 * pageSize + 5)).failsWith (.unterminated 2)
            (UserRead.over state #[1, 1]) &&
          (UserRead.copyInString (3 * pageSize)).failsWith
            (.badAddress (3 * pageSize)) (UserRead.over state #[1, 1]))))
      reshuffle 0 ⟨smallSpace, smallHost⟩ = true := by
    decide +kernel
  obtain ⟨_, _, state, runs, _, computed⟩ :=
    (Runs.new isNew_small).exists_of_leadsThrough computed
  simp only [Bool.and_eq_true] at computed
  obtain ⟨facts, found, tooLong, cutOff⟩ := computed
  obtain ⟨frames, unmetered, slots, size, early, late, isOut⟩ :=
    of_decide_eq_true facts
  obtain ⟨_, filled, found, same⟩ := Action.exists_of_yields found
  obtain ⟨rfl, contents⟩ := of_decide_eq_true same
  obtain ⟨full, tooLong⟩ := Action.exists_of_failsWith tooLong
  obtain ⟨cut, cutOff⟩ := Action.exists_of_failsWith cutOff
  have wellFormed : WellFormed state := runs.inOrder.wellFormed
  have supplied : IsSupplied state :=
    ⟨fun _ => frames, fun _ => ⟨unmetered, by rwa [slots, Nat.one_mul]⟩⟩
  have inTime : ∀ {ticks : Nat},
      state.focus.ledger.generation + ticks < Word.limit →
        ∀ cause, ¬CopyEnds state ticks cause := by
    rintro ticks early cause (⟨_, _, _, late⟩ | ⟨_, slot, claimed, isFar⟩)
    · omega
    · have inside := SwapSpace.lt_capacity_of_isClaimed claimed
      rw [slots, Nat.lt_one_iff] at inside
      rw [inside] at isFar
      exact absurd isFar (by decide)
  obtain ⟨_, finds⟩ := copyInString_finds_first_zero wellFormed
    (by decide : 2 * pageSize + 5 < Word.limit) #[1, 1, 1, 1]
  obtain ⟨hasString, _⟩ := finds (.inl supplied) (inTime early)
  obtain ⟨_, cuts⟩ := copyInString_finds_first_zero wellFormed
    (by decide : 3 * pageSize < Word.limit) #[1, 1]
  obtain ⟨_, isCutOff, _⟩ := cuts (.inl supplied) (inTime late)
  exact ⟨state, wellFormed, by decide, supplied,
    (isPagedOut_iff state _).mpr ⟨by decide, isOut⟩,
    ⟨filled, found, (hasString 2).mp ⟨filled, found⟩, contents⟩,
    ⟨full, tooLong⟩, cut, cutOff, (isCutOff 0).mp ⟨cut, cutOff⟩⟩

end AddressSpace

end DemandPaging
