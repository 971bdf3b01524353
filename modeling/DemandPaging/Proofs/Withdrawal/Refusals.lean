import DemandPaging.Proofs.PageFault
import DemandPaging.Proofs.Withdrawal.Tasks

/-!
# Pages without the user bit

User code cannot use a page that is not open to it: there is no translation, a
fault is denied, and a copy on behalf of user code fails when it gets there.  So
a copy is done only if every byte of its range is on a page that was open when
it began, as no page is opened on the way.  It makes no difference whether the
page is in memory or in swap.
-/

namespace DemandPaging

namespace AddressSpace

variable {First Second Result : Type} {state after later : Hosted AddressSpace}
  {address other offset length : Nat} {entry : Entry}

theorem isOpen_iff_of_pageBase_eq {table : PageTable}
    (samePage : Address.pageBase other = Address.pageBase address) :
    table.IsOpen other ↔ table.IsOpen address := by
  rw [PageTable.IsOpen, PageTable.IsOpen,
    PageTable.entryAt_eq_of_pageBase_eq samePage]

theorem translate_of_not_isOpen (closed : ¬state.focus.table.IsOpen address) :
    state.focus.translate address = none := by
  rw [translate, PageTable.translate]
  split
  · split
    · rename_i entry found
      rw [PageTable.IsOpen, PageTable.entryAt_of_get? found,
        Bool.not_eq_true] at closed
      simp [closed]
    · rfl
  · rfl

/-- A fault on such a page is denied, be the page in memory or in swap. -/
theorem run_resolveFault_of_not_isOpen (inside : address < addressLimit)
    (closed : ¬state.focus.table.IsOpen address) (access : Access) :
    (resolveFault address access).run state =
      .failed (.badAddress address)
        (faulted state (state.host.events.push (.denied access address))) := by
  have inPage : Address.pageBase address < addressLimit :=
    Nat.lt_of_le_of_lt (Address.pageBase_le address) inside
  have denies : resolveEntry address access
      (state.focus.table.get? (Address.pageBase address)) =
        denyAccess address access := by
    rw [PageTable.get?_pageBase]
    cases found : state.focus.table.get? address with
    | none => rfl
    | some entry =>
        rw [PageTable.IsOpen, PageTable.entryAt_of_get? found] at closed
        have refused : access.allowedBy entry.flags = false := by
          rw [← Bool.not_eq_true, Access.allowedBy_iff_isPermitted]
          exact fun permitted => closed permitted.1
        simp [resolveEntry, refused]
  rw [run_resolveFault_of_lt inPage, denies]
  rfl

theorem run_userPage_of_not_isOpen
    (closed : ¬state.focus.table.IsOpen address) (isWrite : Bool) :
    (userPage address isWrite).run state =
      .failed (.badAddress address) state := by
  rw [userPage]
  by_cases inPage : Address.pageBase address < addressLimit
  · rw [Action.run_bind_of_done
        (by rw [Action.run_failUnless, if_pos inPage]),
      Action.run_bind_of_done (run_lookup_of_lt inPage),
      PageTable.get?_pageBase]
    cases found : state.focus.table.get? address with
    | none => exact Action.run_bind_of_failed (Action.run_orFail_none _ _)
    | some entry =>
        rw [PageTable.IsOpen, PageTable.entryAt_of_get? found,
          Bool.not_eq_true] at closed
        have refused : ¬allowsCopy entry.flags isWrite = true := by
          simp [allowsCopy, closed]
        rw [Action.run_bind_of_done (Action.run_orFail_some _ _ _),
          Action.run_bind_of_failed
            (by rw [Action.run_failUnless, if_neg refused])]
  · rw [Action.run_bind_of_failed
      (by rw [Action.run_failUnless, if_neg inPage])]

theorem isOpen_of_lt_first {table : PageTable} {index : Nat}
    (isOpen : table.IsOpen address) (less : index < Span.first address length) :
    table.IsOpen (address + index) := by
  have inPage := Span.pageOffset_add_first_le address length
  have samePage : Address.pageBase (address + index) =
      Address.pageBase address :=
    Address.pageBase_add (by omega)
  exact (isOpen_iff_of_pageBase_eq samePage).mpr isOpen

/-- If the first page is open, and what lies behind it up to some place, then
all is open up to there. -/
theorem forall_isOpen_of_first {table : PageTable} {count : Nat}
    (isOpen : table.IsOpen address)
    (rest : ∀ index < count - Span.first address length,
      table.IsOpen (address + Span.first address length + index)) :
    ∀ index < count, table.IsOpen (address + index) := by
  intro index less
  by_cases inFirst : index < Span.first address length
  · exact isOpen_of_lt_first isOpen inFirst
  · have further := rest (index - Span.first address length) (by omega)
    rwa [Nat.add_assoc, Nat.add_sub_cancel' (Nat.le_of_not_lt inFirst)]
      at further

theorem Guarded.isOpen_of (guarded : Guarded state after)
    (isOpen : after.focus.table.IsOpen address) :
    state.focus.table.IsOpen address :=
  (guarded.isOpen address isOpen).resolve_left (Finset.notMem_empty _)

theorem isOpen_of_userPage {next : Nat → SpaceAction Result} {isWrite : Bool}
    {result : Result}
    (done : (userPage address isWrite >>= next).run state =
      .done result after) : state.focus.table.IsOpen address := by
  by_contra closed
  rw [Action.run_bind_of_failed (run_userPage_of_not_isOpen closed isWrite)]
    at done
  cases done

theorem isOpen_of_copyOut {bytes : List UInt8}
    (done : (copyOut address bytes).run state = .done () after) :
    ∀ index < bytes.length, state.focus.table.IsOpen (address + index) := by
  induction count : bytes.length using Nat.strongRecOn
    generalizing state address bytes with
  | ind count ih =>
      subst count
      by_cases isEmpty : bytes.length = 0
      · rw [isEmpty]
        exact nofun
      have positive : 0 < bytes.length := Nat.pos_of_ne_zero isEmpty
      have firstPos := Span.first_pos address positive
      rw [copyOut_of_pos positive] at done
      obtain ⟨_, middle, written, rest⟩ := Action.run_bind_eq_done_iff.mp done
      have guarded := (guards_writeRun _ _).of_done written
      have further := ih _ (by omega) rest List.length_drop
      apply forall_isOpen_of_first (isOpen_of_userPage written)
      exact fun index less => Guarded.isOpen_of guarded (further index less)

/-- A copy that begins at a page that is not open fails at once. -/
theorem run_copyOut_of_not_isOpen {bytes : List UInt8}
    (positive : 0 < bytes.length)
    (closed : ¬state.focus.table.IsOpen address) :
    (copyOut address bytes).run state =
      .failed (.badAddress address) state := by
  rw [copyOut_of_pos positive, writeRun, bind_assoc,
    Action.run_bind_of_failed (run_userPage_of_not_isOpen closed true)]

end AddressSpace

namespace UserRead

open AddressSpace (ReadGuarded forall_isOpen_of_first guards_fill
  guards_inSpace guards_readRun isOpen_of_lt_first isOpen_of_userPage)

variable {Result : Type} {state after : Hosted UserRead}
  {address offset length : Nat} {bytes : List UInt8}

theorem isOpen_of_guarded (guarded : ReadGuarded state after)
    (isOpen : after.focus.space.table.IsOpen address) :
    state.focus.space.table.IsOpen address :=
  (guarded.isOpen address isOpen).resolve_left (Finset.notMem_empty _)

theorem exists_done_of_inSpace {action : SpaceAction Result} {result : Result}
    (done : (inSpace action).run state = .done result after) :
    ∃ middle, action.run ⟨state.focus.space, state.host⟩ =
      .done result middle := by
  rw [inSpace, Hosted.within, Action.run_zoom] at done
  cases ended : action.run ⟨state.focus.space, state.host⟩ with
  | done found middle =>
      rw [ended] at done
      cases done
      exact ⟨middle, rfl⟩
  | failed error middle =>
      rw [ended] at done
      cases done
  | fatal cause =>
      rw [ended] at done
      cases done

theorem isOpen_of_readRun {run : Run}
    (done : (inSpace (AddressSpace.readRun run)).run state =
      .done bytes after) :
    state.focus.space.table.IsOpen run.address ∧ bytes.length ≤ run.length := by
  obtain ⟨middle, reading⟩ := exists_done_of_inSpace done
  obtain ⟨frame, _, _, rest⟩ := Action.run_bind_eq_done_iff.mp reading
  obtain ⟨page, _, _, ends⟩ := Action.run_bind_eq_done_iff.mp rest
  cases ends
  refine ⟨isOpen_of_userPage reading, ?_⟩
  rw [Page.slice, Bytes.length_slice]
  exact Nat.min_le_left _ _

theorem run_readRun_of_not_isOpen {run : Run}
    (closed : ¬state.focus.space.table.IsOpen run.address) :
    (inSpace (AddressSpace.readRun run)).run state =
      .failed (.badAddress run.address) state := by
  have refused : (AddressSpace.readRun run).run
      ⟨state.focus.space, state.host⟩ = .failed (.badAddress run.address)
        ⟨state.focus.space, state.host⟩ := by
    rw [AddressSpace.readRun, Action.run_bind_of_failed]
    exact AddressSpace.run_userPage_of_not_isOpen closed false
  rw [inSpace, Hosted.within, Action.run_zoom, refused]

theorem isOpen_of_fillRuns
    (done : (fillRuns offset (Span.runs address length)).run state =
      .done () after) :
    ∀ index < length, state.focus.space.table.IsOpen (address + index) := by
  induction length using Nat.strongRecOn
    generalizing state address offset with
  | ind length ih =>
      by_cases isEmpty : length = 0
      · rw [isEmpty]
        exact nofun
      have positive : 0 < length := Nat.pos_of_ne_zero isEmpty
      have firstPos := Span.first_pos address positive
      rw [Span.runs_of_pos positive, fillRuns] at done
      obtain ⟨bytes, read, reads, rest⟩ := Action.run_bind_eq_done_iff.mp done
      obtain ⟨_, filled, fills, rest⟩ := Action.run_bind_eq_done_iff.mp rest
      have guarded := (guards_inSpace (guards_readRun _)).of_done reads
      have stillGuarded := (guards_fill offset bytes).of_done fills
      have further := ih _ (by omega) rest
      apply forall_isOpen_of_first (isOpen_of_readRun reads).1
      intro index less
      exact isOpen_of_guarded guarded
        (isOpen_of_guarded stillGuarded (further index less))

/-- A string was found only if the pages of all its bytes are open. -/
theorem isOpen_of_fillString {place : Nat}
    (done : (fillString offset (Span.runs address length)).run state =
      .done (some place) after) :
    ∀ index < place + 1 - offset,
      state.focus.space.table.IsOpen (address + index) := by
  induction length using Nat.strongRecOn
    generalizing state address offset with
  | ind length ih =>
      by_cases isEmpty : length = 0
      · subst isEmpty
        cases done
      have positive : 0 < length := Nat.pos_of_ne_zero isEmpty
      have firstPos := Span.first_pos address positive
      rw [Span.runs_of_pos positive, fillString] at done
      obtain ⟨bytes, read, reads, rest⟩ := Action.run_bind_eq_done_iff.mp done
      obtain ⟨isOpen, short⟩ := isOpen_of_readRun reads
      cases search : bytes.findIdx? (· == 0) with
      | some last =>
          have inside : last < bytes.length :=
            (List.findIdx?_eq_some_iff_getElem.mp search).1
          rw [search] at rest
          obtain ⟨_, filled, fills, ends⟩ :=
            Action.run_bind_eq_done_iff.mp rest
          cases ends
          intro index less
          have inFirst : index < Span.first address length := by
            dsimp only at short
            omega
          exact isOpen_of_lt_first isOpen inFirst
      | none =>
          rw [search] at rest
          obtain ⟨_, filled, fills, rest⟩ :=
            Action.run_bind_eq_done_iff.mp rest
          have guarded := (guards_inSpace (guards_readRun _)).of_done reads
          have stillGuarded := (guards_fill offset bytes).of_done fills
          have further := ih _ (by omega) rest
          rw [Nat.sub_add_eq] at further
          apply forall_isOpen_of_first isOpen
          intro index less
          exact isOpen_of_guarded guarded
            (isOpen_of_guarded stillGuarded (further index less))

theorem run_copyIn_of_not_isOpen (positive : 0 < state.focus.buffer.size)
    (closed : ¬state.focus.space.table.IsOpen address) :
    (copyIn address).run state = .failed (.badAddress address) state := by
  rw [copyIn, Action.run_bind_of_done (Action.run_read _ _),
    Span.runs_of_pos positive, fillRuns,
    Action.run_bind_of_failed (run_readRun_of_not_isOpen closed)]

theorem run_copyInString_of_not_isOpen (positive : 0 < state.focus.buffer.size)
    (closed : ¬state.focus.space.table.IsOpen address) :
    (copyInString address).run state = .failed (.badAddress address) state := by
  rw [copyInString, Action.run_bind_of_done (Action.run_read _ _)]
  dsimp only
  rw [Span.runs_of_pos positive, fillString, bind_assoc,
    Action.run_bind_of_failed (run_readRun_of_not_isOpen closed)]

theorem isOpen_of_copyIn
    (done : (copyIn address).run state = .done () after) :
    ∀ index < state.focus.buffer.size,
      state.focus.space.table.IsOpen (address + index) := by
  rw [copyIn, Action.run_bind_of_done (Action.run_read _ _)] at done
  exact isOpen_of_fillRuns done

theorem isOpen_of_copyInString
    (done : (copyInString address).run state = .done length after) :
    ∀ index ≤ length, state.focus.space.table.IsOpen (address + index) := by
  rw [copyInString, Action.run_bind_of_done (Action.run_read _ _)] at done
  obtain ⟨found, middle, filled, ends⟩ := Action.run_bind_eq_done_iff.mp done
  cases found with
  | none => cases ends
  | some place =>
      cases ends
      intro index le
      exact isOpen_of_fillString filled index (by omega)

end UserRead

end DemandPaging
