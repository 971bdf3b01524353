import DemandPaging.Proofs.AddressSpace.UserCopy
import DemandPaging.Proofs.Replacement.Growth

/-!
# The moves of references

User code's accesses and copies on its behalf refer to pages.  A copy brings a
page in before it refers to it, and refers to no page that it may not use.
-/

namespace DemandPaging

namespace Books

/-- A page is brought in if need be, and referred to. -/
def Uses (page : Nat) (moves : List Move) : Prop :=
  ∃ fetched, (fetched = [] ∨ Brings (.load page) fetched) ∧
    moves = fetched ++ [.refer page]

/-- A page is not referred to, although it may have been brought in. -/
def Misses (page : Nat) (moves : List Move) : Prop :=
  Balks moves ∨ Brings (.load page) moves

theorem mark_pageBase (books : Books) (address : Nat) (isMarked : Bool) :
    books.mark (Address.pageBase address) isMarked =
      books.mark address isMarked := by
  simp only [mark, Address.pageBase_pageBase]

theorem of_touch {table after : PageTable} {ledger : Ledger} {address : Nat}
    {isWrite : Bool} (touched : table.touch address isWrite = .ok after) :
    of after ledger = if (table.entryAt address).isValid then
      (of table ledger).mark address true else of table ledger := by
  simp only [PageTable.touch, bind_eq_ok_iff] at touched
  obtain ⟨_, _, same⟩ := touched
  cases same
  rw [PageTable.update]
  cases found : table.get? address with
  | none =>
      rw [PageTable.entryAt_of_get?_none found]
      rfl
  | some entry =>
      rw [PageTable.entryAt_of_get? found]
      dsimp only
      rw [of_write found]
      split
      · simp [Entry.insert, Flags.union, PageTable.referenceFlags]
      · rename_i notValid
        have held : (of table ledger).isMarked address =
            entry.flags.accessed := isMarked_of found
        have marks : ∀ other, ((of table ledger).mark address
            entry.flags.accessed).isMarked other =
              (of table ledger).isMarked other := by
          intro other
          rw [isMarked_mark]
          split
          · rename_i here
            rw [← held]
            exact (congrArg (fun entry : Entry => entry.flags.accessed)
              (PageTable.entryAt_eq_of_pageBase_eq here)).symm
          · rfl
        exact congrArg (fun isMarked => (⟨isMarked, ledger⟩ : Books))
          (funext marks)

end Books

namespace AddressSpace

open Books (Move Step Brings Balks Uses Misses)

variable {state middle after : Hosted AddressSpace} {address : Nat}
  {moves : List Move}

/-- A page is marked if it is there. -/
theorem leads_touch (state : Hosted AddressSpace) (address : Nat)
    (isWrite : Bool) :
    Leads state (onTable (Action.change fun table =>
        table.touch address isWrite))
      (fun moves => moves = if isThere state address then
        [.refer (Address.pageBase address)] else []) fun _ => False := by
  refine Action.meets_zoom_iff.mpr ?_
  rw [Action.run, Action.change]
  cases touched : state.focus.table.touch address isWrite with
  | error cause => trivial
  | ok table =>
      have books : booksOf { state with focus := { state.focus with table } } =
          if isThere state address then (booksOf state).mark address true
          else booksOf state := Books.of_touch touched
      refine ⟨_, rfl, rfl, rfl, ?_⟩
      rw [books]
      split
      · rw [← Books.mark_pageBase]
        exact .of_step (.refer (Address.pageBase_pageBase address))
      · exact .nil

theorem isThere_of_translate {frame : Nat}
    (found : state.focus.translate address = some frame) :
    isThere state address = true := by
  rw [translate, PageTable.translate] at found
  split at found
  · cases held : state.focus.table.get? address with
    | none => rw [held] at found; cases found
    | some entry =>
        rw [held] at found
        dsimp only at found
        rw [isThere, PageTable.entryAt_of_get? held]
        split at found
        · rename_i usable
          exact (Bool.and_eq_true_iff.mp usable).1
        · cases found
  · cases found

theorem leads_userPage (address : Nat) (isWrite : Bool) :
    Leads state (userPage address isWrite) (Uses (Address.pageBase address))
      (Misses (Address.pageBase address)) := by
  rw [userPage]
  refine .after_idle (isIdle_failUnless _ _) (.inl (.inl rfl))
    fun _ begun sameBegun => ?_
  refine .after_quiet (isQuiet_lookup _) fun _ looked sameLooked => ?_
  refine .after_idle (isIdle_orFail _ _) (.inl (.inl rfl))
    fun entry seen sameSeen => ?_
  refine .after_idle (isIdle_failUnless _ _) (.inl (.inl rfl))
    fun _ allowed sameAllowed => ?_
  have fetches : Leads allowed
      (Action.runIf (entry.isPagedOut = true) (pageIn (Address.pageBase address)))
      (fun moves => moves = [] ∨ Brings (.load (Address.pageBase address)) moves)
      Balks := by
    refine Action.meets_runIf (fun _ => ?_)
      fun _ => ⟨[], .inl rfl, (SameBooks.refl allowed).follows⟩
    refine (leads_pageIn (Address.pageBase address)).mono
      (fun moves fetches => ?_) fun moves balks => balks
    rw [Fetches, Address.pageBase_pageBase] at fetches
    split at fetches
    · exact .inl fetches
    · exact .inr fetches
  refine fetches.bind (fun _ moves middle fetched follows => ?_)
    fun moves balks => .inl balks
  · rw [Leads, Action.run_bind_of_done (run_look _)]
    cases found : middle.focus.translate (Address.pageBase address) with
    | none =>
        refine ⟨[], ?_, (SameBooks.refl middle).follows⟩
        rw [List.append_nil]
        exact fetched.imp_left .inl
    | some frame =>
        rw [Action.run_bind_of_done (Action.run_orFail_some _ _ _)]
        have touches := leads_touch middle (Address.pageBase address) isWrite
        rw [isThere_of_translate found, if_pos rfl,
          Address.pageBase_pageBase] at touches
        refine Leads.then_quiet (touches.mono (fun more refers => ?_)
          fun _ isFailed => isFailed.elim) fun _ => isQuiet_pure frame
        exact ⟨moves, fetched, refers ▸ rfl⟩

theorem leads_writeRun (run : Run) (bytes : List UInt8) :
    Leads state (writeRun run bytes) (Uses (Address.pageBase run.address))
      (Misses (Address.pageBase run.address)) := by
  rw [writeRun]
  exact (leads_userPage run.address true).then_quiet fun frame =>
    (isQuiet_readFrame _).bind fun _ => isQuiet_writeFrame _ _

theorem leads_readRun (run : Run) :
    Leads state (readRun run) (Uses (Address.pageBase run.address))
      (Misses (Address.pageBase run.address)) := by
  rw [readRun]
  exact (leads_userPage run.address false).then_quiet fun frame =>
    (isQuiet_readFrame _).bind fun _ => isQuiet_pure _

end AddressSpace

end DemandPaging
