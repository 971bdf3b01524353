import DemandPaging.Proofs.AddressSpace.UserCopy
import DemandPaging.Proofs.UserCopy.PageIn

/-!
# The page of a copy

A copy asks whether it may use a page before the page is brought in.  A page
that it may not use is refused and nothing has changed; a page that it may use
is refused only for want of a frame or because a transfer fails.
-/

namespace DemandPaging

namespace AddressSpace

variable {state middle after : Hosted AddressSpace}
  {address length ticks start stop : Nat} {isWrite : Bool}
  {error : PagingError} {bytes : List UInt8}

/-- A copy may not use the page that holds `address`: it lies beyond user
memory, there is no such page, or user code may not use it or, for a copy to
user memory, not write to it. -/
def IsBarred (state : Hosted AddressSpace) (isWrite : Bool) (address : Nat) :
    Prop :=
  addressLimit ≤ Address.pageBase address ∨
    ∀ entry, (Address.pageBase address, entry) ∈ state.focus.table.leaves →
      entry.flags.user = false ∨ isWrite = true ∧ entry.flags.write = false

theorem allowsCopy_eq_false_iff {flags : Flags} :
    allowsCopy flags isWrite = false ↔
      flags.user = false ∨ isWrite = true ∧ flags.write = false := by
  cases isUser : flags.user <;> simp [allowsCopy, isUser]

/-- The permissions of a page are those of its entry. -/
theorem permissions?_eq (state : Hosted AddressSpace) (address : Nat) :
    permissions? state address =
      if ((pager state).entryAt address).isPresent then
        some ((pager state).entryAt address).flags.permissions
      else none := by
  rw [permissions?, view?, Pager.view?]
  split <;> rfl

theorem isBarred_iff : IsBarred state isWrite address ↔
    addressLimit ≤ Address.pageBase address ∨
      ∀ flags, permissions? state address = some flags →
        allowsCopy flags isWrite = false := by
  rw [IsBarred, permissions?_eq]
  refine or_congr Iff.rfl ⟨fun barred flags shown => ?_,
    fun barred entry leaf => ?_⟩
  · split at shown
    · rename_i isPresent
      cases shown
      exact allowsCopy_eq_false_iff.mpr (barred _
        (PageTable.mem_leaves_iff_entryAt.mpr
          ⟨Address.pageBase_pageBase address, PageTable.entryAt_pageBase _ _,
            isPresent⟩))
    · cases shown
  · obtain ⟨_, rfl, isPresent⟩ := PageTable.mem_leaves_iff_entryAt.mp leaf
    rw [PageTable.entryAt_pageBase] at isPresent ⊢
    exact allowsCopy_eq_false_iff.mp (barred
      ((pager state).entryAt address).flags.permissions (if_pos isPresent))

theorem isBarred_of_not_isPresent
    (absent : ((pager state).entryAt address).isPresent = false) :
    IsBarred state isWrite address := by
  rw [isBarred_iff, permissions?_eq, absent]
  exact .inr nofun

theorem isBarred_iff_of_isPresent
    (inside : Address.pageBase address < addressLimit)
    (isPresent : ((pager state).entryAt address).isPresent = true) :
    IsBarred state isWrite address ↔
      allowsCopy ((pager state).entryAt address).flags isWrite = false := by
  rw [isBarred_iff, permissions?_eq, if_pos isPresent]
  constructor
  · exact fun barred => barred.resolve_left (Nat.not_le.mpr inside)
      ((pager state).entryAt address).flags.permissions rfl
  · rintro denied
    refine .inr fun flags shown => ?_
    cases shown
    exact denied

theorem Carries.isBarred_iff (carries : Carries state after ticks start stop) :
    IsBarred after isWrite address ↔ IsBarred state isWrite address := by
  rw [AddressSpace.isBarred_iff, AddressSpace.isBarred_iff,
    carries.permissions?]

theorem Carries.turns (carries : Carries state after ticks start stop) :
    (pager after).turns = (pager state).turns := by
  rw [Pager.turns, Pager.turns]
  exact congrArg (min · _) carries.setting.maxResident

/-- A copy depends on the pages of its addresses only. -/
theorem Carries.of_pageBase_eq {page : Nat}
    (carries : Carries state after ticks page (page + 1))
    (here : Address.pageBase address = Address.pageBase page)
    (more : address < stop) :
    Carries state after ticks address stop :=
  { carries with
    undisturbed := fun other elsewhere => carries.undisturbed other
      fun same late early => by
        obtain rfl : same = page := by omega
        rw [← here]
        exact elsewhere address (Nat.le_refl _) more }

theorem IsFormed.residentCount_le_turns (formed : IsFormed state)
    (isPaging : state.focus.isPaging = true) :
    state.focus.ledger.residentCount ≤ (pager state).turns :=
  (formed.backed.sound isPaging
    (isStored_backed formed isPaging)).residentCount_le_turns
      (formed.agrees.tracks isPaging).residentCount_le

theorem IsFormed.isPaging_of_isPagedOut (formed : IsFormed state)
    (isPagedOut : ((pager state).entryAt address).isPagedOut = true) :
    state.focus.isPaging = true := by
  rw [← Bool.not_eq_false]
  intro notPaging
  cases (formed.isPagedOut_eq_false notPaging).symm.trans isPagedOut

/-- A page that is in swap comes in, or stays where it is for want of a frame
or because a transfer fails. -/
theorem meets_pageIn_of_isPagedOut (formed : IsFormed state)
    (isPagedOut : ((pager state).entryAt address).isPagedOut = true) :
    ((pageIn (Address.pageBase address)).run state).Meets
      (CopyEnds state ((pager state).turns + 1))
      (fun _ after =>
        Carries state after ((pager state).turns + 1) address (address + 1) ∧
        view? after = view? state ∧
        ((pager after).entryAt address).isValid = true)
      (fun error after => IsShortfall state after error ∧
        Carries state after ((pager state).turns + 1) address address ∧
        view? after = view? state ∧
        ((pager after).entryAt address).isPagedOut = true) := by
  have isPaging := formed.isPaging_of_isPagedOut isPagedOut
  have enough := formed.residentCount_le_turns isPaging
  have aligned := Address.pageBase_pageBase address
  have inSwap : state.focus.IsPagedOut
      (Address.pageBase (Address.pageBase address)) := by
    rw [aligned]
    exact (isPagedOut_iff state _).mpr
      ⟨aligned, by rwa [Pager.entryAt_pageBase]⟩
  obtain ⟨handle, slot, known, goesOn⟩ :=
    run_pageIn_of_isPagedOut formed isPaging inSwap
  rw [aligned] at known goesOn
  rw [goesOn]
  refine Outcome.Meets.mono_fatal
    ((resembles_pageInFrom_of_isFormed formed isPaging known).mono ?_ ?_) ?_
  · rintro _ after ⟨device, back, same⟩
    have sameSwap := congrArg AddressSpace.swap same.focus.symm
    obtain ⟨carries, sameView, isValid⟩ :=
      back.carries formed isPaging known (device.trans (.of_swap sameSwap))
    refine ⟨?_, same.view?.trans sameView, ?_⟩
    · exact ((carries.of_resembles same).of_pageBase_eq aligned.symm
        (Nat.lt_succ_self _)).weaken (Nat.succ_le_succ enough)
          (Nat.le_refl _)
    · rw [same.pager]
      exact (congrArg Entry.isValid
        ((pager back.after).entryAt_pageBase address)).symm.trans isValid
  · rintro error after (⟨rfl, isEmpty, same⟩ |
      ⟨failure, left, unreturned, same⟩)
    · refine ⟨.inl ⟨rfl, by rwa [same.pool, same.focus]⟩, ((Carries.refl formed address).of_resembles
        same).weaken (Nat.zero_le _) (Nat.le_refl _), same.view?, ?_⟩
      rwa [same.pager]
    · obtain ⟨spared, undoes⟩ :=
        undoes_of_unreturned formed isPaging unreturned
      obtain ⟨held, served⟩ := unreturned.heldBy formed
      obtain ⟨carries, sameView⟩ :=
        undoes.carries formed held served address
      refine ⟨.inr failure, (carries.of_resembles same).weaken
        (Nat.le_succ_of_le enough) (Nat.le_refl _), same.view?.trans sameView,
        ?_⟩
      rw [same.pager]
      exact (entryAt_of_chances undoes.chances address).isPagedOut.trans
        isPagedOut
  · rintro cause (late | ⟨rfl, slot, holds, large⟩)
    · exact CopyEnds.mono (.inl late) (Nat.succ_le_succ enough)
    · exact .inr ⟨rfl, slot, ((formed.agrees.tracks isPaging).isClaimed_iff
        slot).mpr ⟨_, holds⟩, large⟩

/-- A reference and bytes in frames that stay lent are carried over. -/
theorem Carries.of_becomes {parts : Pager} (formed : IsFormed after)
    (becomes : Becomes state parts after)
    (shape : (pager state).SameShape parts)
    (clock : parts.ledger = (pager state).ledger)
    (slots : parts.swap = (pager state).swap)
    (frames : parts.frames.freeCount = (pager state).frames.freeCount)
    (marks : ∀ other,
      ((pager state).entryAt other).SameButMarks (parts.entryAt other))
    (elsewhere : ∀ other, Address.pageBase other ≠ Address.pageBase address →
      parts.entryAt other = (pager state).entryAt other) :
    Carries state after 0 address (address + 1) := by
  obtain ⟨stays, rfl⟩ := becomes
  exact {
    formed := formed
    setting := stays.setting shape
    generation_le := by
      have same : after.focus.ledger = state.focus.ledger := clock
      rw [same]
      exact Nat.le_refl _
    far := by
      have same : after.focus.swap = state.focus.swap := slots
      rintro ⟨number, isClaimed, isFar⟩
      rw [same] at isClaimed
      exact ⟨number, isClaimed, isFar⟩
    device := .of_swap slots
    supply := congrArg₂ (· + ·) (congrArg Ledger.residentCount clock) frames
    permissions? := by
      funext other
      rw [permissions?_eq, permissions?_eq, (marks other).alike.isPresent,
        (marks other).permissions]
    undisturbed := fun other apart => by
      have same := elsewhere other
        (apart address (Nat.le_refl _) (Nat.lt_succ_self _))
      exact ⟨fun isValid => same ▸ isValid, fun accessed => same ▸ accessed⟩ }

/-- The page that holds `address` is found in memory and marked. -/
def refer (address : Nat) (isWrite : Bool) : SpaceAction Nat := do
  let found ← look fun space => space.translate (Address.pageBase address)
  let frame ← Action.orFail (.badAddress address) found
  onTable (Action.change fun table =>
    table.touch (Address.pageBase address) isWrite)
  return frame

/-- A page that is not in memory cannot be found there. -/
theorem run_refer_of_not_isValid
    (inside : Address.pageBase address < addressLimit)
    (notValid : ((pager state).entryAt address).isValid = false) :
    (refer address isWrite).run state =
      .failed (.badAddress address) state := by
  have missing : state.focus.translate (Address.pageBase address) = none := by
    rw [translate, PageTable.translate, if_pos inside, PageTable.get?_pageBase]
    cases found : state.focus.table.get? address with
    | none => rfl
    | some entry =>
        have held : (pager state).entryAt address = entry :=
          PageTable.entryAt_of_get? found
        rw [held] at notValid
        refine if_neg fun both => ?_
        cases notValid.symm.trans (Bool.and_eq_true_iff.mp both).1
  rw [refer, Action.run_bind_of_done (run_look _), missing]
  rfl

/-- A page in memory that user code may use is found and marked, which user
code does not see. -/
theorem meets_refer_of_isFormed (formed : IsFormed state)
    (inside : Address.pageBase address < addressLimit)
    (isValid : ((pager state).entryAt address).isValid = true)
    (isUser : ((pager state).entryAt address).flags.user = true) :
    ((refer address isWrite).run state).Meets (fun _ => False)
      (fun frame after => Carries state after 0 address (address + 1) ∧
        view? after = view? state ∧
        ∃ contents, InFrame after address frame contents)
      fun _ _ => False := by
  have found : state.focus.translate (Address.pageBase address) =
      some ((pager state).entryAt address).address := by
    have held : state.focus.table.get? address =
        some ((pager state).entryAt address) :=
      PageTable.get?_of_isPresent (Pager.isPresent_of_isValid isValid)
    rw [translate, PageTable.translate, if_pos inside, PageTable.get?_pageBase,
      held]
    exact if_pos (Bool.and_eq_true_iff.mpr ⟨isValid, isUser⟩)
  obtain ⟨table, marked, marks, elsewhere⟩ :=
    (pager state).table.touch_of_lt inside isWrite
  rw [refer, Action.run_bind_of_done (run_look _), found,
    Action.run_bind_of_done (Action.run_orFail_some _ _ _)]
  refine Action.meets_bind (meets_changeTable marked) ?_
  rintro _ after becomes
  have parts := becomes.parts
  have retains : (pager state).Retains (pager after) := by
    rw [parts]
    exact {
      shape := ⟨rfl, rfl, rfl, rfl, rfl, rfl⟩
      alike := fun address => (marks address).alike
      ledger := formed.ledger
      residentCount := rfl
      residenceOf? := fun _ => rfl
      swap := rfl
      held := ⟨rfl, formed.pool, fun _ _ => rfl⟩ }
  have stillFormed := formed.of_retains retains
    (IsServed.of_stays formed.pool_lt becomes.stays)
  obtain ⟨contents, lent⟩ := formed.isCopyable.framed address isValid
  refine ⟨Carries.of_becomes stillFormed becomes ⟨rfl, rfl, rfl, rfl, rfl, rfl⟩
    rfl rfl rfl marks (by rwa [Address.pageBase_pageBase] at elsewhere),
    retains.view?, contents, ?_, ?_, ?_⟩
  · rw [parts]
    exact (marks address).isValid.trans isValid
  · rw [parts]
    exact (marks address).address
  · rw [parts]
    exact lent

/-- A page in swap that user code may use is brought in, found and marked, or
stays where it is. -/
theorem meets_pageIn_refer_of_isFormed (formed : IsFormed state)
    (inside : Address.pageBase address < addressLimit)
    (isPagedOut : ((pager state).entryAt address).isPagedOut = true)
    (isUser : ((pager state).entryAt address).flags.user = true) :
    ((do
      pageIn (Address.pageBase address)
      refer address isWrite : SpaceAction Nat).run state).Meets
      (CopyEnds state ((pager state).turns + 1))
      (fun frame after =>
        Carries state after ((pager state).turns + 1) address (address + 1) ∧
        view? after = view? state ∧
        ∃ contents, InFrame after address frame contents)
      (fun error after => IsShortfall state after error ∧
        Carries state after ((pager state).turns + 1) address address ∧
        view? after = view? state ∧
        ((pager after).entryAt address).isPagedOut = true) := by
  refine Action.meets_bind (meets_pageIn_of_isPagedOut formed isPagedOut) ?_
  rintro _ middle ⟨carries, sameView, isValid⟩
  have isPresent : ((pager state).entryAt address).isPresent = true :=
    Bool.or_eq_true_iff.mpr (.inr isPagedOut)
  have stillUser : ((pager middle).entryAt address).flags.user = true := by
    have permissions := congrFun carries.permissions? address
    rw [permissions?_eq, permissions?_eq, if_pos isPresent,
      if_pos (Pager.isPresent_of_isValid isValid)] at permissions
    exact (congrArg Flags.user (Option.some.inj permissions)).trans isUser
  refine ((meets_refer_of_isFormed carries.formed inside isValid
    stillUser).mono ?_ fun _ _ impossible => impossible.elim).mono_fatal
      fun _ impossible => impossible.elim
  rintro frame after ⟨marks, stillView, inFrame⟩
  exact ⟨carries.trans marks (Nat.le_refl _) (Nat.le_refl _),
    stillView.trans sameView, inFrame⟩

/-- How and why a copy is refused the page that holds `address`. -/
structure RefusesPage (state after : Hosted AddressSpace) (isWrite : Bool)
    (address : Nat) (error : PagingError) : Prop where
  carries : Carries state after ((pager state).turns + 1) address address
  view? : view? after = view? state
  reason : error = .badAddress address ∧ IsBarred state isWrite address ∨
    IsShortfall state after error ∧ ¬IsBarred state isWrite address ∧
      after.focus.IsPagedOut (Address.pageBase address)

theorem refusesPage_of_isBarred (formed : IsFormed state)
    (barred : IsBarred state isWrite address) :
    RefusesPage state state isWrite address (.badAddress address) where
  carries :=
    (Carries.refl formed address).weaken (Nat.zero_le _) (Nat.le_refl _)
  view? := rfl
  reason := .inl ⟨rfl, barred⟩

/-- A copy is given the frame of a page that it may use, and the page is there
and marked. -/
theorem meets_userPage_of_isFormed (formed : IsFormed state)
    (isWrite : Bool) :
    ((userPage address isWrite).run state).Meets
      (CopyEnds state ((pager state).turns + 1))
      (fun frame after => ¬IsBarred state isWrite address ∧
        Carries state after ((pager state).turns + 1) address (address + 1) ∧
        view? after = view? state ∧
        ∃ contents, InFrame after address frame contents)
      (fun error after => RefusesPage state after isWrite address error) := by
  rw [userPage]
  refine Action.meets_failUnless_bind (fun outside =>
      refusesPage_of_isBarred formed (.inl (Nat.le_of_not_lt outside)))
    fun inside => ?_
  rw [Action.run_bind_of_done (run_lookup_of_lt inside),
    PageTable.get?_pageBase]
  cases found : state.focus.table.get? address with
  | none =>
      have isEmpty : (pager state).entryAt address = Entry.empty :=
        PageTable.entryAt_of_get?_none found
      exact refusesPage_of_isBarred formed
        (isBarred_of_not_isPresent (isEmpty ▸ rfl))
  | some entry =>
      obtain rfl : (pager state).entryAt address = entry :=
        PageTable.entryAt_of_get? found
      rw [Action.run_bind_of_done (Action.run_orFail_some _ _ _)]
      refine Action.meets_failUnless_bind (fun denied =>
        refusesPage_of_isBarred formed ?_) fun allowed => ?_
      · cases isPresent : ((pager state).entryAt address).isPresent with
        | false => exact isBarred_of_not_isPresent isPresent
        | true =>
            exact (isBarred_iff_of_isPresent inside isPresent).mpr
              (Bool.eq_false_iff.mpr denied)
      have isUser : ((pager state).entryAt address).flags.user = true :=
        (Bool.and_eq_true_iff.mp allowed).1
      have notBarred (isPresent :
          ((pager state).entryAt address).isPresent = true) :
          ¬IsBarred state isWrite address := by
        rw [isBarred_iff_of_isPresent inside isPresent, allowed]
        exact Bool.true_eq_false.mp
      change ((do
        Action.runIf ((pager state).entryAt address).isPagedOut
          (pageIn (Address.pageBase address))
        refer address isWrite : SpaceAction Nat).run state).Meets _ _ _
      cases isPagedOut : ((pager state).entryAt address).isPagedOut with
      | true =>
          have allowedHere := notBarred (Bool.or_eq_true_iff.mpr
            (.inr isPagedOut))
          rw [Action.runIf_of_pos rfl]
          refine (meets_pageIn_refer_of_isFormed formed inside isPagedOut
            isUser).mono (fun frame after done => ⟨allowedHere, done⟩) ?_
          rintro error after ⟨shortfall, carries, sameView, stillOut⟩
          refine ⟨carries, sameView, .inr ⟨shortfall, allowedHere,
            (isPagedOut_iff after _).mpr
              ⟨Address.pageBase_pageBase address, ?_⟩⟩⟩
          rwa [Pager.entryAt_pageBase]
      | false =>
          rw [Action.runIf_of_neg Bool.false_ne_true, pure_bind]
          cases isValid : ((pager state).entryAt address).isValid with
          | true =>
              refine ((meets_refer_of_isFormed formed inside isValid
                isUser).mono ?_ fun _ _ impossible =>
                  impossible.elim).mono_fatal
                    fun _ impossible => impossible.elim
              rintro frame after ⟨marks, sameView, inFrame⟩
              exact ⟨notBarred (Pager.isPresent_of_isValid isValid),
                marks.weaken (Nat.zero_le _) (Nat.le_refl _), sameView,
                inFrame⟩
          | false =>
              rw [run_refer_of_not_isValid inside isValid]
              refine refusesPage_of_isBarred formed
                (isBarred_of_not_isPresent ?_)
              rw [Entry.isPresent, isValid, isPagedOut]
              rfl

end AddressSpace

end DemandPaging
