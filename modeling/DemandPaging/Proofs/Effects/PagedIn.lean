import DemandPaging.Proofs.Effects.Exchanges
import DemandPaging.Proofs.Effects.Shortfalls

/-!
# Page-ins of well-formed spaces

A page-in from a well-formed space leaves a page in memory alone, refuses an
address that has no page, and brings a page in swap back, whether memory is full
or not and whether there is a free slot or not.  It fails for want of a frame or
because a transfer fails, and then every page is where it was.
-/

namespace DemandPaging

namespace AddressSpace

variable {state : Hosted AddressSpace} {handle slot page : Nat}

section IsFormed

variable {address : Nat} (formed : IsFormed state)

include formed

theorem run_pageIn_of_isMapped
    (mapped : state.focus.IsMapped (Address.pageBase address)) :
    (pageIn address).run state = .done () state := by
  obtain ⟨_, isValid⟩ := (isMapped_iff state _).mp mapped
  have isPresent := Pager.isPresent_of_isValid isValid
  have found : state.focus.table.get? (Address.pageBase address) =
      some (state.focus.table.entryAt (Address.pageBase address)) :=
    PageTable.get?_of_isPresent isPresent
  have isValidEntry : (state.focus.table.entryAt
      (Address.pageBase address)).isValid = true := isValid
  have notPagedOut : (state.focus.table.entryAt
      (Address.pageBase address)).isPagedOut = false :=
    formed.exclusive isValid
  rw [pageIn, Action.run_bind_of_done (by
      rw [Action.run_failUnless,
        if_pos (formed.lt_addressLimit isPresent)]),
    Action.run_bind_of_done
      (run_lookup_of_lt (formed.lt_addressLimit isPresent)),
    found, Action.run_bind_of_done (Action.run_orFail_some _ _ _), isValidEntry,
    notPagedOut]
  rfl

omit formed in
theorem run_pageIn_of_absent
    (absent : ¬state.focus.IsMapped (Address.pageBase address) ∧
        ¬state.focus.IsPagedOut (Address.pageBase address) ∨
      addressLimit ≤ Address.pageBase address) :
    (pageIn address).run state =
      .failed (.badAddress (Address.pageBase address)) state := by
  rw [pageIn]
  by_cases inside : Address.pageBase address < addressLimit
  case neg =>
    rw [Action.run_bind_of_failed (by
      rw [Action.run_failUnless, if_neg inside])]
  obtain ⟨notMapped, notPagedOut⟩ :=
    absent.resolve_right (Nat.not_le.mpr inside)
  rw [Action.run_bind_of_done (by
      rw [Action.run_failUnless, if_pos inside]),
    Action.run_bind_of_done (run_lookup_of_lt inside)]
  cases found : state.focus.table.get? (Address.pageBase address) with
  | none => rfl
  | some entry =>
      have held : (pager state).entryAt (Address.pageBase address) = entry :=
        PageTable.entryAt_of_get? found
      rw [isMapped_iff, held, not_and] at notMapped
      rw [isPagedOut_iff, held, not_and] at notPagedOut
      have isValid := Bool.eq_false_iff.mpr
        (notMapped (Address.pageBase_pageBase address))
      have isPagedOut := Bool.eq_false_iff.mpr
        (notPagedOut (Address.pageBase_pageBase address))
      rw [Action.run_bind_of_done (Action.run_orFail_some _ _ _), isValid,
        isPagedOut]
      rfl

/-- A page-in of a page in swap reads the slot that the ledger has for it. -/
theorem run_pageIn_of_swapped (isPaging : state.focus.isPaging = true)
    (known : state.focus.ledger.residenceAt? handle =
      some (.swapped (Address.pageBase address) slot)) :
    (pageIn address).run state =
      (pageInFrom handle slot (Address.pageBase address)).run state := by
  obtain ⟨tracked, place, swapped⟩ := Option.map_eq_some_iff.mp known
  have indexed : state.focus.ledger.find? (Address.pageBase address) =
      some handle := by
    refine (formed.ledger.find?_eq_some_iff _ _).mpr
      ⟨tracked, place, ?_, ?_⟩
    · rw [Tracked.isFree, swapped]
      rfl
    · rw [Tracked.address, swapped]
      rfl
  obtain ⟨_, entry, found, notValid, isOut⟩ :=
    entry_of_swapped formed isPaging known
  have held : (pager state).entryAt (Address.pageBase address) = entry :=
    PageTable.entryAt_of_get? found
  have isPresent : ((pager state).entryAt
      (Address.pageBase address)).isPresent = true := by
    rw [held]
    exact Bool.or_eq_true_iff.mpr (.inr isOut)
  rw [pageIn, Action.run_bind_of_done (by
      rw [Action.run_failUnless,
        if_pos (formed.lt_addressLimit isPresent)]),
    Action.run_bind_of_done
      (run_lookup_of_lt (formed.lt_addressLimit isPresent)), found,
    Action.run_bind_of_done (Action.run_orFail_some _ _ _), notValid, isOut]
  change (pageInSwapped _).run state = _
  rw [pageInSwapped, Action.run_bind_of_done (run_look _), indexed,
    Action.run_bind_of_done (Action.run_orCrash_some _ _ _),
    Action.liftM_eq_ofExcept, Ledger.get_eq_ok_iff.mpr place,
    Action.run_bind_of_done (Action.run_ofExcept_ok _ _), swapped,
    Residence.slot?, Action.run_bind_of_done (Action.run_orCrash_some _ _ _)]

theorem run_pageIn_of_isPagedOut (isPaging : state.focus.isPaging = true)
    (isPagedOut : state.focus.IsPagedOut (Address.pageBase address)) :
    ∃ handle slot, state.focus.ledger.residenceAt? handle =
        some (.swapped (Address.pageBase address) slot) ∧
      (pageIn address).run state =
        (pageInFrom handle slot (Address.pageBase address)).run state := by
  obtain ⟨slot, handle, tracked, place, swapped⟩ :=
    ((formed.agrees.tracks isPaging).isPagedOut_iff _).mp isPagedOut
  have known : state.focus.ledger.residenceAt? handle =
      some (.swapped (Address.pageBase address) slot) := by
    rw [Ledger.residenceAt?_of_place place, swapped]
  exact ⟨handle, slot, known, run_pageIn_of_swapped formed isPaging known⟩

end IsFormed

theorem run_pageInFrom_of_freeCount
    (noFrame : (state.host.pool state.focus.pool).freeCount = 0) :
    ∃ after, (pageInFrom handle slot page).run state =
      .failed .outOfMemory after := by
  have meets : (takeFrame.run state).Meets (fun _ => False) _ _ :=
    resembles_takeFrame (.refl state)
  cases taken : takeFrame.run state with
  | done frame after =>
      rw [taken] at meets
      obtain ⟨frames, takes, _⟩ := meets
      have one := FramePool.freeCount_of_allocate takes
      rw [noFrame] at one
      cases one
  | failed error after =>
      rw [taken] at meets
      obtain ⟨rfl, _⟩ := meets
      exact ⟨after, by rw [pageInFrom, Action.run_bind_of_failed taken]⟩
  | fatal cause =>
      rw [taken] at meets
      exact meets.elim

/-- Why a page-in from a well-formed space ends the run: the clock of the queue
runs out, or the slot of the page is beyond what a word can address. -/
def PageInEnds (state : Hosted AddressSpace) (page : Nat) (cause : Fatal) :
    Prop :=
  RunsLate state (state.focus.ledger.residentCount + 1) cause ∨
    cause = .overflow ∧ ∃ slot, state.focus.HoldsSlot page slot ∧
      Word.limit ≤ slot * pageSize

/-- A page in swap comes back, or a frame or a transfer is wanting.  The run
ends only if the clock runs out or the slot is too far. -/
theorem resembles_pageInFrom_of_isFormed (formed : IsFormed state)
    (isPaging : state.focus.isPaging = true)
    (known : state.focus.ledger.residenceAt? handle =
      some (.swapped page slot)) :
    ((pageInFrom handle slot page).run state).Meets (PageInEnds state page)
      (fun _ after => SameDevice state after ∧
        ∃ back : PageReturn state handle slot page, Resembles back.after after)
      (fun error after => (error = .outOfMemory ∧
          (state.host.pool state.focus.pool).freeCount = 0 ∧
            Resembles state after) ∨
        IsTransferFailure state after error ∧
          ∃ left, Unreturned state slot left ∧ Resembles left after) := by
  have ceiling := (formed.agrees.tracks isPaging).residentCount_le
  have positive : 0 < state.focus.ledger.maxResident :=
    formed.maxResident_eq ▸ formed.maxResident_pos isPaging
  have holds : state.focus.HoldsSlot page slot := by
    obtain ⟨tracked, place, swapped⟩ := Option.map_eq_some_iff.mp known
    exact ⟨handle, tracked, place, swapped⟩
  have claimed := claimed_of_swapped formed isPaging known
  have inside := SwapSpace.lt_capacity_of_isClaimed claimed
  have beyond : Word.limit ≤ slot * pageSize →
      PageInEnds state page .overflow := fun large =>
    .inr ⟨rfl, slot, holds, large⟩
  refine ((resembles_pageInFrom formed.pool claimed beyond ?_ ?_).and
    (failsFor_pageInFrom handle page inside state rfl)).mono ?_ ?_
  · -- Another page leaves only if there is one.
    intro arrival spare cause full slots ends
    have residentFull : state.focus.ledger.residentCount =
        state.focus.ledger.maxResident := beq_iff_eq.mp full
    have room : spare = none → state.focus.swap.freeSlots ≠ 0 := by
      rintro rfl
      obtain ⟨_, hasSlot⟩ | impossible := slots
      · exact hasSlot
      · cases impossible
    obtain ⟨isOverflow, policy, _, late⟩ | ⟨rfl, given, isSome, large⟩ :=
      (formed.landed arrival).runsLate_of_evictionEnds isPaging
        (residentFull ▸ positive) room ends
    · exact .inl ⟨isOverflow, policy, Nat.succ_pos _,
        Nat.le_succ_of_le late⟩
    · obtain ⟨isNone, _⟩ | same := slots
      · cases isNone.symm.trans isSome
      · cases same.symm.trans isSome
        exact beyond large
  · intro arrival roomy cause room refused
    have hasRoom :=
      room.hasRoom (formed.landed arrival) isPaging known
    obtain ⟨tracked, place, swapped⟩ :=
      Option.map_eq_some_iff.mp hasRoom.known
    obtain ⟨policy, late, overflow⟩ | ⟨_, settles⟩ :=
      settle_cases roomy.focus.config.policy hasRoom.isConsistent
        hasRoom.room place (.inr ⟨slot, swapped⟩)
    · cases overflow.symm.trans refused
      have config : roomy.focus.config = state.focus.config := hasRoom.config
      have clock : roomy.focus.ledger.generation ≤
          state.focus.ledger.generation +
            state.focus.ledger.residentCount := hasRoom.generation_le
      rw [config] at policy
      exact .inl ⟨rfl, policy, Nat.succ_pos _,
        Nat.le_trans late (Nat.succ_le_succ clock)⟩
    · cases settles.symm.trans refused
  · exact fun _ _ returned => returned.symm
  · rintro error after ⟨outOfMemory | ⟨⟨_, rfl⟩, unreturned⟩, shortfall⟩
    · exact .inl outOfMemory
    · obtain ⟨impossible, _⟩ | failure := shortfall
      · cases impossible
      · exact .inr ⟨failure, unreturned⟩

/-- A page in swap comes back, or fails to and everything is as before. -/
theorem meets_pageInFrom_of_isFormed (formed : IsFormed state)
    (isPaging : state.focus.isPaging = true)
    (known : state.focus.ledger.residenceAt? handle =
      some (.swapped page slot)) :
    ((pageInFrom handle slot page).run state).Meets (PageInEnds state page)
      (fun _ after => ∃ frame, Returns state after handle page slot frame ∧
        (ReturnsAlone state after handle page slot frame ∨
          ∃ spared other otherPage otherFrame target,
            Exchanges state after handle page slot frame spared other
              otherPage otherFrame target))
      (fun error after => (error = .outOfMemory ∧
          (state.host.pool state.focus.pool).freeCount = 0 ∧
            Resembles state after) ∨
        IsTransferFailure state after error ∧
          ∃ spared, Undoes state after spared) := by
  refine (resembles_pageInFrom_of_isFormed formed isPaging known).mono ?_ ?_
  · rintro _ after ⟨_, back, same⟩
    refine ⟨back.frame,
      (back.returns formed isPaging known).of_resembles same, ?_⟩
    obtain alone | ⟨_, _, _, _, _, exchanges⟩ :=
      back.moves formed isPaging known
    · exact .inl (alone.of_resembles same)
    · exact .inr ⟨_, _, _, _, _, exchanges.of_resembles same⟩
  · rintro error after (outOfMemory | ⟨failure, left, unreturned, same⟩)
    · exact .inl outOfMemory
    · obtain ⟨spared, undoes⟩ :=
        undoes_of_unreturned formed isPaging unreturned
      exact .inr ⟨failure, spared, undoes.of_resembles same⟩

theorem exists_firstEvicted : ∃ state : Hosted AddressSpace,
    WellFormed state ∧ state.focus.isPaging = true ∧
      state.focus.IsPagedOut (Address.pageBase 0) ∧
        ∃ after, (pageIn 0).run state = .done () after := by
  obtain ⟨_, touched, first⟩ := exists_firstTouched
  obtain ⟨evicted, _, ⟨_, evicts⟩, notThere, ⟨_, loads⟩⟩ :=
    exists_reload first.isTidy first.isPaging first.aging
      first.residentCount first.freeSlots first.isReliable
      (by decide : 0 < Address.pageCeil pageSize)
  have meets := first.isTidy.meets_request .evict
    ⟨first.residentCount ▸ Nat.one_pos, first.freeSlots⟩
  rw [evicts] at meets
  have tidied := meets.1
  have sound := tidied.tidy.sound
  have isPresent : ((pager evicted).entryAt 0).isPresent = true := by
    rw [← sound.isSome_logicalPage?]
    exact (tidied.tidy.spans 0).mpr (by decide)
  have isPagedOut : ((pager evicted).entryAt 0).isPagedOut = true :=
    (Bool.or_eq_true_iff.mp isPresent).resolve_left
      fun isValid => Bool.false_ne_true (notThere.symm.trans isValid)
  refine ⟨evicted, tidied.tidy.wellFormed,
    tidied.changes.parts.shape.isPaging.trans first.isPaging,
    (isPagedOut_iff evicted 0).mpr ⟨rfl, isPagedOut⟩, ?_⟩
  rw [Request.action, Action.run_map] at loads
  cases ran : (pageIn 0).run evicted with
  | done _ after => exact ⟨after, rfl⟩
  | failed _ _ => rw [ran] at loads; cases loads
  | fatal _ => rw [ran] at loads; cases loads

/-- What a page-in does depends on where the page is.  In memory it is left
alone.  If there is no such page its address is bad.  A page in swap comes back
to its place, and another one leaves if and only if memory was full, or the
page-in fails and every page is where it was.  Memory is exhausted only for a
page in swap, and then exactly if no frame is left. -/
theorem pageIn_returns_or_undoes (wellFormed : WellFormed state)
    (isPaging : state.focus.isPaging = true) (address : Nat) :
    (state.focus.IsMapped (Address.pageBase address) →
      (pageIn address).run state = .done () state) ∧
    (¬state.focus.IsMapped (Address.pageBase address) ∧
        ¬state.focus.IsPagedOut (Address.pageBase address) ∨
      addressLimit ≤ Address.pageBase address →
        (pageIn address).run state =
          .failed (.badAddress (Address.pageBase address)) state) ∧
    (state.focus.IsPagedOut (Address.pageBase address) →
      ((pageIn address).run state).Meets
        (PageInEnds state (Address.pageBase address))
        (fun _ after => ∃ handle slot frame,
          Returns state after handle (Address.pageBase address) slot frame ∧
          (ReturnsAlone state after handle (Address.pageBase address) slot
              frame ∨
            ∃ spared other otherPage otherFrame target,
              Exchanges state after handle (Address.pageBase address) slot
                frame spared other otherPage otherFrame target))
        (fun error after => (error = .outOfMemory ∧
            (state.host.pool state.focus.pool).freeCount = 0 ∧
              Resembles state after) ∨
          IsTransferFailure state after error ∧
            ∃ spared, Undoes state after spared)) ∧
    ((∃ after, (pageIn address).run state = .failed .outOfMemory after) ↔
      state.focus.IsPagedOut (Address.pageBase address) ∧
        (state.host.pool state.focus.pool).freeCount = 0) := by
  have formed := wellFormed.isFormed
  have comesBack := fun isPagedOut =>
    run_pageIn_of_isPagedOut formed isPaging
      (isPagedOut : state.focus.IsPagedOut (Address.pageBase address))
  refine ⟨run_pageIn_of_isMapped formed, run_pageIn_of_absent,
    fun isPagedOut => ?_, ?_, ?_⟩
  · obtain ⟨handle, slot, known, goesOn⟩ := comesBack isPagedOut
    rw [goesOn]
    exact (meets_pageInFrom_of_isFormed formed isPaging known).mono_done
      fun _ _ ⟨frame, returns⟩ => ⟨handle, slot, frame, returns⟩
  · rintro ⟨after, failed⟩
    by_cases isPagedOut : state.focus.IsPagedOut (Address.pageBase address)
    · obtain ⟨handle, slot, known, goesOn⟩ := comesBack isPagedOut
      have meets := meets_pageInFrom_of_isFormed formed isPaging known
      rw [← goesOn, failed] at meets
      obtain ⟨_, noFrame, _⟩ | ⟨failure, _⟩ := meets
      · exact ⟨isPagedOut, noFrame⟩
      · obtain ⟨_, impossible⟩ := failure.isTransfer
        cases impossible
    · by_cases mapped : state.focus.IsMapped (Address.pageBase address)
      · cases (run_pageIn_of_isMapped formed mapped).symm.trans failed
      · cases (run_pageIn_of_absent
          (.inl ⟨mapped, isPagedOut⟩)).symm.trans failed
  · rintro ⟨isPagedOut, noFrame⟩
    obtain ⟨handle, slot, _, goesOn⟩ := comesBack isPagedOut
    rw [goesOn]
    exact run_pageInFrom_of_freeCount noFrame

theorem pageIn_returns_or_undoes_of_first_page :
    ∃ state : Hosted AddressSpace,
      WellFormed state ∧ state.focus.isPaging = true ∧
      state.focus.IsPagedOut (Address.pageBase 0) ∧
      ∃ after, (pageIn 0).run state = .done () after ∧
        ∃ handle slot frame,
          Returns state after handle (Address.pageBase 0) slot frame := by
  obtain ⟨state, wellFormed, isPaging, isPagedOut, after, loads⟩ :=
    exists_firstEvicted
  obtain ⟨_, _, comesBack, _⟩ :=
    pageIn_returns_or_undoes wellFormed isPaging 0
  have meets := comesBack isPagedOut
  rw [loads] at meets
  obtain ⟨handle, slot, frame, returns, _⟩ := meets
  exact ⟨state, wellFormed, isPaging, isPagedOut, after, loads, handle, slot,
    frame, returns⟩

end AddressSpace

end DemandPaging
