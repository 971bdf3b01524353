import DemandPaging.Proofs.Growth.Joining

/-!
# Runs of pages that are added and taken back

Memory that grows adds pages behind its end, and takes them back from the first
on if one of them is refused.  What a state on the way has in common with the
one that memory began with (`Grown`) is kept by each page that is added, by each
that is taken back and by one that is refused.  When all are taken back no place
has gained anything.
-/

namespace DemandPaging

namespace Ledger

variable {before middle after : Ledger} {handle start : Nat}

/-- The place was free, and has a page at or above `start` now. -/
def FillsAt (start : Nat) (before after : Ledger) (handle : Nat) : Prop :=
  before.residenceAt? handle = some .free ∧
    ∃ residence, after.residenceAt? handle = some residence ∧
      residence.isFree = false ∧ start ≤ residence.address

theorem FillsAt.trans_recedesAt (fills : FillsAt start before middle handle)
    (recedes : middle.RecedesAt after handle) :
    FillsAt start before after handle := by
  obtain ⟨wasFree, residence, known, taken, high⟩ := fills
  refine ⟨wasFree, ?_⟩
  obtain same | ⟨page, slot, resident, swapped⟩ := recedes
  · exact ⟨residence, same.trans known, taken, high⟩
  · cases known.symm.trans resident
    exact ⟨.swapped page slot, swapped, rfl, high⟩

end Ledger

namespace AddressSpace

variable {origin state after : Hosted AddressSpace}
  {start stop page removed added count old : Nat}

/-- The leaves of the space are exactly those of the pages below `stop`. -/
def Covers (space : AddressSpace) (stop : Nat) : Prop :=
  ∀ page, (∃ entry, (page, entry) ∈ space.table.leaves) ↔
    Address.pageBase page = page ∧ page < stop

theorem covers_iff (aligned : Address.pageBase stop = stop) :
    Covers state.focus stop ↔ ∀ address,
      ((pager state).entryAt address).isPresent = true ↔ address < stop := by
  have leaf (page : Nat) : (∃ entry, (page, entry) ∈
      state.focus.table.leaves) ↔ Address.pageBase page = page ∧
        ((pager state).entryAt page).isPresent = true := by
    simp only [PageTable.mem_leaves_iff_entryAt]
    constructor
    · rintro ⟨_, boundary, rfl, isPresent⟩
      exact ⟨boundary, isPresent⟩
    · rintro ⟨boundary, isPresent⟩
      exact ⟨_, boundary, rfl, isPresent⟩
  constructor
  · intro covers address
    have base := (leaf (Address.pageBase address)).symm.trans (covers _)
    simp only [Address.pageBase_pageBase, Pager.entryAt_pageBase,
      true_and] at base
    rw [base]
    simp only [Address.pageBase, pageSize] at *
    omega
  · intro present page
    rw [leaf, present]

/-- Memory is well-formed and ends at the page boundary `stop`. -/
structure Ends (state : Hosted AddressSpace) (stop : Nat) : Prop where
  wellFormed : WellFormed state
  aligned : Address.pageBase stop = stop
  isPresent : ∀ address,
    ((pager state).entryAt address).isPresent = true ↔ address < stop

/-- A page that is tracked is there. -/
theorem IsFormed.isPresent_of_residenceAt? (formed : IsFormed state)
    (isPaging : state.focus.isPaging = true) {handle : Nat}
    {residence : Residence}
    (known : state.focus.ledger.residenceAt? handle = some residence)
    (taken : residence.isFree = false) :
    ((pager state).entryAt residence.address).isPresent = true := by
  obtain ⟨tracked, place, rfl⟩ := Option.map_eq_some_iff.mp known
  have named : (pager state).residenceOf? tracked.residence.address =
      some tracked.residence :=
    formed.ledger.residenceOf?_eq_some_iff.mpr
      ⟨handle, tracked, place, ⟨taken, rfl⟩, rfl⟩
  obtain ⟨_, isValid, isPagedOut⟩ := formed.tracked isPaging named
  rw [Entry.isPresent, isValid, isPagedOut]
  generalize tracked.residence = residence at taken
  cases residence with
  | free => cases taken
  | resident _ => rfl
  | swapped _ _ => rfl

/-- No page is tracked at or above the end of memory. -/
theorem Ends.address_lt (ends : Ends state stop)
    (isPaging : state.focus.isPaging = true) {handle : Nat}
    {residence : Residence}
    (known : state.focus.ledger.residenceAt? handle = some residence)
    (taken : residence.isFree = false) : residence.address < stop :=
  (ends.isPresent _).mp
    (ends.wellFormed.isFormed.isPresent_of_residenceAt? isPaging known taken)

/-- Since `origin`, whose memory ends at `start`, `added` pages were added from
there on, and the first `removed` of them were taken away again. -/
structure Grown (origin : Hosted AddressSpace) (start removed added : Nat)
    (state : Hosted AddressSpace) : Prop where
  wellFormed : WellFormed state
  setting : SameSetting origin state
  isPresent : ∀ address, ((pager state).entryAt address).isPresent = true ↔
    address < start ∨ start + removed * pageSize ≤ address ∧
      address < start + added * pageSize
  places : origin.focus.isPaging = true → ∀ handle,
    origin.focus.ledger.RecedesAt state.focus.ledger handle ∨
      Ledger.FillsAt start origin.focus.ledger state.focus.ledger handle
  tracked : origin.focus.isPaging = true →
    (pager state).frames.freeCount + state.focus.ledger.residentCount =
      (pager origin).frames.freeCount + origin.focus.ledger.residentCount
  plain : origin.focus.isPaging = false →
    (∀ handle, state.focus.ledger.residenceAt? handle =
      origin.focus.ledger.residenceAt? handle) ∧
    state.focus.ledger.residentCount = origin.focus.ledger.residentCount ∧
    state.focus.swap = origin.focus.swap ∧
    (pager state).frames.freeCount + added =
      (pager origin).frames.freeCount + removed

theorem Ends.grown (ends : Ends origin start) :
    Grown origin start 0 0 origin where
  wellFormed := ends.wellFormed
  setting := .refl origin
  isPresent address := by
    rw [ends.isPresent]
    omega
  places _ _ := .inl (.inl rfl)
  tracked _ := rfl
  plain _ := ⟨fun _ => rfl, rfl, rfl, rfl⟩

namespace Grown

/-- A page more is added. -/
theorem joins (grown : Grown origin start 0 added state)
    (aligned : Address.pageBase start = start)
    (joins : Joins state (start + added * pageSize) after) :
    Grown origin start 0 (added + 1) after where
  wellFormed := joins.wellFormed
  setting := grown.setting.trans joins.setting
  isPresent address := by
    rw [joins.isPresent]
    simp only [Pager.mem_page_iff (Address.pageBase_add_mul aligned added)]
    have present := grown.isPresent address
    simp only [pageSize] at *
    split
    · refine iff_of_true rfl ?_
      omega
    · rw [present]
      omega
  places isPaging handle := by
    have places := grown.places isPaging
    rw [← grown.setting.isPaging] at isPaging
    obtain ⟨place, wasFree, fills, others⟩ :=
      (joins.tracked isPaging).1.place
    by_cases here : handle = place
    · rw [here]
      obtain recedes | ⟨_, _, known, taken, _⟩ := places place
      · exact .inr ⟨recedes.free wasFree, _, fills, rfl, Nat.le_add_right _ _⟩
      · cases wasFree.symm.trans known
        cases taken
    · have recedesOn := others handle here
      exact (places handle).imp (fun recedes => recedes.trans recedesOn)
        fun fills => fills.trans_recedesAt recedesOn
  tracked isPaging := by
    have balance := grown.tracked isPaging
    rw [← grown.setting.isPaging] at isPaging
    obtain ⟨enters, given⟩ := joins.tracked isPaging
    have count := enters.residentCount
    omega
  plain notPaging := by
    obtain ⟨places, count, swap, balance⟩ := grown.plain notPaging
    rw [← grown.setting.isPaging] at notPaging
    obtain ⟨sameLedger, sameSwap, taken⟩ := joins.plain notPaging
    rw [sameLedger]
    exact ⟨places, count, sameSwap.trans swap, by omega⟩

/-- The first page that is left is taken away. -/
theorem drops (grown : Grown origin start removed added state)
    (ends : Ends origin start)
    (drops : Drops state (start + removed * pageSize) after) :
    Grown origin start (removed + 1) added after where
  wellFormed := drops.wellFormed
  setting := grown.setting.trans drops.setting
  isPresent address := by
    rw [drops.isPresent]
    simp only [Pager.mem_page_iff
      (Address.pageBase_add_mul ends.aligned removed)]
    have present := grown.isPresent address
    simp only [pageSize] at *
    split
    · refine iff_of_false Bool.false_ne_true ?_
      omega
    · rw [present]
      omega
  places isPaging handle := by
    have places := grown.places isPaging
    have still := isPaging
    rw [← grown.setting.isPaging] at still
    obtain ⟨place, residence, known, taken, address, others, _⟩ :=
      drops.tracked still
    by_cases here : handle = place
    · have isFree := (others place).trans (if_pos rfl)
      rw [here]
      obtain recedes | ⟨wasFree, _⟩ := places place
      · -- A page of `origin` is below the one that is taken away.
        have below : residence.address < start := by
          obtain same | ⟨_, _, resident, swapped⟩ := recedes
          · exact ends.address_lt isPaging (same.symm.trans known) taken
          · have low := ends.address_lt isPaging resident rfl
            cases known.symm.trans swapped
            exact low
        omega
      · exact .inl (.inl (isFree.trans wasFree.symm))
    · have unchanged := (others handle).trans (if_neg here)
      exact (places handle).imp (fun recedes =>
        recedes.trans (.inl unchanged)) fun fills =>
          fills.trans_recedesAt (.inl unchanged)
  tracked isPaging := by
    have balance := grown.tracked isPaging
    rw [← grown.setting.isPaging] at isPaging
    obtain ⟨_, _, _, _, _, _, still⟩ := drops.tracked isPaging
    omega
  plain notPaging := by
    obtain ⟨places, count, swap, balance⟩ := grown.plain notPaging
    rw [← grown.setting.isPaging] at notPaging
    obtain ⟨sameLedger, sameSwap, given⟩ := drops.plain notPaging
    rw [sameLedger]
    exact ⟨places, count, sameSwap.trans swap, by omega⟩

theorem remains (grown : Grown origin start removed added state)
    (remains : Remains state after) :
    Grown origin start removed added after where
  wellFormed := remains.wellFormed
  setting := grown.setting.trans remains.setting
  isPresent address := by
    rw [remains.isPresent]
    exact grown.isPresent address
  places isPaging handle := (grown.places isPaging handle).imp
    (fun recedes => recedes.trans (.inl (remains.places handle)))
    fun fills => fills.trans_recedesAt (.inl (remains.places handle))
  tracked isPaging := by
    rw [remains.freeCount, remains.residentCount]
    exact grown.tracked isPaging
  plain notPaging := by
    obtain ⟨places, rest⟩ := grown.plain notPaging
    rw [remains.freeCount, remains.residentCount, remains.swap]
    exact ⟨fun handle => (remains.places handle).trans (places handle), rest⟩

end Grown

theorem grown_unmapRun {fatal : Fatal → Prop}
    {failed : PagingError → Hosted AddressSpace → Prop} (count : Nat)
    (ends : Ends origin start)
    (grown : Grown origin start removed (removed + count) state) :
    ((unmapRun true (start + removed * pageSize) count).run state).Meets fatal
      (fun _ => Grown origin start (removed + count) (removed + count))
      failed := by
  induction count generalizing removed state with
  | zero => exact grown
  | succ count ih =>
      have further : removed + (count + 1) = removed + 1 + count := by omega
      have next : start + removed * pageSize + pageSize =
          start + (removed + 1) * pageSize := by
        rw [Nat.succ_mul, Nat.add_assoc]
      have isThere : ((pager state).entryAt
          (start + removed * pageSize)).isPresent = true := by
        rw [grown.isPresent]
        simp only [pageSize]
        omega
      rw [further] at grown ⊢
      rw [unmapRun, next]
      exact Action.meets_bind (drops_unmapPage grown.wellFormed
        (Address.pageBase_add_mul ends.aligned removed) isThere)
        fun _ _ drops => ih (grown.drops ends drops)

/-- All pages that were added are taken back. -/
theorem grown_shrink {fatal : Fatal → Prop}
    {failed : PagingError → Hosted AddressSpace → Prop}
    (ends : Ends origin (Address.pageCeil old))
    (inside : Address.pageCeil old + added * pageSize ≤ addressLimit)
    (grown : Grown origin (Address.pageCeil old) 0 added state) :
    ((shrink (Address.pageCeil old + added * pageSize) old).run state).Meets
      fatal (fun _ => Grown origin (Address.pageCeil old) added added)
      failed := by
  have above := Address.le_pageCeil old
  by_cases nothing : Address.pageCeil old + added * pageSize ≤ old
  · have isZero : added = 0 := by
      simp only [pageSize] at nothing
      omega
    rw [shrink, if_pos nothing]
    rwa [isZero] at grown ⊢
  have boundary : Address.pageCeil (Address.pageCeil old + added * pageSize) =
      Address.pageCeil old + added * pageSize :=
    Address.pageCeil_eq_self_iff.mpr (Address.pageBase_eq_self_iff.mp
      (Address.pageBase_add_mul ends.aligned added))
  have pages : (Address.pageCeil old + added * pageSize -
      Address.pageCeil old) / pageSize = added := by
    rw [Nat.add_sub_cancel_left]
    exact Nat.mul_div_cancel _ (by decide)
  have fits : Address.pageCeil old + added * pageSize + pageSize <
      Word.limit := by
    simp only [addressLimit, pageSize, Word.limit] at *
    omega
  have oldFits : old + pageSize < Word.limit := by omega
  rw [shrink, if_neg nothing, Action.liftM_eq_ofExcept,
    Action.liftM_eq_ofExcept, Word.roundUp_of_lt oldFits,
    Action.run_bind_of_done (Action.run_ofExcept_ok _ _),
    Word.roundUp_of_lt fits,
    Action.run_bind_of_done (Action.run_ofExcept_ok _ _), boundary, pages]
  refine Action.meets_bind_of
    (fun _ => Grown origin (Address.pageCeil old) added added)
    (Action.meets_runIf (fun _ => ?_) fun isEmpty => ?_)
    fun _ _ shrunk => shrunk
  · rw [unmap, Action.run_bind_of_done (by
      rw [Action.run_crashUnless,
        if_pos (Address.isPageAligned_pageCeil old)])]
    have whole : Grown origin (Address.pageCeil old) 0 (0 + added) state := by
      rwa [Nat.zero_add]
    simpa only [Nat.zero_mul, Nat.add_zero, Nat.zero_add] using
      grown_unmapRun added ends whole
  · have isZero : added = 0 := by
      simp only [pageSize] at isEmpty
      omega
    rwa [isZero] at grown ⊢

end AddressSpace

end DemandPaging
