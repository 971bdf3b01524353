import DemandPaging.Proofs.UserCopy.Pages

/-!
# How far a copy has come

A copy traverses its range page by page (`Traverses`).  Where it stops, it
stops before the first byte of a page or before its own first byte, and there
is a reason for it (`Stops`).
-/

namespace DemandPaging

namespace AddressSpace

variable {state middle after : Hosted AddressSpace}
  {address length passed copied more ticks : Nat} {isWrite : Bool}
  {error : PagingError} {bytes : List UInt8}

theorem isBarred_congr {other : Nat}
    (same : Address.pageBase other = Address.pageBase address) :
    IsBarred state isWrite other ↔ IsBarred state isWrite address := by
  rw [IsBarred, IsBarred, same]

/-- A copy has dealt with the first `passed` bytes from `address` on, which it
may use, and with no page beyond them. -/
structure Traverses (state after : Hosted AddressSpace) (isWrite : Bool)
    (address passed ticks : Nat) : Prop where
  carries : Carries state after ticks address (address + passed)
  allowed : ∀ index, index < passed → ¬IsBarred state isWrite (address + index)

/-- A copy of `length` bytes from `address` on ended in `error` after the first
`copied` bytes. -/
structure Stops (state after : Hosted AddressSpace) (isWrite : Bool)
    (address length ticks : Nat) (error : PagingError) (copied : Nat) :
    Prop extends Traverses state after isWrite address copied ticks where
  less : copied < length
  begins : copied = 0 ∨ Address.isPageAligned (address + copied) = true
  reason : error = .badAddress (address + copied) ∧
      IsBarred state isWrite (address + copied) ∨
    IsShortfall state after error ∧ ¬IsBarred state isWrite (address + copied) ∧
      after.focus.IsPagedOut (Address.pageBase (address + copied))

namespace Traverses

theorem refl (formed : IsFormed state) (isWrite : Bool) (address : Nat) :
    Traverses state state isWrite address 0 0 where
  carries := .refl formed address
  allowed _ less := absurd less (Nat.not_lt_zero _)

theorem weaken (traverses : Traverses state after isWrite address passed ticks)
    (enough : ticks ≤ more) :
    Traverses state after isWrite address passed more :=
  ⟨traverses.carries.weaken enough (Nat.le_refl _), traverses.allowed⟩

/-- A copy that may use one address may use its page. -/
theorem of_page (carries : Carries state after ticks address (address + 1))
    (allowed : ¬IsBarred state isWrite address) (positive : 0 < passed)
    (inPage : Address.pageOffset address + passed ≤ pageSize) :
    Traverses state after isWrite address passed ticks where
  carries := carries.weaken (Nat.le_refl _) (Nat.add_le_add_left positive _)
  allowed index less := by
    rwa [isBarred_congr (Address.pageBase_add (by omega))]

theorem trans (first : Traverses state middle isWrite address passed ticks)
    (second : Traverses middle after isWrite (address + passed) copied more) :
    Traverses state after isWrite address (passed + copied) (ticks + more) where
  carries := by
    rw [← Nat.add_assoc]
    exact first.carries.trans second.carries (Nat.le_add_right _ _)
      (Nat.le_add_right _ _)
  allowed index less := by
    by_cases isEarly : index < passed
    · exact first.allowed index isEarly
    · have later := second.allowed (index - passed) (by omega)
      have position : address + passed + (index - passed) =
          address + index := by omega
      rwa [position, first.carries.isBarred_iff] at later

/-- A copy has dealt with the part of its range in the first page, and with the
rest. -/
theorem of_first (traverses : Traverses state middle isWrite address
      (Span.first address length) ticks)
    (rest : Traverses middle after isWrite (address + Span.first address length)
      (length - Span.first address length) more) :
    Traverses state after isWrite address length (ticks + more) := by
  have whole := traverses.trans rest
  rwa [Nat.add_sub_cancel' (Span.first_le address length)] at whole

end Traverses

theorem isPageAligned_add_first (address length : Nat)
    (long : Span.first address length < length) :
    Address.isPageAligned (address + Span.first address length) = true :=
  Address.isPageAligned_iff.mpr (Span.pageOffset_add_first long)

namespace Stops

theorem of_refusesPage (refuses : RefusesPage state after isWrite address error)
    (positive : 0 < length) (enough : (pager state).turns + 1 ≤ ticks) :
    Stops state after isWrite address length ticks error 0 where
  carries := refuses.carries.weaken enough (Nat.le_refl _)
  allowed _ less := absurd less (Nat.not_lt_zero _)
  less := positive
  begins := .inl rfl
  reason := refuses.reason

/-- What stops a copy behind the first page stops the copy. -/
theorem of_first (traverses : Traverses state middle isWrite address
      (Span.first address length) ticks)
    (stops : Stops middle after isWrite (address + Span.first address length)
      (length - Span.first address length) more error copied) :
    Stops state after isWrite address length (ticks + more) error
      (Span.first address length + copied) where
  toTraverses := traverses.trans stops.toTraverses
  less := by
    have less := stops.less
    omega
  begins := by
    have less := stops.less
    have begins := isPageAligned_add_first address length (by omega)
    rw [← Nat.add_assoc]
    exact .inr (stops.begins.elim (fun none => none ▸ begins) id)
  reason := by
    rw [← Nat.add_assoc, ← traverses.carries.isBarred_iff]
    exact stops.reason.imp_right
      (And.imp_left traverses.carries.device.isShortfall)

end Stops

theorem logicalPage?_eq_of_view? (same : view? after = view? state) :
    logicalPage? after = logicalPage? state := by
  funext address
  have here : (pager after).view? address = (pager state).view? address :=
    congrFun same address
  rw [logicalPage?_eq, logicalPage?_eq, Pager.logicalPage?_eq_view?,
    Pager.logicalPage?_eq_view?, here]

/-- Bytes are written within a page that is in memory. -/
theorem exists_written (formed : IsFormed state) {frame : Nat}
    {contents : Page} (inFrame : InFrame state address frame contents)
    (inPage : Address.pageOffset address + bytes.length ≤ pageSize) :
    ∃ after, (writeFrame frame (contents.overwrite
        (Address.pageOffset address) bytes).toList).run state =
          .done () after ∧
      Carries state after 0 address (address + 1) ∧
      FlatMemory.Receives (logicalPage? state) (logicalPage? after) address
        bytes := by
  obtain ⟨isValid, rfl, lent⟩ := inFrame
  obtain ⟨frames, written, shown, writes⟩ := Pager.exists_writes
    (fun _ firstValid secondValid =>
      formed.pageBase_eq_of_address_eq firstValid secondValid)
    isValid lent inPage
  have becomes := becomes_setPool formed.pool_lt frames
  have total := FramePool.total_of_write written
  have stillFormed := formed.of_lent total (formed.pool.write written)
    fun other held wasLent => by
      rw [shown]
      split
      · exact ⟨_, rfl⟩
      · exact ⟨held, wasLent⟩
  refine ⟨withFrames state frames, ?_, ?_, ?_⟩
  · have changed : (Action.change fun pool : FramePool =>
        pool.write ((pager state).entryAt address).address
          (contents.overwrite (Address.pageOffset address) bytes).toList).run
            (state.host.pool state.focus.pool) = .done () frames :=
      Action.run_change_of_ok written
    rw [writeFrame, onFrames, Action.run_zoom, changed]
    rfl
  · exact Carries.of_becomes stillFormed becomes
      ⟨rfl, rfl, rfl, rfl, rfl, total⟩ rfl rfl
      (FramePool.freeCount_of_write written) (fun _ => .refl _)
      fun _ _ => rfl
  · rw [logicalPage?_eq_pager, logicalPage?_eq_pager,
      pager_withFrames formed.pool_lt]
    exact writes.toReceives

/-- One run is written, or the copy is refused its page. -/
theorem meets_writeRun_of_isFormed (formed : IsFormed state)
    (inPage : Address.pageOffset address + bytes.length ≤ pageSize) :
    ((writeRun ⟨address, length⟩ bytes).run state).Meets
      (CopyEnds state ((pager state).turns + 1))
      (fun _ after => ¬IsBarred state true address ∧
        Carries state after ((pager state).turns + 1) address (address + 1) ∧
        FlatMemory.Receives (logicalPage? state) (logicalPage? after) address
          bytes)
      (fun error after => RefusesPage state after true address error) := by
  rw [writeRun]
  refine Action.meets_bind (meets_userPage_of_isFormed formed true) ?_
  rintro frame middle ⟨allowed, carries, sameView, contents, inFrame⟩
  rw [Action.run_bind_of_done
    (run_readFrame carries.formed.pool_lt inFrame.lent)]
  obtain ⟨after, written, writes, receives⟩ :=
    exists_written carries.formed inFrame inPage
  rw [written]
  rw [logicalPage?_eq_of_view? sameView] at receives
  exact ⟨allowed, carries.trans writes (Nat.le_refl _) (Nat.le_refl _),
    receives⟩

/-- The bytes of one run are read, or the copy is refused its page. -/
theorem meets_readRun_of_isFormed (formed : IsFormed state)
    (inPage : Address.pageOffset address + length ≤ pageSize) :
    ((readRun ⟨address, length⟩).run state).Meets
      (CopyEnds state ((pager state).turns + 1))
      (fun bytes after => ¬IsBarred state false address ∧
        Carries state after ((pager state).turns + 1) address (address + 1) ∧
        view? after = view? state ∧ bytes.length = length ∧
        FlatMemory.Reads (logicalPage? state) address bytes)
      (fun error after => RefusesPage state after false address error) := by
  rw [readRun]
  refine Action.meets_bind (meets_userPage_of_isFormed formed false) ?_
  rintro frame after ⟨allowed, carries, sameView, contents, inFrame⟩
  rw [Action.run_bind_of_done
    (run_readFrame carries.formed.pool_lt inFrame.lent)]
  obtain ⟨whole, reads⟩ := inFrame.reads inPage
  rw [← logicalPage?_eq_pager, logicalPage?_eq_of_view? sameView] at reads
  exact ⟨allowed, carries, sameView, whole, reads⟩

end AddressSpace

end DemandPaging
