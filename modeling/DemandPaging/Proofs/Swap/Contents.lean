import DemandPaging.Action.Meets
import DemandPaging.Proofs.Positions
import DemandPaging.Swap.Consistent

/-!
# What swap slots hold

The view of a swap space is twofold: which slots are claimed, and what each
slot holds (`SwapSpace.contents?`).  Claiming and releasing change the first at
one slot, a stored page changes the second at one slot, and a transfer that
fails changes neither.
-/

namespace DemandPaging

namespace SwapSpace

variable {swap after : SwapSpace} {slot other : Nat} {bytes : List UInt8}

/-- The page in a slot, if the file reaches that far. -/
def contents? (swap : SwapSpace) (slot : Nat) : Option (List UInt8) :=
  (swap.file.read (slot * pageSize) pageSize).toOption

theorem contents?_eq_some_iff :
    swap.contents? slot = some bytes ↔
      swap.file.read (slot * pageSize) pageSize = .ok bytes := by
  unfold contents?
  cases swap.file.read (slot * pageSize) pageSize with
  | ok held => simp [Except.toOption]
  | error failure => simp [Except.toOption]

theorem length_of_contents? (held : swap.contents? slot = some bytes) :
    bytes.length = pageSize := by
  rw [contents?_eq_some_iff, SwapFile.read] at held
  split at held
  · rename_i fits
    cases held
    rw [SwapFile.size] at fits
    rw [Bytes.length_slice]
    omega
  · cases held

/-- A stored page is in its slot, and every other slot holds what it held. -/
theorem contents?_of_write {file : SwapFile}
    (length : bytes.length = pageSize)
    (written : swap.file.write (slot * pageSize) bytes = .ok file)
    (same : after.file = file) (other : Nat) :
    after.contents? other =
      if other = slot then some bytes else swap.contents? other := by
  subst same
  by_cases here : other = slot
  · subst here
    rw [if_pos rfl, contents?_eq_some_iff]
    have readBack := SwapFile.read_of_write written
    rw [length] at readBack
    exact readBack
  · rw [if_neg here, contents?, contents?]
    have disjoint : other * pageSize + pageSize ≤ slot * pageSize ∨
        slot * pageSize + bytes.length ≤ other * pageSize := by
      rw [length]
      simp only [pageSize]
      omega
    rw [SwapFile.read_of_write_of_disjoint written disjoint]

theorem exists_contents?_of_write {file : SwapFile}
    (length : bytes.length = pageSize)
    (written : swap.file.write (slot * pageSize) bytes = .ok file) :
    ∃ held, swap.contents? slot = some held := by
  unfold SwapFile.write at written
  split at written
  · rename_i fits
    rw [length] at fits
    exact ⟨_, contents?_eq_some_iff.mpr (if_pos fits)⟩
  · cases written

theorem isClaimed_of_free (isFree : swap.used[slot]? = some false) :
    swap.isClaimed slot = false := by
  rw [isClaimed, isFree]
  rfl

theorem lt_capacity_of_isClaimed (claimed : swap.isClaimed slot = true) :
    slot < swap.capacity := by
  rw [isClaimed_iff] at claimed
  exact (Array.getElem?_eq_some_iff.mp claimed).1

/-- The slots that are claimed. -/
def claimedSlots (swap : SwapSpace) : Finset Nat :=
  positions id swap.used

theorem mem_claimedSlots :
    slot ∈ swap.claimedSlots ↔ swap.isClaimed slot = true := by
  rw [claimedSlots, mem_positions, isClaimed_iff]
  constructor
  · rintro ⟨isUsed, found, rfl⟩
    exact found
  · exact fun found => ⟨true, found, rfl⟩

theorem IsConsistent.card_claimedSlots (counted : swap.IsConsistent) :
    swap.claimedSlots.card = swap.inUse := by
  rw [counted, count_eq_countP, claimedSlots, card_positions]

theorem isClaimed_take_of_free (isFree : swap.used[slot]? = some false)
    (other : Nat) :
    (swap.take slot).isClaimed other =
      if other = slot then true else swap.isClaimed other := by
  obtain ⟨inside, _⟩ := Array.getElem?_eq_some_iff.mp isFree
  rw [isClaimed_take inside]
  simp only [eq_comm]

theorem IsConsistent.take (consistent : swap.IsConsistent)
    (isFree : swap.used[slot]? = some false) :
    (swap.take slot).IsConsistent := by
  obtain ⟨inside, value⟩ := Array.getElem?_eq_some_iff.mp isFree
  have counted := Array.count_set (a := true) (b := true) inside
  rw [value] at counted
  rw [IsConsistent, SwapSpace.take] at *
  simp only [Array.setIfInBounds_def, dif_pos inside]
  rw [counted, consistent]
  simp

/-- A claimed slot can be released, and is the only one that is no longer
claimed. -/
theorem release_of_isClaimed (consistent : swap.IsConsistent)
    (claimed : swap.isClaimed slot = true) :
    ∃ after, swap.release slot = .ok after ∧ after.IsConsistent ∧
      after.capacity = swap.capacity ∧ after.file = swap.file ∧
      after.inUse + 1 = swap.inUse ∧
      ∀ other, after.isClaimed other =
        if other = slot then false else swap.isClaimed other := by
  have isUsed := isClaimed_iff.mp claimed
  obtain ⟨inside, value⟩ := Array.getElem?_eq_some_iff.mp isUsed
  have counted := Array.count_set (a := false) (b := true) inside
  have positive : 0 < swap.used.count true := by
    rw [Array.count_pos_iff]
    exact Array.mem_of_getElem? isUsed
  refine ⟨_, release_eq_ok_iff.mpr ⟨isUsed, rfl⟩, ?_, ?_, rfl, ?_, ?_⟩
  · rw [value] at counted
    rw [IsConsistent] at *
    simp only [Array.setIfInBounds_def, dif_pos inside]
    rw [counted, consistent]
    simp
  · simp [capacity]
  · rw [IsConsistent] at consistent
    dsimp only
    omega
  · intro other
    simp only [isClaimed, Array.getElem?_setIfInBounds]
    by_cases same : other = slot
    · subst same
      simp [inside]
    · simp [same, Ne.symm same]

theorem release_take (isFree : swap.used[slot]? = some false) :
    (swap.take slot).release slot = .ok swap := by
  obtain ⟨inside, value⟩ := Array.getElem?_eq_some_iff.mp isFree
  refine release_eq_ok_iff.mpr ⟨?_, ?_⟩
  · simp [SwapSpace.take, inside]
  · simp only [SwapSpace.take, Array.setIfInBounds_setIfInBounds,
      Nat.add_sub_cancel]
    rw [Array.setIfInBounds_def, dif_pos inside, ← value, Array.set_getElem_self]

theorem claim_of_freeSlots (consistent : swap.IsConsistent)
    (room : swap.freeSlots ≠ 0) :
    ∃ slot, swap.used[slot]? = some false ∧
      swap.claim = (some slot, swap.take slot) := by
  have fewer : swap.used.count true < swap.used.size := by
    rw [← consistent]
    simp only [freeSlots, capacity] at room
    omega
  cases claimed : swap.claim with
  | mk found after =>
      cases found with
      | some slot =>
          obtain ⟨isFree, _, rfl⟩ := claim_eq_some_iff.mp claimed
          exact ⟨slot, isFree, rfl⟩
      | none =>
          obtain ⟨allClaimed, _⟩ := claim_eq_none_iff.mp claimed
          have counted : swap.used.count true = swap.used.size := by
            rw [Array.count_eq_size]
            intro value member
            obtain ⟨index, inside, rfl⟩ := Array.mem_iff_getElem.mp member
            have isUsed := isClaimed_iff.mp (allClaimed index inside)
            exact (Array.getElem?_eq_some_iff.mp isUsed).2.symm
          omega

theorem le_inUse_of_claim (consistent : swap.IsConsistent)
    (claimed : swap.claim = (some slot, after)) : slot ≤ swap.inUse := by
  obtain ⟨isFree, below, _⟩ := claim_eq_some_iff.mp claimed
  obtain ⟨inside, _⟩ := Array.getElem?_eq_some_iff.mp isFree
  have full : (swap.used.toList.take slot).count true = slot := by
    have length : (swap.used.toList.take slot).length = slot := by
      rw [List.length_take, Array.length_toList]
      omega
    refine (List.count_eq_length.mpr ?_).trans length
    intro value member
    obtain ⟨index, bound, rfl⟩ := List.mem_iff_getElem.mp member
    rw [length] at bound
    have isUsed := isClaimed_iff.mp (below index bound)
    have atIndex := (Array.getElem?_eq_some_iff.mp isUsed).2
    rw [List.getElem_take, Array.getElem_toList]
    exact atIndex.symm
  have part := (List.take_sublist slot swap.used.toList).count_le true
  rw [full, Array.count_toList, ← consistent] at part
  exact part

/-- A transfer of a page to or from the slot fails, where the failing devices
complete `left` more of its kind: they complete no more, or the slot does not lie
in the file. -/
def Refuses (swap : SwapSpace) (left : Option Nat) (slot : Nat)
    (error : PagingError) : Prop :=
  error = .swapTransfer ⟨slot * pageSize, pageSize⟩ ∧
    (swap.isMetered = true ∧ left = some 0 ∨
      swap.file.size < slot * pageSize + pageSize)

theorem Refuses.isTransfer {left : Option Nat} {error : PagingError}
    (refuses : swap.Refuses left slot error) :
    ∃ failure, error = .swapTransfer failure :=
  ⟨_, refuses.1⟩

end SwapSpace

theorem Transfers.spendRead_eq_none_iff {transfers : Transfers} :
    transfers.spendRead = none ↔ transfers.reads = some 0 := by
  rw [spendRead, Option.map_eq_none_iff]
  obtain ⟨_ | _ | _, _⟩ := transfers <;> simp [spend]

theorem Transfers.spendWrite_eq_none_iff {transfers : Transfers} :
    transfers.spendWrite = none ↔ transfers.writes = some 0 := by
  rw [spendWrite, Option.map_eq_none_iff]
  obtain ⟨_, _ | _ | _⟩ := transfers <;> simp [spend]

namespace SwapDevice

variable {device : SwapDevice} {slot : Nat} {bytes : List UInt8}

theorem run_meter_of_unmetered (unmetered : device.space.isMetered = false)
    (offset : Nat) (spend : Transfers → Option Transfers) :
    (meter offset spend).run device = .done () device := by
  rw [meter, Action.run_bind_of_done (Action.run_get device), Action.run_runIf,
    if_neg (by rw [unmetered]; exact Bool.false_ne_true)]

/-- What the meter leaves: the slots and the file as they were. -/
theorem meets_meter (offset : Nat) (spend : Transfers → Option Transfers)
    {fatal : Fatal → Prop} :
    ((meter offset spend).run device).Meets fatal
      (fun _ after => after.space = device.space)
      (fun error after =>
        error = .swapTransfer ⟨offset, pageSize⟩ ∧
          device.space.isMetered = true ∧ spend after.transfers = none ∧
            after.space = device.space) := by
  rw [meter, Action.run_bind_of_done (Action.run_get device)]
  refine Action.meets_runIf (fun metered => ?_) fun _ => rfl
  cases spends : spend device.transfers with
  | none => exact ⟨rfl, metered, spends, rfl⟩
  | some transfers => rfl

/-- A stored page is in the file; a store that fails has moved nothing. -/
theorem meets_store (length : bytes.length = pageSize)
    {fatal : Fatal → Prop}
    (overflow : Word.limit ≤ slot * pageSize → fatal .overflow) :
    ((store slot bytes).run device).Meets fatal
      (fun _ after => ∃ file,
        device.space.file.write (slot * pageSize) bytes = .ok file ∧
          after.space = { device.space with file })
      (fun error after =>
        device.space.Refuses after.transfers.writes slot error ∧
          after.space = device.space) := by
  have enough : pageSize ≤ bytes.length := by omega
  have whole : bytes.take pageSize = bytes := List.take_of_length_le (by omega)
  rw [store, Action.run_bind_of_done (by rw [Action.run_crashUnless, if_pos enough]),
    Action.liftM_eq_ofExcept, SwapSpace.offset, Word.mul, Word.fit]
  by_cases fits : slot * pageSize < Word.limit
  · rw [if_pos fits, Action.run_bind_of_done (Action.run_ofExcept_ok _ _)]
    refine Action.meets_bind ((meets_meter _ _).mono_failed ?_)
      fun _ metered same => ?_
    · rintro _ after ⟨rfl, metered, spent, same⟩
      exact ⟨⟨rfl, .inl ⟨metered, Transfers.spendWrite_eq_none_iff.mp spent⟩⟩,
        same⟩
    rw [Action.run_bind_of_done (Action.run_get metered), whole, same]
    cases written : device.space.file.write (slot * pageSize) bytes with
    | error failure =>
        obtain ⟨rfl, beyond⟩ := SwapFile.of_write_eq_error written
        rw [length] at beyond ⊢
        exact ⟨⟨rfl, .inr beyond⟩, same⟩
    | ok file =>
        refine ⟨file, rfl, ?_⟩
        rw [← same]
  · rw [if_neg fits, Action.run_bind_of_fatal (Action.run_ofExcept_error _ _)]
    exact overflow (Nat.le_of_not_lt fits)

/-- A loaded page is what its slot holds; loading leaves the slots as they
are. -/
theorem meets_load {fatal : Fatal → Prop}
    (overflow : Word.limit ≤ slot * pageSize → fatal .overflow) :
    ((load slot).run device).Meets fatal
      (fun bytes after => device.space.contents? slot = some bytes ∧
        after.space = device.space)
      (fun error after =>
        device.space.Refuses after.transfers.reads slot error ∧
          after.space = device.space) := by
  rw [load, Action.liftM_eq_ofExcept, SwapSpace.offset, Word.mul, Word.fit]
  by_cases fits : slot * pageSize < Word.limit
  · rw [if_pos fits, Action.run_bind_of_done (Action.run_ofExcept_ok _ _)]
    refine Action.meets_bind ((meets_meter _ _).mono_failed ?_)
      fun _ metered same => ?_
    · rintro _ after ⟨rfl, metered, spent, same⟩
      exact ⟨⟨rfl, .inl ⟨metered, Transfers.spendRead_eq_none_iff.mp spent⟩⟩,
        same⟩
    rw [Action.run_bind_of_done (Action.run_get metered), same]
    cases found : device.space.file.read (slot * pageSize) pageSize with
    | error failure =>
        obtain ⟨rfl, beyond⟩ := SwapFile.of_read_eq_error found
        exact ⟨⟨rfl, .inr beyond⟩, same⟩
    | ok bytes => exact ⟨SwapSpace.contents?_eq_some_iff.mpr found, same⟩
  · rw [if_neg fits, Action.run_bind_of_fatal (Action.run_ofExcept_error _ _)]
    exact overflow (Nat.le_of_not_lt fits)

end SwapDevice

end DemandPaging
