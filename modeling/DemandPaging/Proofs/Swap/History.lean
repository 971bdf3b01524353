import DemandPaging.Proofs.Swap.Operations

/-!
# What the past of a swap device tells of it

A device starts with no slot claimed and zeros in its file, and is asked for one
thing after the other, up to the first that is fatal.  What happened, the latest
first, tells which slots are claimed and what each of them holds.  The device
agrees with its past in both (`isFaithful_of_runAll`), whether its file is
shorter than its slots or longer.
-/

namespace DemandPaging

namespace SwapDevice

variable {device after : SwapDevice} {event : Event} {operation : Operation}
  {past now : List Event} {operations : List Operation}
  {slots room slot other : Nat} {bytes : List UInt8} {buffer : Array UInt8}
  {file : SwapFile}

/-- `slots` slots over a file, none of them claimed. -/
def ofFile (slots : Nat) (file : SwapFile) : SwapDevice where
  space := SwapSpace.over slots file

/-- What the device has done and what it is now, when it was asked for one thing
after the other. -/
def runAll (past : List Event) (device : SwapDevice) :
    List Operation → Except Fatal (List Event × SwapDevice)
  | [] => return (past, device)
  | operation :: operations => do
    let (event, next) ← operation.run device
    runAll (event :: past) next operations

/-- Was the slot claimed since it was released last? -/
def wasClaimed : (past : List Event) → (slot : Nat) → Bool
  | [], _ => false
  | event :: past, slot => event.claims (wasClaimed past slot) slot

/-- The page that was stored in the slot last, zeros if none was. -/
def lastStored : (past : List Event) → (slot : Nat) → List UInt8
  | [], _ => List.replicate pageSize 0
  | event :: past, slot => event.leaves (lastStored past slot) slot

theorem eq_store_of_run
    (ran : operation.run device = .ok (.stored slot bytes, after)) :
    operation = .store slot bytes := by
  cases operation with
  | claim =>
      simp only [Operation.run] at ran
      split at ran <;> cases ran
  | claimAt _ =>
      obtain ⟨_, _, ⟨⟩⟩ := bind_eq_ok_iff.mp ran
  | release _ =>
      obtain ⟨_, _, ⟨⟩⟩ := bind_eq_ok_iff.mp ran
  | store other page =>
      rw [Operation.run] at ran
      cases ends : (store other page).run device <;> rw [ends] at ran <;>
        cases ran
      rfl
  | load other buffer =>
      rw [Operation.run] at ran
      cases ends : (loadInto other buffer).run device <;> rw [ends] at ran <;>
        cases ran

/-- Whatever is asked for but a store to the slot, what was stored there last is
the same. -/
theorem lastStored_of_runAll
    (spares : ∀ bytes, Operation.store slot bytes ∉ operations)
    (ran : runAll past device operations = .ok (now, after)) :
    lastStored now slot = lastStored past slot := by
  induction operations generalizing past device with
  | nil =>
      cases ran
      rfl
  | cons operation operations ih =>
      simp only [runAll, bind_eq_ok_iff, Prod.exists] at ran
      obtain ⟨event, next, first, rest⟩ := ran
      rw [ih (fun bytes later => spares bytes (.tail _ later)) rest, lastStored]
      cases event with
      | stored other bytes =>
          rw [Event.leaves, if_neg]
          rintro rfl
          exact spares bytes (eq_store_of_run first ▸ List.mem_cons_self)
      | claimed _ | exhausted | released _ | loaded _ _ | refused _ => rfl

/-- The device has the slots that its past tells, and in those that its file
reaches the pages that its past tells. -/
structure Remembers (slots room : Nat) (past : List Event)
    (device : SwapDevice) : Prop where
  isConsistent : device.space.IsConsistent
  unmetered : device.space.isMetered = false
  capacity : device.space.capacity = slots
  size : device.space.file.size = room * pageSize
  isClaimed : ∀ slot, device.space.isClaimed slot = wasClaimed past slot
  contents? : ∀ slot, device.space.contents? slot =
    if slot < room then some (lastStored past slot) else none

theorem remembers_ofFile (slots : Nat)
    (created : SwapFile.new room = .ok file) :
    Remembers slots room [] (ofFile slots file) := by
  obtain ⟨size, sized, ⟨⟩⟩ := bind_eq_ok_iff.mp created
  obtain ⟨_, rfl⟩ := Word.fit_eq_ok_iff.mp sized
  have length : SwapFile.size ⟨Array.replicate (room * pageSize) 0⟩ =
      room * pageSize := Array.size_replicate
  refine ⟨SwapSpace.isConsistent_over slots _, rfl, Array.size_replicate,
    length, ?_, ?_⟩
  · intro slot
    rw [wasClaimed, SwapSpace.isClaimed, ofFile, SwapSpace.over,
      Array.getElem?_replicate]
    split <;> rfl
  · intro slot
    rw [SwapSpace.contents?, ofFile, SwapSpace.over, SwapFile.read, length]
    have reaches : slot * pageSize + pageSize ≤ room * pageSize ↔
        slot < room := by
      rw [← Nat.succ_mul, Nat.mul_le_mul_right_iff (by decide)]
      rfl
    by_cases inside : slot < room
    · have ends := reaches.mpr inside
      have zeros : Bytes.slice (Array.replicate (room * pageSize) 0)
          (slot * pageSize) pageSize = lastStored [] slot := by
        apply List.ext_getElem?
        intro index
        rw [Bytes.getElem?_slice, lastStored, List.getElem?_replicate,
          Array.getElem?_replicate]
        split
        · rename_i within
          rw [if_pos (Nat.lt_of_lt_of_le (Nat.add_lt_add_left within _) ends)]
        · rfl
      rw [if_pos inside, if_pos ends, zeros]
      rfl
    · rw [if_neg inside, if_neg (mt reaches.mp inside)]
      rfl

theorem Remembers.cons (remembers : Remembers slots room past device)
    (happens : device.Happens event after) :
    Remembers slots room (event :: past) after where
  isConsistent := happens.isConsistent
  unmetered := happens.unmetered
  capacity := happens.capacity.trans remembers.capacity
  size := happens.size.trans remembers.size
  isClaimed slot := by
    rw [happens.isClaimed, remembers.isClaimed, wasClaimed]
  contents? slot := by
    rw [happens.contents?, remembers.contents?, lastStored]
    split <;> rfl

theorem remembers_of_runAll (remembers : Remembers slots room past device)
    (ran : runAll past device operations = .ok (now, after)) :
    Remembers slots room now after := by
  induction operations generalizing past device with
  | nil =>
      cases ran
      exact remembers
  | cons operation operations ih =>
      simp only [runAll, bind_eq_ok_iff, Prod.exists] at ran
      obtain ⟨event, next, first, rest⟩ := ran
      exact ih (remembers.cons (happens_of_run remembers.isConsistent
        remembers.unmetered first)) rest

namespace Remembers

variable (remembers : Remembers slots room past device)
include remembers

theorem claimedSlots_eq : device.space.claimedSlots =
    (Finset.range slots).filter fun slot => wasClaimed past slot := by
  ext slot
  rw [SwapSpace.mem_claimedSlots, Finset.mem_filter, Finset.mem_range,
    ← remembers.isClaimed, ← remembers.capacity]
  exact ⟨fun claimed => ⟨SwapSpace.lt_capacity_of_isClaimed claimed, claimed⟩,
    And.right⟩

theorem used_eq_false_iff : device.space.used[slot]? = some false ↔
    slot < slots ∧ wasClaimed past slot = false := by
  rw [← remembers.isClaimed, ← remembers.capacity, SwapSpace.isClaimed,
    SwapSpace.capacity]
  by_cases inside : slot < device.space.used.size
  · simp [inside]
  · simp [inside]

theorem reaches_iff : slot * pageSize + pageSize ≤ device.space.file.size ↔
    slot < room := by
  rw [remembers.size, ← Nat.succ_mul, Nat.mul_le_mul_right_iff (by decide)]
  rfl

theorem run_store_of_lt (roomy : room * pageSize < Word.limit)
    (inside : slot < room) (enough : pageSize ≤ bytes.length) :
    ∃ file, (store slot bytes).run device =
      .done () { device with space := { device.space with file } } := by
  have fits : slot * pageSize < Word.limit :=
    Nat.lt_of_le_of_lt (Nat.mul_le_mul_right _ inside.le) roomy
  have length : (bytes.take pageSize).length = pageSize := by
    rw [List.length_take, Nat.min_eq_left enough]
  rw [run_store remembers.unmetered enough fits, SwapFile.write, length,
    if_pos (remembers.reaches_iff.mpr inside)]
  exact ⟨_, rfl⟩

theorem run_store_of_le (beyond : room ≤ slot)
    (enough : pageSize ≤ bytes.length) (fits : slot * pageSize < Word.limit) :
    (store slot bytes).run device =
      .failed (.swapTransfer ⟨slot * pageSize, pageSize⟩) device := by
  have length : (bytes.take pageSize).length = pageSize := by
    rw [List.length_take, Nat.min_eq_left enough]
  rw [run_store remembers.unmetered enough fits, SwapFile.write, length,
    if_neg (mt remembers.reaches_iff.mp beyond.not_gt)]

theorem run_loadInto_of_lt (roomy : room * pageSize < Word.limit)
    (inside : slot < room) (enough : pageSize ≤ buffer.size) :
    (loadInto slot buffer).run device =
      .done (Bytes.overwrite buffer 0 (lastStored past slot)) device := by
  have fits : slot * pageSize < Word.limit :=
    Nat.lt_of_le_of_lt (Nat.mul_le_mul_right _ inside.le) roomy
  have held := remembers.contents? slot
  rw [if_pos inside, SwapSpace.contents?_eq_some_iff] at held
  rw [run_loadInto remembers.unmetered enough fits, held]

theorem run_loadInto_of_le (beyond : room ≤ slot)
    (enough : pageSize ≤ buffer.size) (fits : slot * pageSize < Word.limit) :
    (loadInto slot buffer).run device =
      .failed (.swapTransfer ⟨slot * pageSize, pageSize⟩) device := by
  rw [run_loadInto remembers.unmetered enough fits, SwapFile.read,
    if_neg (mt remembers.reaches_iff.mp beyond.not_gt)]

theorem loadInto_eq_done_iff (roomy : room * pageSize < Word.limit)
    {filled : Array UInt8} :
    (loadInto slot buffer).run device = .done filled device ↔
      slot < room ∧ pageSize ≤ buffer.size ∧
        filled = Bytes.overwrite buffer 0 (lastStored past slot) := by
  constructor
  · intro ran
    by_cases allowed : pageSize ≤ buffer.size ∧ slot * pageSize < Word.limit
    · by_cases inside : slot < room
      · rw [remembers.run_loadInto_of_lt roomy inside allowed.1] at ran
        cases ran
        exact ⟨inside, allowed.1, rfl⟩
      · rw [remembers.run_loadInto_of_le (Nat.le_of_not_lt inside) allowed.1
          allowed.2] at ran
        cases ran
    · obtain ⟨cause, ends⟩ := run_loadInto_of_not device allowed
      rw [ends] at ran
      cases ran
  · rintro ⟨inside, enough, rfl⟩
    exact remembers.run_loadInto_of_lt roomy inside enough

theorem length_lastStored (inside : slot < room) :
    (lastStored past slot).length = pageSize := by
  have held := remembers.contents? slot
  rw [if_pos inside] at held
  exact SwapSpace.length_of_contents? held

/-- The first page of the buffer is what was stored last, and the rest stays. -/
theorem getElem?_loaded (inside : slot < room)
    (enough : pageSize ≤ buffer.size) (index : Nat) :
    (Bytes.overwrite buffer 0 (lastStored past slot))[index]? =
      if index < pageSize then (lastStored past slot)[index]?
      else buffer[index]? := by
  have length := remembers.length_lastStored inside
  rw [Bytes.getElem?_overwrite, length, Nat.sub_zero]
  by_cases within : index < pageSize
  · rw [if_pos within, if_pos (by omega)]
  · rw [if_neg within, if_neg (by omega)]

end Remembers

/-- What a device of `slots` slots over a file of `room` pages owes to its
past. -/
structure IsFaithful (device : SwapDevice) (slots room : Nat)
    (past : List Event) : Prop where
  isClaimed : ∀ slot, device.space.isClaimed slot = wasClaimed past slot
  inUse_eq : device.space.inUse =
    ((Finset.range slots).filter fun slot => wasClaimed past slot).card
  freeSlots_add_inUse : device.space.freeSlots + device.space.inUse = slots
  claim_eq_some_iff : ∀ slot, device.space.claim.1 = some slot ↔
    slot < slots ∧ wasClaimed past slot = false ∧
      ∀ other < slot, wasClaimed past other = true
  claim_eq_none_iff : device.space.claim.1 = none ↔
    ∀ slot < slots, wasClaimed past slot = true
  /-- Claiming a claimed slot and releasing another one is fatal, as is what
  names a slot that is not there, moves less than a page or has no 64-bit
  offset; nothing else is. -/
  run_fails_iff : ∀ operation : Operation,
    (∃ cause, operation.run device = .error cause) ↔
      operation.IsBarred slots (wasClaimed past)
  /-- A page is stored in a slot that the file has room for, and only the file
  changes. -/
  store_of_lt : ∀ slot < room, ∀ bytes : List UInt8, pageSize ≤ bytes.length →
    ∃ file, (store slot bytes).run device =
      .done () { device with space := { device.space with file } }
  store_of_le : ∀ slot, room ≤ slot → slot * pageSize < Word.limit →
    ∀ bytes : List UInt8, pageSize ≤ bytes.length →
      (store slot bytes).run device =
        .failed (.swapTransfer ⟨slot * pageSize, pageSize⟩) device
  /-- The first page of the buffer is what was stored last, and the rest
  stays. -/
  loadInto_of_lt : ∀ slot < room, ∀ buffer : Array UInt8,
    pageSize ≤ buffer.size → ∃ filled : Array UInt8,
      (loadInto slot buffer).run device = .done filled device ∧
        filled.size = buffer.size ∧ ∀ index : Nat, filled[index]? =
          if index < pageSize then (lastStored past slot)[index]?
          else buffer[index]?
  loadInto_of_le : ∀ slot, room ≤ slot → slot * pageSize < Word.limit →
    ∀ buffer : Array UInt8, pageSize ≤ buffer.size →
      (loadInto slot buffer).run device =
        .failed (.swapTransfer ⟨slot * pageSize, pageSize⟩) device
  /-- Whatever happens next, a slot where no page is stored is loaded as
  before. -/
  loadInto_of_runAll : ∀ (operations : List Operation) (now : List Event)
    (after : SwapDevice), runAll past device operations = .ok (now, after) →
      ∀ slot, (∀ bytes, Operation.store slot bytes ∉ operations) →
        ∀ buffer filled, (loadInto slot buffer).run after = .done filled after ↔
          (loadInto slot buffer).run device = .done filled device

theorem Remembers.isFaithful (remembers : Remembers slots room past device)
    (roomy : room * pageSize < Word.limit) :
    device.IsFaithful slots room past where
  isClaimed := remembers.isClaimed
  inUse_eq := by
    rw [← remembers.isConsistent.card_claimedSlots, remembers.claimedSlots_eq]
  freeSlots_add_inUse := by
    have few : device.space.inUse ≤ slots := by
      rw [← remembers.isConsistent.card_claimedSlots, remembers.claimedSlots_eq]
      exact (Finset.card_filter_le _ _).trans (Finset.card_range _).le
    rw [SwapSpace.freeSlots, remembers.capacity, Nat.sub_add_cancel few]
  claim_eq_some_iff slot := by
    rw [← and_assoc, ← remembers.used_eq_false_iff]
    simp only [← remembers.isClaimed]
    constructor
    · intro claimed
      obtain ⟨isFree, below, _⟩ :=
        SwapSpace.claim_eq_some_iff.mp (Prod.ext claimed rfl)
      exact ⟨isFree, below⟩
    · rintro ⟨isFree, below⟩
      rw [SwapSpace.claim_eq_some_iff.mpr ⟨isFree, below, rfl⟩]
  claim_eq_none_iff := by
    simp only [← remembers.isClaimed, ← remembers.capacity]
    constructor
    · intro full
      exact (SwapSpace.claim_eq_none_iff.mp (Prod.ext full rfl)).1
    · intro full
      rw [SwapSpace.claim_eq_none_iff.mpr ⟨full, rfl⟩]
  run_fails_iff operation := by
    rw [SwapDevice.run_fails_iff remembers.unmetered, remembers.capacity,
      funext remembers.isClaimed]
  store_of_lt slot inside bytes enough :=
    remembers.run_store_of_lt roomy inside enough
  store_of_le slot beyond fits bytes enough :=
    remembers.run_store_of_le beyond enough fits
  loadInto_of_lt slot inside buffer enough :=
    ⟨_, remembers.run_loadInto_of_lt roomy inside enough,
      Bytes.size_overwrite _ _ _, remembers.getElem?_loaded inside enough⟩
  loadInto_of_le slot beyond fits buffer enough :=
    remembers.run_loadInto_of_le beyond enough fits
  loadInto_of_runAll operations now after ran slot spares buffer filled := by
    rw [remembers.loadInto_eq_done_iff roomy,
      (remembers_of_runAll remembers ran).loadInto_eq_done_iff roomy,
      lastStored_of_runAll spares ran]

theorem isFaithful_of_runAll (created : SwapFile.new room = .ok file)
    (ran : runAll [] (ofFile slots file) operations = .ok (past, device)) :
    device.IsFaithful slots room past := by
  obtain ⟨_, sized, _⟩ := bind_eq_ok_iff.mp created
  exact (remembers_of_runAll (remembers_ofFile _ created) ran).isFaithful
    (Word.fit_eq_ok_iff.mp sized).1

/-- A page is stored in the only slot that the file has room for, and both slots
are claimed before the first is released. -/
theorem isFaithful_of_runAll_short_file :
    ∃ file past device, SwapFile.new 1 = .ok file ∧
      runAll [] (ofFile 2 file)
        [.store 0 (List.replicate pageSize 7), .claimAt 0, .claimAt 1,
          .release 0] = .ok (past, device) ∧
      device.IsFaithful 2 1 past := by
  have created : SwapFile.new 1 = .ok ⟨Array.replicate (1 * pageSize) 0⟩ := by
    rw [SwapFile.new, Word.mul_of_lt (by decide)]
    rfl
  have enough : pageSize ≤ (List.replicate pageSize (7 : UInt8)).length :=
    List.length_replicate.ge
  obtain ⟨file, stores⟩ := (remembers_ofFile 2 created).run_store_of_lt
    (by decide) Nat.one_pos enough
  obtain ⟨past, device, ran⟩ : ∃ past device,
      runAll [] (ofFile 2 ⟨Array.replicate (1 * pageSize) 0⟩)
        [.store 0 (List.replicate pageSize 7), .claimAt 0, .claimAt 1,
          .release 0] = .ok (past, device) := by
    rw [runAll, Operation.run, stores]
    exact ⟨_, _, rfl⟩
  exact ⟨_, past, device, created, ran, isFaithful_of_runAll created ran⟩

end SwapDevice

end DemandPaging
