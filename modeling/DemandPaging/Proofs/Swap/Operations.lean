import DemandPaging.Proofs.Swap.Contents

/-!
# What may be asked of a swap device

Slots are claimed and given back, and pages go to them and come from them.
Whatever is asked, a device that completes its transfers either does it, which
is an event, or it is fatal.  An event claims or releases one slot at most,
changes what one slot holds at most, and does not do both (`Happens`).  A
transfer is fatal only where it is asked for with less than a page or for a slot
without a 64-bit offset, and it fails only where the file ends before the slot.
-/

namespace DemandPaging

namespace SwapDevice

variable {device after : SwapDevice} {slot : Nat} {bytes : List UInt8}
  {buffer : Array UInt8}

/-- What may be asked of a device. -/
inductive Operation where
  | claim
  | claimAt (slot : Nat)
  | release (slot : Nat)
  | store (slot : Nat) (bytes : List UInt8)
  /-- The page in the slot is read into a buffer. -/
  | load (slot : Nat) (buffer : Array UInt8)

/-- What a device did. -/
inductive Event where
  | claimed (slot : Nat)
  /-- No slot was free. -/
  | exhausted
  | released (slot : Nat)
  | stored (slot : Nat) (bytes : List UInt8)
  /-- A page was read, and the buffer is now this. -/
  | loaded (slot : Nat) (buffer : Array UInt8)
  /-- A transfer failed. -/
  | refused (error : PagingError)

namespace Operation

/-- The event that the ending of a transfer is, unless it is fatal. -/
def settle {Result : Type} (event : Result → Event) :
    Outcome SwapDevice Result → Except Fatal (Event × SwapDevice)
  | .done result after => .ok (event result, after)
  | .failed error after => .ok (.refused error, after)
  | .fatal cause => .error cause

/-- What the device does, unless the operation is fatal. -/
def run (device : SwapDevice) : Operation → Except Fatal (Event × SwapDevice)
  | claim =>
    match device.space.claim with
    | (some slot, space) => return (.claimed slot, { device with space })
    | (none, space) => return (.exhausted, { device with space })
  | claimAt slot => do
    let space ← device.space.claimAt slot
    return (.claimed slot, { device with space })
  | release slot => do
    let space ← device.space.release slot
    return (.released slot, { device with space })
  | store slot bytes =>
    settle (fun _ => .stored slot bytes) ((SwapDevice.store slot bytes).run device)
  | load slot buffer =>
    settle (.loaded slot) ((loadInto slot buffer).run device)

/-- There is no such slot to claim or to release, less than a page is to be
moved, or the slot has no 64-bit offset. -/
def IsBarred (slots : Nat) (isClaimed : Nat → Bool) : Operation → Prop
  | claim => False
  | claimAt slot => slots ≤ slot ∨ isClaimed slot = true
  | release slot => isClaimed slot = false
  | store slot bytes =>
    ¬(pageSize ≤ bytes.length ∧ slot * pageSize < Word.limit)
  | load slot buffer =>
    ¬(pageSize ≤ buffer.size ∧ slot * pageSize < Word.limit)

end Operation

namespace Event

/-- Is the slot `slot` claimed after the event, if `before` says whether it
was? -/
def claims (before : Bool) (slot : Nat) : Event → Bool
  | claimed other => if slot = other then true else before
  | released other => if slot = other then false else before
  | exhausted | stored _ _ | loaded _ _ | refused _ => before

/-- What the slot `slot` holds after the event, if it held `before`. -/
def leaves (before : List UInt8) (slot : Nat) : Event → List UInt8
  | stored other bytes => if slot = other then bytes.take pageSize else before
  | claimed _ | exhausted | released _ | loaded _ _ | refused _ => before

end Event

variable {event : Event} {operation : Operation}

/-- A page that is to be stored is written to the file, or the file ends before
its slot and nothing changes. -/
theorem run_store (unmetered : device.space.isMetered = false)
    (enough : pageSize ≤ bytes.length) (fits : slot * pageSize < Word.limit) :
    (store slot bytes).run device =
      match device.space.file.write (slot * pageSize) (bytes.take pageSize) with
      | .ok file => .done () { device with space := { device.space with file } }
      | .error failure => .failed (.swapTransfer failure) device := by
  rw [store, Action.run_bind_of_done
      (by rw [Action.run_crashUnless, if_pos enough]),
    Action.liftM_eq_ofExcept, SwapSpace.offset, Word.mul_of_lt fits,
    Action.run_bind_of_done (Action.run_ofExcept_ok _ _),
    Action.run_bind_of_done (run_meter_of_unmetered unmetered _ _),
    Action.run_bind_of_done (Action.run_get device)]
  cases device.space.file.write (slot * pageSize) (bytes.take pageSize) <;> rfl

/-- A page that is to be loaded takes the place of the first page of the buffer,
or the file ends before its slot and there is no page. -/
theorem run_loadInto (unmetered : device.space.isMetered = false)
    (enough : pageSize ≤ buffer.size) (fits : slot * pageSize < Word.limit) :
    (loadInto slot buffer).run device =
      match device.space.file.read (slot * pageSize) pageSize with
      | .ok page => .done (Bytes.overwrite buffer 0 page) device
      | .error failure => .failed (.swapTransfer failure) device := by
  have loads : (load slot).run device =
      match device.space.file.read (slot * pageSize) pageSize with
      | .ok page => .done page device
      | .error failure => .failed (.swapTransfer failure) device := by
    rw [load, Action.liftM_eq_ofExcept, SwapSpace.offset, Word.mul_of_lt fits,
      Action.run_bind_of_done (Action.run_ofExcept_ok _ _),
      Action.run_bind_of_done (run_meter_of_unmetered unmetered _ _),
      Action.run_bind_of_done (Action.run_get device)]
    cases device.space.file.read (slot * pageSize) pageSize <;> rfl
  rw [loadInto, Action.run_bind_of_done
    (by rw [Action.run_crashUnless, if_pos enough]), Action.run_bind, loads]
  cases device.space.file.read (slot * pageSize) pageSize <;> rfl

/-- Less than a page cannot be stored, nor can anything beyond the 64-bit
range. -/
theorem run_store_of_not (device : SwapDevice)
    (short : ¬(pageSize ≤ bytes.length ∧ slot * pageSize < Word.limit)) :
    ∃ cause, (store slot bytes).run device = .fatal cause := by
  by_cases enough : pageSize ≤ bytes.length
  · have large : Word.limit ≤ slot * pageSize :=
      Nat.le_of_not_lt fun fits => short ⟨enough, fits⟩
    refine ⟨.overflow, ?_⟩
    rw [store, Action.run_bind_of_done
        (by rw [Action.run_crashUnless, if_pos enough]),
      Action.liftM_eq_ofExcept, SwapSpace.offset, Word.mul,
      Word.fit_of_le large,
      Action.run_bind_of_fatal (Action.run_ofExcept_error _ _)]
  · exact ⟨.outOfBounds, Action.run_bind_of_fatal
      (by rw [Action.run_crashUnless, if_neg enough])⟩

theorem run_loadInto_of_not (device : SwapDevice)
    (short : ¬(pageSize ≤ buffer.size ∧ slot * pageSize < Word.limit)) :
    ∃ cause, (loadInto slot buffer).run device = .fatal cause := by
  by_cases enough : pageSize ≤ buffer.size
  · have large : Word.limit ≤ slot * pageSize :=
      Nat.le_of_not_lt fun fits => short ⟨enough, fits⟩
    have ends : (load slot).run device = .fatal .overflow := by
      rw [load, Action.liftM_eq_ofExcept, SwapSpace.offset, Word.mul,
        Word.fit_of_le large,
        Action.run_bind_of_fatal (Action.run_ofExcept_error _ _)]
    refine ⟨.overflow, ?_⟩
    rw [loadInto, Action.run_bind_of_done
        (by rw [Action.run_crashUnless, if_pos enough]),
      Action.run_bind_of_fatal ends]
  · exact ⟨.outOfBounds, Action.run_bind_of_fatal
      (by rw [Action.run_crashUnless, if_neg enough])⟩

/-- What an event does to the slots and to the file. -/
structure Happens (device : SwapDevice) (event : Event) (after : SwapDevice) :
    Prop where
  isConsistent : after.space.IsConsistent
  unmetered : after.space.isMetered = false
  capacity : after.space.capacity = device.space.capacity
  size : after.space.file.size = device.space.file.size
  isClaimed : ∀ slot, after.space.isClaimed slot =
    event.claims (device.space.isClaimed slot) slot
  contents? : ∀ slot, after.space.contents? slot =
    (device.space.contents? slot).map fun held => event.leaves held slot

section

variable (consistent : device.space.IsConsistent)
  (unmetered : device.space.isMetered = false)

include consistent unmetered

theorem happens_unchanged
    (claims : ∀ before slot, event.claims before slot = before)
    (leaves : ∀ before slot, event.leaves before slot = before) :
    device.Happens event device where
  isConsistent := consistent
  unmetered := unmetered
  capacity := rfl
  size := rfl
  isClaimed slot := (claims _ slot).symm
  contents? slot := by simp only [leaves, Option.map_id']

theorem happens_claimed (isFree : device.space.used[slot]? = some false) :
    device.Happens (.claimed slot)
      { device with space := device.space.take slot } where
  isConsistent := consistent.take isFree
  unmetered := unmetered
  capacity := SwapSpace.capacity_take
  size := rfl
  isClaimed other := SwapSpace.isClaimed_take_of_free isFree other
  contents? _ := Option.map_id'.symm

theorem happens_released {space : SwapSpace}
    (released : device.space.release slot = .ok space) :
    device.Happens (.released slot) { device with space } := by
  obtain ⟨isUsed, rfl⟩ := SwapSpace.release_eq_ok_iff.mp released
  obtain ⟨_, again, isConsistent, capacity, file, _, isClaimed⟩ :=
    SwapSpace.release_of_isClaimed consistent (SwapSpace.isClaimed_iff.mpr isUsed)
  cases released.symm.trans again
  exact {
    isConsistent := isConsistent
    unmetered := unmetered
    capacity := capacity
    size := rfl
    isClaimed := isClaimed
    contents? := fun _ => Option.map_id'.symm }

theorem happens_stored {file : SwapFile} (enough : pageSize ≤ bytes.length)
    (written : device.space.file.write (slot * pageSize)
      (bytes.take pageSize) = .ok file) :
    device.Happens (.stored slot bytes)
      { device with space := { device.space with file } } where
  isConsistent := consistent
  unmetered := unmetered
  capacity := rfl
  size := SwapFile.size_of_write written
  isClaimed _ := rfl
  contents? other := by
    have length : (bytes.take pageSize).length = pageSize := by
      rw [List.length_take, Nat.min_eq_left enough]
    rw [SwapSpace.contents?_of_write length written rfl]
    by_cases here : other = slot
    · subst here
      obtain ⟨held, isHeld⟩ := SwapSpace.exists_contents?_of_write length written
      rw [if_pos rfl, isHeld, Option.map_some, Event.leaves, if_pos rfl]
    · simp only [Event.leaves, if_neg here, Option.map_id']

theorem happens_of_run (ran : operation.run device = .ok (event, after)) :
    device.Happens event after := by
  cases operation with
  | claim =>
      simp only [Operation.run] at ran
      split at ran
      · rename_i claimed
        cases ran
        obtain ⟨isFree, _, rfl⟩ := SwapSpace.claim_eq_some_iff.mp claimed
        exact happens_claimed consistent unmetered isFree
      · rename_i full
        cases ran
        obtain ⟨_, rfl⟩ := SwapSpace.claim_eq_none_iff.mp full
        exact happens_unchanged consistent unmetered (fun _ _ => rfl)
          fun _ _ => rfl
  | claimAt slot =>
      obtain ⟨_, claimed, ⟨⟩⟩ := bind_eq_ok_iff.mp ran
      obtain ⟨isFree, rfl⟩ := SwapSpace.claimAt_eq_ok_iff.mp claimed
      exact happens_claimed consistent unmetered isFree
  | release slot =>
      obtain ⟨_, released, ⟨⟩⟩ := bind_eq_ok_iff.mp ran
      exact happens_released consistent unmetered released
  | store slot bytes =>
      rw [Operation.run] at ran
      by_cases allowed : pageSize ≤ bytes.length ∧ slot * pageSize < Word.limit
      · rw [run_store unmetered allowed.1 allowed.2] at ran
        cases written : device.space.file.write (slot * pageSize)
            (bytes.take pageSize) with
        | ok file =>
            rw [written] at ran
            cases ran
            exact happens_stored consistent unmetered allowed.1 written
        | error failure =>
            rw [written] at ran
            cases ran
            exact happens_unchanged consistent unmetered (fun _ _ => rfl)
              fun _ _ => rfl
      · obtain ⟨cause, ends⟩ := run_store_of_not device allowed
        rw [ends] at ran
        cases ran
  | load slot buffer =>
      rw [Operation.run] at ran
      by_cases allowed : pageSize ≤ buffer.size ∧ slot * pageSize < Word.limit
      · rw [run_loadInto unmetered allowed.1 allowed.2] at ran
        cases found : device.space.file.read (slot * pageSize) pageSize with
        | ok page =>
            rw [found] at ran
            cases ran
            exact happens_unchanged consistent unmetered (fun _ _ => rfl)
              fun _ _ => rfl
        | error failure =>
            rw [found] at ran
            cases ran
            exact happens_unchanged consistent unmetered (fun _ _ => rfl)
              fun _ _ => rfl
      · obtain ⟨cause, ends⟩ := run_loadInto_of_not device allowed
        rw [ends] at ran
        cases ran

end

/-- An operation is fatal exactly if it is barred. -/
theorem run_fails_iff (unmetered : device.space.isMetered = false) :
    (∃ cause, operation.run device = .error cause) ↔
      operation.IsBarred device.space.capacity device.space.isClaimed := by
  cases operation with
  | claim =>
      rw [Operation.run, Operation.IsBarred, iff_false]
      rintro ⟨cause, ends⟩
      split at ends <;> cases ends
  | claimAt slot =>
      rw [Operation.run, Operation.IsBarred, SwapSpace.claimAt,
        SwapSpace.capacity, SwapSpace.isClaimed]
      cases found : device.space.used[slot]? with
      | none => simp [bind, Except.bind, Array.getElem?_eq_none_iff.mp found]
      | some claimed =>
          obtain ⟨inside, _⟩ := Array.getElem?_eq_some_iff.mp found
          cases claimed <;>
            simp [bind, Except.bind, pure, Except.pure, inside]
  | release slot =>
      rw [Operation.run, Operation.IsBarred, SwapSpace.release,
        SwapSpace.isClaimed]
      cases device.space.used[slot]? with
      | none => simp [bind, Except.bind]
      | some claimed =>
          cases claimed <;> simp [bind, Except.bind, pure, Except.pure]
  | store slot bytes =>
      rw [Operation.run, Operation.IsBarred]
      by_cases allowed : pageSize ≤ bytes.length ∧ slot * pageSize < Word.limit
      · rw [run_store unmetered allowed.1 allowed.2]
        cases device.space.file.write (slot * pageSize) (bytes.take pageSize)
          <;> simp [Operation.settle, allowed]
      · obtain ⟨cause, ends⟩ := run_store_of_not device allowed
        rw [ends]
        exact ⟨fun _ => allowed, fun _ => ⟨cause, rfl⟩⟩
  | load slot buffer =>
      rw [Operation.run, Operation.IsBarred]
      by_cases allowed : pageSize ≤ buffer.size ∧ slot * pageSize < Word.limit
      · rw [run_loadInto unmetered allowed.1 allowed.2]
        cases device.space.file.read (slot * pageSize) pageSize
          <;> simp [Operation.settle, allowed]
      · obtain ⟨cause, ends⟩ := run_loadInto_of_not device allowed
        rw [ends]
        exact ⟨fun _ => allowed, fun _ => ⟨cause, rfl⟩⟩

end SwapDevice

end DemandPaging
