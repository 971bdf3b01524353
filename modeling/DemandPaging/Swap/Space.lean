import DemandPaging.Action
import DemandPaging.Swap.File
import DemandPaging.Swap.Transfers

/-!
# Swap slots

A swap file is lent in slots of one page each, the lowest free one first.  Slot
`n` begins at byte `n * pageSize`, so two slots share no byte.  Whether a slot
is claimed and what it holds are independent: a slot keeps its contents until
a page is stored in it.
-/

namespace DemandPaging

/-- The slots of one swap file. -/
structure SwapSpace where
  /-- Is the slot claimed? -/
  used : Array Bool
  /-- The number of claimed slots. -/
  inUse : Nat
  file : SwapFile
  /-- Do the transfers count against those that failing devices complete? -/
  isMetered : Bool := false

/-- `slots` slots over a file, none of them claimed. -/
def SwapSpace.over (slots : Nat) (file : SwapFile) : SwapSpace where
  used := Array.replicate slots false
  inUse := 0
  file := file

namespace SwapSpace

/-- `slots` slots over a new file that has room for all of them. -/
def new (slots : Nat) : Except Fatal SwapSpace := do
  return SwapSpace.over slots (← SwapFile.new slots)

/-- The number of slots. -/
def capacity (swap : SwapSpace) : Nat :=
  swap.used.size

/-- The number of slots that are not claimed. -/
def freeSlots (swap : SwapSpace) : Nat :=
  swap.capacity - swap.inUse

/-- Is the slot there and claimed? -/
def isClaimed (swap : SwapSpace) (slot : Nat) : Bool :=
  swap.used[slot]?.getD false

/-- Marks a slot as claimed. -/
def take (swap : SwapSpace) (slot : Nat) : SwapSpace :=
  { swap with
    used := swap.used.setIfInBounds slot true, inUse := swap.inUse + 1 }

/-- Claims the lowest slot that is not claimed, if there is one. -/
def claim (swap : SwapSpace) : Option Nat × SwapSpace :=
  match swap.used.findIdx? (fun claimed => !claimed) with
  | some slot => (some slot, swap.take slot)
  | none => (none, swap)

/-- Claims a slot that is not claimed. -/
def claimAt (swap : SwapSpace) (slot : Nat) : Except Fatal SwapSpace :=
  match swap.used[slot]? with
  | none => .error .outOfBounds
  | some true => .error (.slotAlreadyClaimed slot)
  | some false => .ok (swap.take slot)

/-- Gives a claimed slot back. -/
def release (swap : SwapSpace) (slot : Nat) : Except Fatal SwapSpace :=
  match swap.used[slot]? with
  | none => .error .outOfBounds
  | some false => .error (.slotNotClaimed slot)
  | some true =>
    .ok { swap with
      used := swap.used.setIfInBounds slot false, inUse := swap.inUse - 1 }

/-- The byte where a slot begins. -/
def offset (slot : Nat) : Except Fatal Nat :=
  Word.mul slot pageSize

end SwapSpace

/-- A swap space at work: its slots, and the transfers that failing devices
still complete. -/
structure SwapDevice where
  space : SwapSpace
  transfers : Transfers := {}

namespace SwapDevice

/-- Counts a transfer of a page at `offset` on a failing device; fails if the
device completes no further one. -/
def meter (offset : Nat) (spend : Transfers → Option Transfers) :
    Action SwapDevice Unit := do
  let device ← Action.get
  Action.runIf device.space.isMetered do
    let transfers ← Action.orFail (.swapTransfer ⟨offset, pageSize⟩)
      (spend device.transfers)
    Action.modify fun device => { device with transfers }

/-- Writes the first page of `bytes` to a slot. -/
def store (slot : Nat) (bytes : List UInt8) : Action SwapDevice Unit := do
  Action.crashUnless (pageSize ≤ bytes.length) .outOfBounds
  let offset ← SwapSpace.offset slot
  meter offset Transfers.spendWrite
  let device ← Action.get
  match device.space.file.write offset (bytes.take pageSize) with
  | .ok file =>
    Action.modify fun device =>
      { device with space := { device.space with file } }
  | .error error => Action.fail (.swapTransfer error)

/-- The page in a slot. -/
def load (slot : Nat) : Action SwapDevice (List UInt8) := do
  let offset ← SwapSpace.offset slot
  meter offset Transfers.spendRead
  let device ← Action.get
  match device.space.file.read offset pageSize with
  | .ok bytes => return bytes
  | .error error => Action.fail (.swapTransfer error)

/-- `buffer` with the page in a slot in place of its own first page. -/
def loadInto (slot : Nat) (buffer : Array UInt8) :
    Action SwapDevice (Array UInt8) := do
  Action.crashUnless (pageSize ≤ buffer.size) .outOfBounds
  let page ← load slot
  return Bytes.overwrite buffer 0 page

end SwapDevice

end DemandPaging
