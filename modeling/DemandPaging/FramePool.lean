import DemandPaging.Bytes
import DemandPaging.Fatal

/-!
# Frames of physical memory

A pool lends page-sized frames, the one that has been free longest first.  A
frame is named by its address.  Only a lent frame may be read, written or given
back; its contents are junk when it is lent and other junk once it is back, so
that nobody can rely on what a frame held before.
-/

namespace DemandPaging

/-- One frame of a pool. -/
structure Frame where
  contents : Page
  /-- Is the frame lent out? -/
  isLent : Bool

/-- A pool of frames. -/
structure FramePool where
  /-- The frames, in the order of their addresses. -/
  frames : Array Frame
  /-- The numbers of the frames that are not lent, longest free first. -/
  queue : List Nat

namespace FramePool

/-- The address of the first frame. -/
abbrev base : Nat := 0x80000000

/-- The byte that fills a frame when it is lent. -/
def lentJunk : UInt8 := 5

/-- The byte that fills a frame that is not lent. -/
def freeJunk : UInt8 := 1

/-- A pool of `count` frames, none of them lent. -/
def new (count : Nat) : FramePool where
  frames := Array.replicate count ⟨Page.filled freeJunk, false⟩
  queue := List.range count

/-- The number of frames in the pool. -/
def total (pool : FramePool) : Nat :=
  pool.frames.size

/-- The number of frames that can still be lent. -/
def freeCount (pool : FramePool) : Nat :=
  pool.queue.length

/-- The number of frames that are lent. -/
def lentCount (pool : FramePool) : Nat :=
  pool.total - pool.freeCount

/-- The address of a frame, by its number. -/
def addressOf (number : Nat) : Nat :=
  base + number * pageSize

/-- The number of the frame at `address`. -/
def numberOf (pool : FramePool) (address : Nat) : Except Fatal Nat :=
  if Address.isPageAligned address && base ≤ address &&
      (address - base) / pageSize < pool.total then
    .ok ((address - base) / pageSize)
  else
    .error (.badFrame address)

/-- The number and the contents of the lent frame at `address`. -/
def lent (pool : FramePool) (address : Nat) : Except Fatal (Nat × Page) := do
  let number ← pool.numberOf address
  match pool.frames[number]? with
  | some ⟨contents, true⟩ => return (number, contents)
  | _ => .error (.frameNotAllocated address)

/-- The pool with another frame at a number. -/
def put (pool : FramePool) (number : Nat) (frame : Frame) : FramePool :=
  { pool with frames := pool.frames.setIfInBounds number frame }

/-- Lends the frame that has been free longest, if any is free. -/
def allocate (pool : FramePool) : Option Nat × FramePool :=
  match pool.queue with
  | [] => (none, pool)
  | number :: queue =>
    (some (addressOf number),
      { pool.put number ⟨Page.filled lentJunk, true⟩ with queue })

/-- Takes the frame at `address` back. -/
def release (pool : FramePool) (address : Nat) : Except Fatal FramePool := do
  let (number, _) ← pool.lent address
  return { pool.put number ⟨Page.filled freeJunk, false⟩ with
    queue := pool.queue ++ [number] }

/-- The contents of the frame at `address`. -/
def read (pool : FramePool) (address : Nat) : Except Fatal Page := do
  let (_, contents) ← pool.lent address
  return contents

/-- `buffer` with the contents of the frame at `address` in place of its own
first bytes, as far as both reach. -/
def readInto (pool : FramePool) (address : Nat) (buffer : Array UInt8) :
    Except Fatal (Array UInt8) := do
  let contents ← pool.read address
  return Bytes.overwrite buffer 0 contents.toList

/-- Writes `bytes` to the beginning of the frame at `address`; those that would
lie past its end are dropped. -/
def write (pool : FramePool) (address : Nat) (bytes : List UInt8) :
    Except Fatal FramePool := do
  let (number, contents) ← pool.lent address
  return pool.put number ⟨contents.overwrite 0 bytes, true⟩

/-- Fills the frame at `address` with zeros. -/
def clear (pool : FramePool) (address : Nat) : Except Fatal FramePool :=
  pool.write address Page.zero.toList

/-- Copies the frame at `source` to the one at `target`. -/
def copy (pool : FramePool) (source target : Nat) : Except Fatal FramePool := do
  let contents ← pool.read source
  pool.write target contents.toList

@[simp]
theorem total_new (count : Nat) : (new count).total = count := by
  simp [new, total]

@[simp]
theorem freeCount_new (count : Nat) : (new count).freeCount = count := by
  simp [new, freeCount]

theorem numberOf_addressOf (pool : FramePool) {number : Nat}
    (inside : number < pool.total) :
    pool.numberOf (addressOf number) = .ok number := by
  have aligned : Address.isPageAligned (addressOf number) = true := by
    simp only [Address.isPageAligned_iff, addressOf, base, pageSize]
    omega
  have position : (addressOf number - base) / pageSize = number := by
    simp only [addressOf, base, pageSize]
    omega
  have above : base ≤ addressOf number := Nat.le_add_right _ _
  simp [numberOf, aligned, position, above, inside]

theorem addressOf_of_numberOf {pool : FramePool} {address number : Nat}
    (found : pool.numberOf address = .ok number) :
    number < pool.total ∧ addressOf number = address := by
  unfold numberOf at found
  split at found
  · rename_i accepted
    obtain ⟨rfl⟩ := found
    simp only [Bool.and_eq_true, decide_eq_true_eq,
      Address.isPageAligned_iff] at accepted
    refine ⟨accepted.2, ?_⟩
    simp only [addressOf, base, pageSize] at accepted ⊢
    omega
  · cases found

theorem allocate_eq_none_iff {pool : FramePool} :
    pool.allocate.1 = none ↔ pool.freeCount = 0 := by
  cases pool with
  | mk frames queue => cases queue <;> simp [allocate, freeCount]

end FramePool

end DemandPaging
