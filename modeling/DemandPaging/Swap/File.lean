import DemandPaging.Bytes
import DemandPaging.PagingError
import DemandPaging.Word

/-!
# Swap files

A swap file is a fixed run of bytes, all zero at first.  A transfer that does
not lie within it as a whole fails and moves nothing.
-/

namespace DemandPaging

/-- The bytes of a swap device. -/
structure SwapFile where
  bytes : Array UInt8

namespace SwapFile

/-- A file with room for `slots` pages. -/
def new (slots : Nat) : Except Fatal SwapFile := do
  let size ← Word.mul slots pageSize
  return ⟨Array.replicate size 0⟩

/-- The number of bytes in the file. -/
def size (file : SwapFile) : Nat :=
  file.bytes.size

/-- The file with `bytes` in place of its own from `offset` on. -/
def write (file : SwapFile) (offset : Nat) (bytes : List UInt8) :
    Except TransferError SwapFile :=
  if offset + bytes.length ≤ file.size then
    .ok ⟨Bytes.overwrite file.bytes offset bytes⟩
  else
    .error ⟨offset, bytes.length⟩

/-- The `length` bytes of the file from `offset` on. -/
def read (file : SwapFile) (offset length : Nat) :
    Except TransferError (List UInt8) :=
  if offset + length ≤ file.size then
    .ok (Bytes.slice file.bytes offset length)
  else
    .error ⟨offset, length⟩

theorem of_write_eq_error {file : SwapFile} {offset : Nat}
    {bytes : List UInt8} {failure : TransferError}
    (failed : file.write offset bytes = .error failure) :
    failure = ⟨offset, bytes.length⟩ ∧ file.size < offset + bytes.length := by
  unfold write at failed
  split at failed
  · cases failed
  · rename_i beyond
    cases failed
    exact ⟨rfl, Nat.lt_of_not_le beyond⟩

theorem of_read_eq_error {file : SwapFile} {offset length : Nat}
    {failure : TransferError}
    (failed : file.read offset length = .error failure) :
    failure = ⟨offset, length⟩ ∧ file.size < offset + length := by
  unfold read at failed
  split at failed
  · cases failed
  · rename_i beyond
    cases failed
    exact ⟨rfl, Nat.lt_of_not_le beyond⟩

theorem size_of_write {file written : SwapFile} {offset : Nat}
    {bytes : List UInt8} (success : file.write offset bytes = .ok written) :
    written.size = file.size := by
  unfold write at success
  split at success
  · cases success
    exact Bytes.size_overwrite _ _ _
  · cases success

theorem read_of_write {file written : SwapFile} {offset : Nat}
    {bytes : List UInt8} (success : file.write offset bytes = .ok written) :
    written.read offset bytes.length = .ok bytes := by
  have sameSize := size_of_write success
  unfold write at success
  split at success
  · rename_i fits
    cases success
    rw [read, if_pos (sameSize ▸ fits)]
    congr 1
    apply List.ext_getElem?
    intro index
    rw [Bytes.getElem?_slice, Bytes.getElem?_overwrite]
    rw [size] at fits
    by_cases inside : index < bytes.length
    · rw [if_pos inside, if_pos (by omega), Nat.add_sub_cancel_left]
    · rw [if_neg inside, List.getElem?_eq_none (by omega)]
  · cases success

/-- A write leaves the bytes read from elsewhere as they were. -/
theorem read_of_write_of_disjoint {file written : SwapFile}
    {offset other length : Nat} {bytes : List UInt8}
    (success : file.write offset bytes = .ok written)
    (disjoint : other + length ≤ offset ∨ offset + bytes.length ≤ other) :
    written.read other length = file.read other length := by
  have sameSize := size_of_write success
  unfold write at success
  split at success
  · cases success
    rw [read, read, sameSize]
    have sameBytes : Bytes.slice (Bytes.overwrite file.bytes offset bytes)
        other length = Bytes.slice file.bytes other length := by
      apply List.ext_getElem?
      intro index
      rw [Bytes.getElem?_slice, Bytes.getElem?_slice]
      split
      · rw [Bytes.getElem?_overwrite, if_neg (by omega)]
      · rfl
    rw [sameBytes]
  · cases success

end SwapFile

end DemandPaging
