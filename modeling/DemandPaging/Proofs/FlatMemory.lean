import DemandPaging.AddressSpace.Memory
import DemandPaging.Bytes

/-!
# User memory without paging

To user code memory is flat: each address lies in a page or in none, and
nothing says where the page is kept.  These are the effects that operations on
an address space have on the memory user code sees.
-/

namespace DemandPaging

/-- The page without its permission for user code. -/
def LogicalPage.withdrawn (page : LogicalPage) : LogicalPage :=
  { page with permissions := page.permissions.difference { user := true } }

/-- The page at `base` with `bytes` written to memory from `address` on. -/
def LogicalPage.written (page : LogicalPage) (base address : Nat)
    (bytes : List UInt8) : LogicalPage :=
  { page with
    bytes := page.bytes.mapIdx fun index byte =>
      if address ≤ base + index then
        (bytes[base + index - address]?).getD byte
      else byte }

namespace LogicalPage

theorem written_nil (page : LogicalPage) (base address : Nat) :
    page.written base address [] = page := by
  have same : page.bytes.mapIdx (fun _ byte => byte) = page.bytes := by
    refine List.ext_getElem? fun index => ?_
    rw [List.getElem?_mapIdx, Option.map_id']
  simp [written, same]

/-- Bytes may be written in two parts. -/
theorem written_take_drop (page : LogicalPage) (base address length : Nat)
    (bytes : List UInt8) :
    (page.written base address (bytes.take length)).written base
      (address + length) (bytes.drop length) =
        page.written base address bytes := by
  simp only [written, List.mapIdx_mapIdx]
  congr 2
  funext index byte
  simp only [Function.comp_apply, List.getElem?_take, List.getElem?_drop]
  by_cases isLate : address + length ≤ base + index
  · have isIn : address ≤ base + index := by omega
    have isBeyond : ¬base + index - address < length := by omega
    have sameIndex : length + (base + index - (address + length)) =
        base + index - address := by omega
    rw [if_pos isLate, if_pos isIn, if_neg isBeyond, if_pos isIn, sameIndex]
    rfl
  · rw [if_neg isLate]
    by_cases isIn : address ≤ base + index
    · have isEarly : base + index - address < length := by omega
      rw [if_pos isIn, if_pos isIn, if_pos isEarly]
    · rw [if_neg isIn, if_neg isIn]

/-- A page without any of the addresses is not changed. -/
theorem written_of_elsewhere {page : LogicalPage} {base address : Nat}
    {bytes : List UInt8} (inPage : page.bytes.length ≤ pageSize)
    (elsewhere : base + pageSize ≤ address ∨
      address + bytes.length ≤ base) :
    page.written base address bytes = page := by
  have same : page.bytes.mapIdx (fun index byte =>
      if address ≤ base + index then
        (bytes[base + index - address]?).getD byte
      else byte) = page.bytes := by
    refine List.ext_getElem? fun index => ?_
    rw [List.getElem?_mapIdx]
    cases found : page.bytes[index]? with
    | none => rfl
    | some byte =>
        obtain ⟨inside, _⟩ := List.getElem?_eq_some_iff.mp found
        rw [Option.map_some]
        congr 1
        by_cases isIn : address ≤ base + index
        · rw [if_pos isIn, List.getElem?_eq_none (by omega)]
          rfl
        · rw [if_neg isIn]
  rw [written, same]

end LogicalPage

/-- For each address the page that holds it, if there is one. -/
abbrev FlatMemory := Nat → Option LogicalPage

namespace FlatMemory

variable {memory : FlatMemory} {address start stop : Nat}
  {bytes : List UInt8} {page : LogicalPage}

/-- The byte at `address`. -/
def byte? (memory : FlatMemory) (address : Nat) : Option UInt8 := do
  let page ← memory address
  page.bytes[Address.pageOffset address]?

/-- Are `bytes` what is in memory from `address` on? -/
def Reads (memory : FlatMemory) (address : Nat) (bytes : List UInt8) : Prop :=
  ∀ index, index < bytes.length →
    memory.byte? (address + index) = bytes[index]?

/-- Do `length` bytes from `address` on lie in pages? -/
def Covers (memory : FlatMemory) (address length : Nat) : Prop :=
  ∀ index, index < length → (memory (address + index)).isSome = true

/-- Are the pages those of the first `size` bytes? -/
def Spans (memory : FlatMemory) (size : Nat) : Prop :=
  ∀ address, (memory address).isSome = true ↔ address < Address.pageCeil size

/-- The `count` bytes of a buffer from `offset` on were filled from memory at
`address`. -/
structure Fills (memory : FlatMemory) (address offset count : Nat)
    (before after : Array UInt8) : Prop where
  size : after.size = before.size
  inside : ∀ index, index < count →
    after[offset + index]? = memory.byte? (address + index)
  outside : ∀ index, index < offset ∨ offset + count ≤ index →
    after[index]? = before[index]?

/-- The memory with copies of `page` from `start` up to `stop`. -/
def added (memory : FlatMemory) (start stop : Nat) (page : LogicalPage) :
    FlatMemory :=
  fun address =>
    if start ≤ address ∧ address < stop then some page else memory address

/-- The memory without pages from `start` up to `stop`. -/
def cleared (memory : FlatMemory) (start stop : Nat) : FlatMemory :=
  fun address =>
    if start ≤ address ∧ address < stop then none else memory address

/-- The memory with one page withdrawn from user code. -/
def withdrawn (memory : FlatMemory) (address : Nat) : FlatMemory :=
  fun other =>
    if Address.pageBase other = Address.pageBase address then
      (memory other).map LogicalPage.withdrawn
    else memory other

/-- The memory with `bytes` written from `address` on, as far as there are
pages. -/
def written (memory : FlatMemory) (address : Nat) (bytes : List UInt8) :
    FlatMemory :=
  fun other => (memory other).map fun page =>
    page.written (Address.pageBase other) address bytes

namespace Fills

variable {offset count more : Nat} {before middle after : Array UInt8}

theorem refl (memory : FlatMemory) (address offset : Nat)
    (buffer : Array UInt8) : memory.Fills address offset 0 buffer buffer where
  size := rfl
  inside _ less := absurd less (Nat.not_lt_zero _)
  outside _ _ := rfl

theorem trans (first : memory.Fills address offset count before middle)
    (second : memory.Fills (address + count) (offset + count) more middle
      after) :
    memory.Fills address offset (count + more) before after where
  size := second.size.trans first.size
  inside index less := by
    by_cases isEarly : index < count
    · rw [second.outside _ (.inl (by omega)), first.inside index isEarly]
    · have filled := second.inside (index - count) (by omega)
      have position : offset + count + (index - count) = offset + index := by
        omega
      have source : address + count + (index - count) = address + index := by
        omega
      rw [position, source] at filled
      exact filled
  outside index elsewhere := by
    rw [second.outside index (by omega), first.outside index (by omega)]

end Fills

/-- Bytes that are in memory are put into a buffer that has room for them. -/
theorem Reads.fills (reads : memory.Reads address bytes) {offset : Nat}
    {buffer : Array UInt8} (fits : offset + bytes.length ≤ buffer.size) :
    memory.Fills address offset bytes.length buffer
      (Bytes.overwrite buffer offset bytes) where
  size := Bytes.size_overwrite buffer offset bytes
  inside index less := by
    rw [Bytes.getElem?_overwrite, if_pos (by omega), Nat.add_sub_cancel_left]
    exact (reads index less).symm
  outside index elsewhere := by
    rw [Bytes.getElem?_overwrite, if_neg (by omega)]

theorem Reads.take (reads : memory.Reads address bytes) (length : Nat) :
    memory.Reads address (bytes.take length) := by
  intro index less
  rw [List.length_take] at less
  rw [List.getElem?_take, if_pos (by omega)]
  exact reads index (by omega)

theorem written_nil (memory : FlatMemory) (address : Nat) :
    memory.written address [] = memory := by
  funext other
  simp only [written, LogicalPage.written_nil, Option.map_id']

theorem written_take_drop (memory : FlatMemory) (address length : Nat)
    (bytes : List UInt8) :
    (memory.written address (bytes.take length)).written (address + length)
      (bytes.drop length) = memory.written address bytes := by
  funext other
  simp only [written, Option.map_map]
  congr 1
  funext page
  exact page.written_take_drop _ address length bytes

theorem written_reads (covers : memory.Covers address bytes.length)
    (whole : ∀ other page, memory other = some page →
      page.bytes.length = pageSize) :
    (memory.written address bytes).Reads address bytes := by
  intro index less
  obtain ⟨page, shown⟩ := Option.isSome_iff_exists.mp (covers index less)
  have position := Address.pageBase_add_pageOffset (address + index)
  have inPage : Address.pageOffset (address + index) < page.bytes.length := by
    rw [whole _ _ shown]
    exact Address.pageOffset_lt _
  have sameIndex : address + index - address = index := by omega
  rw [byte?, written, shown]
  change (page.written (Address.pageBase (address + index)) address
    bytes).bytes[Address.pageOffset (address + index)]? = bytes[index]?
  rw [LogicalPage.written, List.getElem?_mapIdx,
    List.getElem?_eq_getElem inPage, Option.map_some, position,
    if_pos (Nat.le_add_right _ _), sameIndex, List.getElem?_eq_getElem less]
  rfl

/-- `bytes` were written from `address` on, all of them to pages that were
there. -/
structure Receives (before after : FlatMemory) (address : Nat)
    (bytes : List UInt8) : Prop where
  covers : before.Covers address bytes.length
  eq_written : after = before.written address bytes

namespace Receives

variable {before middle after : FlatMemory}

theorem nil (memory : FlatMemory) (address : Nat) :
    memory.Receives memory address [] where
  covers _ less := absurd less (Nat.not_lt_zero _)
  eq_written := (memory.written_nil address).symm

theorem trans {length : Nat}
    (first : before.Receives middle address (bytes.take length))
    (second : middle.Receives after (address + length) (bytes.drop length)) :
    before.Receives after address bytes where
  covers index less := by
    by_cases isEarly : index < length
    · apply first.covers
      rw [List.length_take]
      omega
    · have isIn := second.covers (index - length) (by
        rw [List.length_drop]
        omega)
      have position : address + length + (index - length) =
          address + index := by omega
      rw [position, first.eq_written, written, Option.isSome_map] at isIn
      exact isIn
  eq_written := by
    rw [second.eq_written, first.eq_written, written_take_drop]

/-- Some bytes were written, and then some more. -/
theorem trans_take {length more : Nat}
    (first : before.Receives middle address (bytes.take length))
    (second : middle.Receives after (address + length)
      ((bytes.drop length).take more)) :
    before.Receives after address (bytes.take (length + more)) := by
  have early : (bytes.take (length + more)).take length =
      bytes.take length := by
    rw [List.take_take, Nat.min_eq_left (Nat.le_add_right _ _)]
  have late : (bytes.take (length + more)).drop length =
      (bytes.drop length).take more := by
    rw [List.drop_take, Nat.add_sub_cancel_left]
  rw [← early] at first
  rw [← late] at second
  exact first.trans second

theorem reads (receives : before.Receives after address bytes)
    (whole : ∀ other page, before other = some page →
      page.bytes.length = pageSize) : after.Reads address bytes := by
  rw [receives.eq_written]
  exact written_reads receives.covers whole

end Receives

namespace Spans

variable {size larger smaller : Nat}

theorem congr {other : FlatMemory} (spans : memory.Spans size)
    (same : ∀ address, (other address).isSome = (memory address).isSome) :
    other.Spans size := by
  intro address
  rw [same]
  exact spans address

theorem added (spans : memory.Spans size) (larger : Nat)
    (page : LogicalPage) :
    (memory.added (Address.pageCeil size) (Address.pageCeil larger)
      page).Spans (max size larger) := by
  intro address
  have known := spans address
  have ceiling : Address.pageCeil (max size larger) =
      max (Address.pageCeil size) (Address.pageCeil larger) := by
    simp only [Address.pageCeil, pageSize]
    omega
  rw [ceiling, FlatMemory.added]
  split
  · simp only [Option.isSome_some, true_iff]
    omega
  · rw [known]
    omega

theorem cleared (spans : memory.Spans size) (smaller : Nat) :
    (memory.cleared (Address.pageCeil smaller)
      (Address.pageCeil size)).Spans (min size smaller) := by
  intro address
  have known := spans address
  have ceiling : Address.pageCeil (min size smaller) =
      min (Address.pageCeil size) (Address.pageCeil smaller) := by
    simp only [Address.pageCeil, pageSize]
    omega
  rw [ceiling, FlatMemory.cleared]
  split
  · simp only [Option.isSome_none, Bool.false_eq_true, false_iff]
    omega
  · rw [known]
    omega

theorem written (spans : memory.Spans size) (address : Nat)
    (bytes : List UInt8) : (memory.written address bytes).Spans size :=
  spans.congr fun _ => Option.isSome_map

theorem withdrawn (spans : memory.Spans size) (address : Nat) :
    (memory.withdrawn address).Spans size := by
  refine spans.congr fun other => ?_
  rw [FlatMemory.withdrawn]
  split
  · exact Option.isSome_map
  · rfl

end Spans

end FlatMemory

end DemandPaging
