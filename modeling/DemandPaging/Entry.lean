import DemandPaging.Address
import DemandPaging.Entry.Flags

/-!
# Page-table entries

An entry holds flags, the number of the frame it points at and three reserved
bits.  `Entry.word` and `Entry.ofWord` give its 64-bit form: the flags and one
reserved bit in the low ten bits, the frame number in the next 52, two reserved
bits on top.  Each entry has one word and each word one entry.
-/

namespace DemandPaging

/-- A page-table entry. -/
structure Entry where
  flags : Flags := {}
  /-- The number of the frame the entry points at. -/
  frame : Fin 0x10000000000000 := 0
  /-- The reserved bit among the flags. -/
  spare : Bool := false
  /-- The two reserved bits above the frame number. -/
  high : Fin 4 := 0
  deriving DecidableEq

namespace Entry

/-- The entry of a page that is not mapped: all bits clear. -/
def empty : Entry := {}

/-- An entry that points at the frame holding `address`. -/
def point (address : Nat) (flags : Flags) : Entry where
  flags := flags
  frame := Fin.ofNat _ (address / pageSize)

/-- The address of the frame the entry points at. -/
def address (entry : Entry) : Nat :=
  entry.frame.val * pageSize

/-- Does the entry point at a frame? -/
def isValid (entry : Entry) : Bool := entry.flags.valid

/-- Are the contents of the page in swap? -/
def isPagedOut (entry : Entry) : Bool := entry.flags.pagedOut

/-- Does the entry stand for a page of memory, wherever its contents are? -/
def isPresent (entry : Entry) : Bool :=
  entry.isValid || entry.isPagedOut

/-- A valid entry without any other flag points at a further table, not at a
page. -/
def isLeaf (entry : Entry) : Bool :=
  decide (entry.flags ≠ { valid := true })

/-- The entry with further flags set. -/
def insert (entry : Entry) (flags : Flags) : Entry :=
  { entry with flags := entry.flags.union flags }

/-- The entry with some flags cleared. -/
def remove (entry : Entry) (flags : Flags) : Entry :=
  { entry with flags := entry.flags.difference flags }

/-- The entry of a page that has moved to swap: no frame, and the flags of
`flags` with the mark for swap in place of the valid bit. -/
def pagedOut (flags : Flags) : Entry :=
  point 0 { flags with valid := false, pagedOut := true }

/-- The entry of a page that has come into the frame at `address`: the flags
of `flags` with the valid bit in place of the mark for swap. -/
def resident (address : Nat) (flags : Flags) : Entry :=
  point address { flags with valid := true, pagedOut := false }

/-- The 64-bit form of the entry. -/
def word (entry : Entry) : Nat :=
  entry.flags.bits + 0x100 * entry.spare.toNat +
    0x400 * entry.frame.val + 0x4000000000000000 * entry.high.val

/-- The entry with a given 64-bit form. -/
def ofWord (word : Nat) : Entry where
  flags := Flags.ofBits word
  frame := Fin.ofNat _ (word / 0x400)
  spare := word.testBit 8
  high := Fin.ofNat _ (word / 0x4000000000000000)

/-- How an entry is shown in messages. -/
def describe (entry : Entry) : String :=
  "Pte \x7b pa: " ++ Address.describePhysical entry.address ++ ", flags: " ++
    entry.flags.describe ++ " \x7d"

/-- How the result of looking up an entry is shown in messages. -/
def describeOption : Option Entry → String
  | some entry => "Some(" ++ entry.describe ++ ")"
  | none => "None"

@[simp]
theorem flags_point (address : Nat) (flags : Flags) :
    (point address flags).flags = flags := rfl

theorem address_point {address : Nat} (bounded : address < 1 <<< 64)
    (flags : Flags) : (point address flags).address = Address.pageBase address := by
  have fits : address / pageSize < 0x10000000000000 := by
    simp only [pageSize]
    omega
  simp only [point, Entry.address, Address.pageBase, Fin.ofNat,
    Nat.mod_eq_of_lt fits]

@[simp]
theorem isValid_empty : empty.isValid = false := rfl

@[simp]
theorem isPagedOut_empty : empty.isPagedOut = false := rfl

@[simp]
theorem isPresent_empty : empty.isPresent = false := rfl

@[simp]
theorem isValid_pagedOut (flags : Flags) : (pagedOut flags).isValid = false :=
  rfl

@[simp]
theorem isPagedOut_pagedOut (flags : Flags) :
    (pagedOut flags).isPagedOut = true := rfl

@[simp]
theorem isValid_resident (address : Nat) (flags : Flags) :
    (resident address flags).isValid = true := rfl

@[simp]
theorem isPagedOut_resident (address : Nat) (flags : Flags) :
    (resident address flags).isPagedOut = false := rfl

theorem word_lt (entry : Entry) : entry.word < 1 <<< 64 := by
  have flagsBound := entry.flags.bits_lt
  have frameBound := entry.frame.isLt
  have highBound := entry.high.isLt
  have low : entry.flags.bits + 0x100 * entry.spare.toNat < 2 ^ 10 := by
    obtain ⟨⟨valid, read, write, exec, user, global, accessed, dirty,
      pagedOut⟩, frame, spare, high⟩ := entry
    clear flagsBound frameBound highBound
    simp only [Flags.bits]
    revert valid read write exec user global accessed dirty pagedOut spare
    decide
  simp only [word]
  omega

theorem word_ofWord {word : Nat} (bounded : word < 1 <<< 64) :
    (ofWord word).word = word := by
  simp only [ofWord, Entry.word, Flags.ofBits, Flags.bits, Nat.toNat_testBit,
    Fin.ofNat]
  omega

theorem ofWord_word (entry : Entry) : ofWord entry.word = entry := by
  obtain ⟨⟨valid, read, write, exec, user, global, accessed, dirty, pagedOut⟩,
    ⟨frame, frameBound⟩, spare, ⟨high, highBound⟩⟩ := entry
  have bitOf (bit : Bool) (number position : Nat)
      (digit : number / 2 ^ position % 2 = bit.toNat) :
      number.testBit position = bit := by
    rw [Nat.testBit_eq_decide_div_mod_eq, digit]
    cases bit <;> rfl
  have bound (bit : Bool) : bit.toNat ≤ 1 := Bool.toNat_le bit
  have := bound valid
  have := bound read
  have := bound write
  have := bound exec
  have := bound user
  have := bound global
  have := bound accessed
  have := bound dirty
  have := bound pagedOut
  have := bound spare
  simp only [ofWord, word, Flags.ofBits, Flags.bits, Entry.mk.injEq,
    Flags.mk.injEq, Fin.ofNat, Fin.mk.injEq]
  refine ⟨⟨?_, ?_, ?_, ?_, ?_, ?_, ?_, ?_, ?_⟩, by omega,
    bitOf _ _ _ (by omega), by omega⟩
  all_goals
    apply bitOf
    omega

end Entry

end DemandPaging
