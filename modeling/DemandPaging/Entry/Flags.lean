/-!
# Flags of a page-table entry

Nine named bits: the permissions and status bits that the hardware reads, and
one software bit for a page whose contents are in swap.  The bit positions are
those of the hardware word; position eight is reserved and has no flag.
-/

namespace DemandPaging

/-- The named bits of a page-table entry.  A set of flags has no other bits, as
those that are read from an entry are masked; a caller that passes some further
bit along with them is not described. -/
structure Flags where
  /-- The entry points at a frame. -/
  valid : Bool := false
  read : Bool := false
  write : Bool := false
  exec : Bool := false
  /-- User code may use the page. -/
  user : Bool := false
  global : Bool := false
  /-- The page has been referenced since the bit was last cleared. -/
  accessed : Bool := false
  /-- The page has been written. -/
  dirty : Bool := false
  /-- The contents of the page are in a swap slot. -/
  pagedOut : Bool := false
  deriving DecidableEq

namespace Flags

/-- The flags as a number, each at its position in the hardware word. -/
def bits (flags : Flags) : Nat :=
  flags.valid.toNat + 0x2 * flags.read.toNat + 0x4 * flags.write.toNat +
    0x8 * flags.exec.toNat + 0x10 * flags.user.toNat +
    0x20 * flags.global.toNat + 0x40 * flags.accessed.toNat +
    0x80 * flags.dirty.toNat + 0x200 * flags.pagedOut.toNat

/-- The flags found in a number; its other bits are ignored. -/
def ofBits (number : Nat) : Flags where
  valid := number.testBit 0
  read := number.testBit 1
  write := number.testBit 2
  exec := number.testBit 3
  user := number.testBit 4
  global := number.testBit 5
  accessed := number.testBit 6
  dirty := number.testBit 7
  pagedOut := number.testBit 9

/-- The flags set in either. -/
def union (first second : Flags) : Flags where
  valid := first.valid || second.valid
  read := first.read || second.read
  write := first.write || second.write
  exec := first.exec || second.exec
  user := first.user || second.user
  global := first.global || second.global
  accessed := first.accessed || second.accessed
  dirty := first.dirty || second.dirty
  pagedOut := first.pagedOut || second.pagedOut

/-- The flags of the first that are not in the second. -/
def difference (first second : Flags) : Flags where
  valid := first.valid && !second.valid
  read := first.read && !second.read
  write := first.write && !second.write
  exec := first.exec && !second.exec
  user := first.user && !second.user
  global := first.global && !second.global
  accessed := first.accessed && !second.accessed
  dirty := first.dirty && !second.dirty
  pagedOut := first.pagedOut && !second.pagedOut

/-- Are all flags of `wanted` set in `flags`? -/
def contains (flags wanted : Flags) : Bool :=
  decide (flags.union wanted = flags)

/-- The names of the set flags, in the order of their bits. -/
def names (flags : Flags) : List String :=
  [(flags.valid, "VALID"), (flags.read, "READ"), (flags.write, "WRITE"),
    (flags.exec, "EXEC"), (flags.user, "USER"), (flags.global, "GLOBAL"),
    (flags.accessed, "ACCESSED"), (flags.dirty, "DIRTY"),
    (flags.pagedOut, "PAGED_OUT")].filterMap
      fun (isSet, name) => if isSet then some name else none

/-- How a set of flags is shown in messages. -/
def describe (flags : Flags) : String :=
  match flags.names with
  | [] => "PteFlags(0x0)"
  | names => "PteFlags(" ++ " | ".intercalate names ++ ")"

theorem bits_lt (flags : Flags) : flags.bits < 0x400 := by
  have bound (bit : Bool) : bit.toNat ≤ 1 := Bool.toNat_le bit
  simp only [bits]
  have := bound flags.valid
  have := bound flags.read
  have := bound flags.write
  have := bound flags.exec
  have := bound flags.user
  have := bound flags.global
  have := bound flags.accessed
  have := bound flags.dirty
  have := bound flags.pagedOut
  omega

@[simp]
theorem ofBits_bits (flags : Flags) : ofBits flags.bits = flags := by
  obtain ⟨valid, read, write, exec, user, global, accessed, dirty, pagedOut⟩ :=
    flags
  revert valid read write exec user global accessed dirty pagedOut
  decide

/-- A set contains another exactly when it has each of its flags. -/
theorem contains_iff {flags wanted : Flags} :
    flags.contains wanted = true ↔
      (wanted.valid → flags.valid) ∧ (wanted.read → flags.read) ∧
        (wanted.write → flags.write) ∧ (wanted.exec → flags.exec) ∧
        (wanted.user → flags.user) ∧ (wanted.global → flags.global) ∧
        (wanted.accessed → flags.accessed) ∧ (wanted.dirty → flags.dirty) ∧
        (wanted.pagedOut → flags.pagedOut) := by
  have orSelf (first second : Bool) :
      (first || second) = first ↔ (second → first) := by
    cases first <;> cases second <;> simp
  cases flags
  simp only [contains, union, decide_eq_true_eq, Flags.mk.injEq, orSelf]

end Flags

end DemandPaging
