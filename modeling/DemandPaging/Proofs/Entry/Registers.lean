import DemandPaging.Entry
import Mathlib.Data.Finset.SDiff
import Mathlib.Order.Interval.Finset.Nat
import Mathlib.Tactic.IntervalCases

/-!
# Entries in registers

The hardware holds an entry in a register of 64 bits.  Here each operation on
entries is shown to be a few shifts and masks of the register, and what an entry
says is read back from there: encoding loses nothing but the place within a
page, and decoding loses just the three reserved bits
(`registers_hold_entries`).
-/

namespace DemandPaging

namespace Flags

variable {first second flags : Flags} {position : Nat}

/-- The flag at a position of the word; a reserved position has none. -/
def bitAt (flags : Flags) : Nat → Bool
  | 0 => flags.valid
  | 1 => flags.read
  | 2 => flags.write
  | 3 => flags.exec
  | 4 => flags.user
  | 5 => flags.global
  | 6 => flags.accessed
  | 7 => flags.dirty
  | 8 => false
  | 9 => flags.pagedOut
  | _ => false

/-- Has the position no flag? -/
def IsReserved (position : Nat) : Prop :=
  position = 8 ∨ 10 ≤ position

instance (position : Nat) : Decidable (IsReserved position) :=
  inferInstanceAs (Decidable (_ ∨ _))

/-- The positions of the flags that are set. -/
def positions (flags : Flags) : Finset Nat :=
  (Finset.range 10).filter fun position => flags.bitAt position = true

/-- The flags in a register, with all else clear. -/
def mask (flags : Flags) : BitVec 64 :=
  BitVec.ofNat 64 flags.bits

theorem bitAt_of_isReserved (reserved : IsReserved position) :
    flags.bitAt position = false := by
  obtain rfl | beyond := reserved
  · rfl
  · unfold bitAt
    split <;> first | omega | rfl

theorem eq_of_bitAt
    (same : ∀ position, ¬IsReserved position →
      first.bitAt position = second.bitAt position) : first = second := by
  have named (position : Nat) (inside : position ≠ 8 ∧ position < 10) :
      first.bitAt position = second.bitAt position := by
    apply same
    rw [IsReserved]
    omega
  cases first
  cases second
  rw [mk.injEq]
  exact ⟨named 0 (by decide), named 1 (by decide), named 2 (by decide),
    named 3 (by decide), named 4 (by decide), named 5 (by decide),
    named 6 (by decide), named 7 (by decide), named 9 (by decide)⟩

theorem bitAt_ofBits (number : Nat) (named : ¬IsReserved position) :
    (ofBits number).bitAt position = number.testBit position := by
  have inside : position < 10 := by
    rw [IsReserved] at named
    omega
  interval_cases position
  case «8» => exact absurd (.inl rfl) named
  all_goals rfl

theorem testBit_bits (flags : Flags) (position : Nat) :
    flags.bits.testBit position = flags.bitAt position := by
  by_cases reserved : IsReserved position
  · rw [bitAt_of_isReserved reserved]
    obtain rfl | beyond := reserved
    · have bound (bit : Bool) : bit.toNat ≤ 1 := Bool.toNat_le bit
      have := bound flags.valid
      have := bound flags.read
      have := bound flags.write
      have := bound flags.exec
      have := bound flags.user
      have := bound flags.global
      have := bound flags.accessed
      have := bound flags.dirty
      apply Nat.testBit_eq_decide_div_mod_eq.trans
      apply decide_eq_false
      simp only [bits]
      omega
    · have powers : 2 ^ 10 ≤ 2 ^ position :=
        Nat.pow_le_pow_right (by decide) beyond
      have small := flags.bits_lt
      exact Nat.testBit_lt_two_pow (by omega)
  · rw [← bitAt_ofBits flags.bits reserved, ofBits_bits]

theorem bitAt_union (first second : Flags) (position : Nat) :
    (first.union second).bitAt position =
      (first.bitAt position || second.bitAt position) := by
  unfold bitAt
  split <;> rfl

theorem bitAt_difference (first second : Flags) (position : Nat) :
    (first.difference second).bitAt position =
      (first.bitAt position && !second.bitAt position) := by
  unfold bitAt
  split <;> rfl

theorem getLsbD_mask (flags : Flags) (position : Nat) :
    flags.mask.getLsbD position = flags.bitAt position := by
  rw [mask, BitVec.getLsbD_ofNat, testBit_bits]
  by_cases inside : position < 64
  · simp [inside]
  · have reserved : IsReserved position := .inr (by omega)
    simp [bitAt_of_isReserved reserved]

theorem mem_positions : position ∈ flags.positions ↔ flags.bitAt position := by
  rw [positions, Finset.mem_filter, Finset.mem_range, and_iff_right_iff_imp]
  intro isSet
  by_contra beyond
  have reserved : IsReserved position := .inr (by omega)
  rw [bitAt_of_isReserved reserved] at isSet
  cases isSet

theorem positions_union (first second : Flags) :
    (first.union second).positions = first.positions ∪ second.positions := by
  ext position
  simp only [Finset.mem_union, mem_positions, bitAt_union, Bool.or_eq_true]

theorem positions_difference (first second : Flags) :
    (first.difference second).positions =
      first.positions \ second.positions := by
  ext position
  simp [mem_positions, bitAt_difference]

end Flags

namespace Entry

open Flags (IsReserved)

variable {entry : Entry} {raw other : BitVec 64} {flags : Flags}

/-- The entry that a register holds. -/
def ofRegister (raw : BitVec 64) : Entry :=
  ofWord raw.toNat

/-- The register that holds an entry. -/
def register (entry : Entry) : BitVec 64 :=
  BitVec.ofNat 64 entry.word

@[simp]
theorem register_ofRegister (raw : BitVec 64) :
    (ofRegister raw).register = raw := by
  rw [register, ofRegister, word_ofWord raw.isLt, BitVec.ofNat_toNat,
    BitVec.setWidth_eq]

@[simp]
theorem ofRegister_register (entry : Entry) :
    ofRegister entry.register = entry := by
  have small : entry.word < 2 ^ 64 := entry.word_lt
  rw [ofRegister, register, BitVec.toNat_ofNat, Nat.mod_eq_of_lt small,
    ofWord_word]

theorem bitAt_flags_ofRegister (raw : BitVec 64) {position : Nat}
    (named : ¬IsReserved position) :
    (ofRegister raw).flags.bitAt position = raw.getLsbD position :=
  Flags.bitAt_ofBits raw.toNat named

theorem frame_ofRegister (raw : BitVec 64) :
    (ofRegister raw).frame.val = (raw >>> 10).toNat % 2 ^ 52 := by
  rw [BitVec.toNat_ushiftRight, Nat.shiftRight_eq_div_pow]
  rfl

theorem high_ofRegister (raw : BitVec 64) :
    (ofRegister raw).high.val = (raw >>> 10).toNat / 2 ^ 52 := by
  have small := raw.isLt
  have held : (ofRegister raw).high.val = raw.toNat / 2 ^ 62 % 4 := rfl
  rw [held, BitVec.toNat_ushiftRight, Nat.shiftRight_eq_div_pow]
  omega

theorem spare_ofRegister (raw : BitVec 64) :
    (ofRegister raw).spare = raw.getLsbD 8 := by
  rw [← BitVec.testBit_toNat]
  rfl

/-- A register with other flags, and all else as before, holds the entry with
these flags. -/
theorem ofRegister_eq
    (agree : ∀ position < 64, IsReserved position →
      other.getLsbD position = raw.getLsbD position)
    (shown : ∀ position, ¬IsReserved position →
      other.getLsbD position = flags.bitAt position) :
    ofRegister other = { ofRegister raw with flags } := by
  have shifted : other >>> 10 = raw >>> 10 := by
    apply BitVec.eq_of_getLsbD_eq
    intro position _
    rw [BitVec.getLsbD_ushiftRight, BitVec.getLsbD_ushiftRight]
    by_cases inside : 10 + position < 64
    · exact agree _ inside (.inr (Nat.le_add_right 10 position))
    · rw [BitVec.getLsbD_of_ge _ _ (Nat.le_of_not_lt inside),
        BitVec.getLsbD_of_ge _ _ (Nat.le_of_not_lt inside)]
  have flagsEq : (ofRegister other).flags = flags := by
    apply Flags.eq_of_bitAt
    intro position named
    rw [bitAt_flags_ofRegister other named, shown position named]
  have frameEq : (ofRegister other).frame = (ofRegister raw).frame := by
    apply Fin.ext
    rw [frame_ofRegister, frame_ofRegister, shifted]
  have spareEq : (ofRegister other).spare = (ofRegister raw).spare := by
    rw [spare_ofRegister, spare_ofRegister]
    exact agree 8 (by decide) (.inl rfl)
  have highEq : (ofRegister other).high = (ofRegister raw).high := by
    apply Fin.ext
    rw [high_ofRegister, high_ofRegister, shifted]
  calc ofRegister other = ⟨(ofRegister other).flags, (ofRegister other).frame,
        (ofRegister other).spare, (ofRegister other).high⟩ := rfl
    _ = { ofRegister raw with flags } := by
      rw [flagsEq, frameEq, spareEq, highEq]

/-- The register of an entry with other flags differs only where flags stand. -/
theorem register_with_flags
    (agree : ∀ position < 64, IsReserved position →
      other.getLsbD position = entry.register.getLsbD position)
    (shown : ∀ position, ¬IsReserved position →
      other.getLsbD position = flags.bitAt position) :
    ({ entry with flags } : Entry).register = other := by
  have held := ofRegister_eq agree shown
  rw [ofRegister_register] at held
  rw [← held, register_ofRegister]

/-- The address of the frame takes the bits above the flags, and two of them are
lost at the top. -/
theorem address_ofRegister (raw : BitVec 64) :
    (ofRegister raw).address = (raw >>> 10 <<< 12).toNat := by
  rw [address, frame_ofRegister, BitVec.toNat_shiftLeft, Nat.shiftLeft_eq,
    pageSize]
  omega

theorem mask_flags_ofRegister (raw : BitVec 64) :
    (ofRegister raw).flags.mask = raw &&& 0x2ff := by
  have named : ∀ position < 64, (0x2ff : BitVec 64).getLsbD position =
      !decide (IsReserved position) := by
    decide
  apply BitVec.eq_of_getLsbD_eq
  intro position inside
  rw [Flags.getLsbD_mask, BitVec.getLsbD_and, named position inside]
  by_cases reserved : IsReserved position
  · simp [reserved, Flags.bitAt_of_isReserved reserved]
  · simp [reserved, bitAt_flags_ofRegister raw reserved]

theorem getLsbD_or_mask {position : Nat} (reserved : IsReserved position) :
    (raw ||| flags.mask).getLsbD position = raw.getLsbD position := by
  rw [BitVec.getLsbD_or, Flags.getLsbD_mask,
    Flags.bitAt_of_isReserved reserved, Bool.or_false]

theorem register_insert (entry : Entry) (flags : Flags) :
    (entry.insert flags).register = entry.register ||| flags.mask := by
  change ({ entry with flags := entry.flags.union flags } : Entry).register = _
  apply register_with_flags
  · exact fun _ _ reserved => getLsbD_or_mask reserved
  · intro position named
    rw [BitVec.getLsbD_or, Flags.getLsbD_mask, Flags.bitAt_union,
      ← bitAt_flags_ofRegister entry.register named, ofRegister_register]

theorem register_remove (entry : Entry) (flags : Flags) :
    (entry.remove flags).register = entry.register &&& ~~~flags.mask := by
  change ({ entry with
    flags := entry.flags.difference flags } : Entry).register = _
  apply register_with_flags
  · intro position inside reserved
    rw [BitVec.getLsbD_and, BitVec.getLsbD_not, Flags.getLsbD_mask,
      Flags.bitAt_of_isReserved reserved, decide_eq_true inside,
      Bool.not_false, Bool.and_self, Bool.and_true]
  · intro position named
    have inside : position < 64 := by
      rw [IsReserved] at named
      omega
    rw [BitVec.getLsbD_and, BitVec.getLsbD_not, Flags.getLsbD_mask,
      Flags.bitAt_difference, decide_eq_true inside, Bool.true_and,
      ← bitAt_flags_ofRegister entry.register named, ofRegister_register]

theorem getLsbD_placed_of_lt (physical : BitVec 64) {position : Nat}
    (inside : position < 10) :
    (physical >>> 12 <<< 10).getLsbD position = false := by
  simp [BitVec.getLsbD_shiftLeft, inside]

theorem toNat_placed (physical : BitVec 64) :
    (physical >>> 12 <<< 10 >>> 10).toNat = physical.toNat / pageSize := by
  have bounded := physical.isLt
  rw [BitVec.toNat_ushiftRight, BitVec.toNat_shiftLeft,
    BitVec.toNat_ushiftRight, Nat.shiftRight_eq_div_pow,
    Nat.shiftRight_eq_div_pow, Nat.shiftLeft_eq, pageSize]
  omega

theorem point_toNat (physical : BitVec 64) (flags : Flags) :
    point physical.toNat flags =
      { ofRegister (physical >>> 12 <<< 10) with flags } := by
  have frameEq : (ofRegister (physical >>> 12 <<< 10)).frame =
      (point physical.toNat flags).frame := by
    apply Fin.ext
    rw [frame_ofRegister, toNat_placed]
    rfl
  have spareEq : (ofRegister (physical >>> 12 <<< 10)).spare = false := by
    rw [spare_ofRegister, getLsbD_placed_of_lt physical (by decide)]
  have highEq : (ofRegister (physical >>> 12 <<< 10)).high = 0 := by
    have bounded := physical.isLt
    apply Fin.ext
    rw [high_ofRegister, toNat_placed]
    exact Nat.div_eq_of_lt (by rw [pageSize]; omega)
  dsimp only
  rw [frameEq, spareEq, highEq]
  rfl

/-- To point an entry at a frame is to shift the frame's address into place,
beside the flags. -/
theorem register_point (physical : BitVec 64) (flags : Flags) :
    (point physical.toNat flags).register =
      physical >>> 12 <<< 10 ||| flags.mask := by
  rw [point_toNat]
  apply register_with_flags
  · intro _ _ reserved
    rw [register_ofRegister, getLsbD_or_mask reserved]
  · intro position named
    have inside : position < 10 := by
      rw [IsReserved] at named
      omega
    rw [BitVec.getLsbD_or, Flags.getLsbD_mask,
      getLsbD_placed_of_lt physical inside, Bool.false_or]

/-- Shifts down to the frame's number and back clear the flags and the two bits
at the top. -/
theorem getLsbD_shifted (raw : BitVec 64) {position : Nat}
    (inside : position < 64) :
    (raw >>> 10 <<< 12 >>> 12 <<< 10).getLsbD position =
      (decide (10 ≤ position ∧ position < 62) && raw.getLsbD position) := by
  rw [BitVec.getLsbD_shiftLeft, BitVec.getLsbD_ushiftRight,
    BitVec.getLsbD_shiftLeft, BitVec.getLsbD_ushiftRight]
  by_cases low : position < 10
  · have outside : ¬(10 ≤ position ∧ position < 62) := by omega
    rw [decide_eq_true low, decide_eq_false outside, Bool.not_true,
      Bool.and_false, Bool.false_and, Bool.false_and]
  · have restored : 10 + (12 + (position - 10) - 12) = position := by omega
    have above : ¬12 + (position - 10) < 12 := by omega
    have same : 12 + (position - 10) < 64 ↔
        10 ≤ position ∧ position < 62 := by
      omega
    rw [restored, decide_eq_true inside, decide_eq_false low,
      decide_eq_false above, Bool.not_false, Bool.and_true, Bool.true_and,
      Bool.and_true, decide_eq_decide.mpr same]

/-- An entry that is read and written back is the same exactly if its reserved
bits are clear. -/
theorem point_address_flags_eq_iff (raw : BitVec 64) :
    (point (ofRegister raw).address (ofRegister raw).flags).register = raw ↔
      raw.getLsbD 8 = false ∧ raw.getLsbD 62 = false ∧
        raw.getLsbD 63 = false := by
  have written : ∀ position < 64,
      (raw >>> 10 <<< 12 >>> 12 <<< 10 |||
          (ofRegister raw).flags.mask).getLsbD position =
        (decide (position ∉ [8, 62, 63]) && raw.getLsbD position) := by
    intro position inside
    rw [BitVec.getLsbD_or, getLsbD_shifted raw inside, Flags.getLsbD_mask]
    by_cases named : IsReserved position
    · have kept : 10 ≤ position ∧ position < 62 ↔
          position ∉ [8, 62, 63] := by
        rw [IsReserved] at named
        simp
        omega
      rw [Flags.bitAt_of_isReserved named, Bool.or_false,
        decide_eq_decide.mpr kept]
    · rw [bitAt_flags_ofRegister raw named]
      have kept : position ∉ [8, 62, 63] := by
        rw [IsReserved] at named
        simp
        omega
      rw [decide_eq_true kept]
      cases raw.getLsbD position <;> simp
  rw [address_ofRegister, register_point]
  constructor
  · intro same
    rw [same] at written
    exact ⟨written 8 (by decide), written 62 (by decide),
      written 63 (by decide)⟩
  · rintro ⟨spare, highest, last⟩
    apply BitVec.eq_of_getLsbD_eq
    intro position inside
    rw [written position inside, Bool.and_eq_right_iff_imp]
    intro isSet
    apply decide_eq_true
    intro reserved
    simp only [List.mem_cons, List.not_mem_nil, or_false] at reserved
    rcases reserved with rfl | rfl | rfl
    · rw [spare] at isSet
      cases isSet
    · rw [highest] at isSet
      cases isSet
    · rw [last] at isSet
      cases isSet

/-- A change of the flags of an entry. -/
inductive Edit where
  | insert (flags : Flags)
  | remove (flags : Flags)

namespace Edit

/-- The entry after a change. -/
def apply (entry : Entry) : Edit → Entry
  | insert flags => entry.insert flags
  | remove flags => entry.remove flags

/-- What the change is to the set of flags. -/
def onSet (set : Finset Nat) : Edit → Finset Nat
  | insert flags => set ∪ flags.positions
  | remove flags => set \ flags.positions

/-- What the change is to the register. -/
def onRegister (raw : BitVec 64) : Edit → BitVec 64
  | insert flags => raw ||| flags.mask
  | remove flags => raw &&& ~~~flags.mask

theorem register_apply (entry : Entry) (edit : Edit) :
    (edit.apply entry).register = edit.onRegister entry.register := by
  cases edit with
  | insert flags => exact register_insert entry flags
  | remove flags => exact register_remove entry flags

theorem positions_apply (entry : Entry) (edit : Edit) :
    (edit.apply entry).flags.positions = edit.onSet entry.flags.positions := by
  cases edit with
  | insert flags => exact Flags.positions_union entry.flags flags
  | remove flags => exact Flags.positions_difference entry.flags flags

theorem address_apply (entry : Entry) (edit : Edit) :
    (edit.apply entry).address = entry.address := by
  cases edit <;> rfl

end Edit

/-- The entry after some changes, in order. -/
def editAll (edits : List Edit) (entry : Entry) : Entry :=
  edits.foldl Edit.apply entry

/-- Changes of the flags show in the set of flags, and nowhere else. -/
theorem editAll_shows (edits : List Edit) (entry : Entry) :
    (editAll edits entry).register =
        edits.foldl Edit.onRegister entry.register ∧
      (editAll edits entry).address = entry.address ∧
      (editAll edits entry).flags.positions =
        edits.foldl Edit.onSet entry.flags.positions := by
  induction edits generalizing entry with
  | nil => exact ⟨rfl, rfl, rfl⟩
  | cons edit edits ih =>
      obtain ⟨register, address, positions⟩ := ih (edit.apply entry)
      rw [edit.register_apply] at register
      rw [edit.address_apply] at address
      rw [edit.positions_apply] at positions
      exact ⟨register, address, positions⟩

/-- The entry of a page that goes to swap has the mark for swap in place of the
valid bit. -/
theorem positions_pagedOut (flags : Flags) :
    (pagedOut flags).flags.positions = flags.positions.erase 0 ∪ {9} := by
  ext position
  rw [Finset.mem_union, Finset.mem_singleton, Finset.mem_erase,
    Flags.mem_positions, Flags.mem_positions, pagedOut, flags_point]
  unfold Flags.bitAt
  split <;> simp_all

/-- The entry of a page that comes back has the valid bit in place of the mark
for swap. -/
theorem positions_resident (frame : Nat) (flags : Flags) :
    (resident frame flags).flags.positions = flags.positions.erase 9 ∪ {0} := by
  ext position
  rw [Finset.mem_union, Finset.mem_singleton, Finset.mem_erase,
    Flags.mem_positions, Flags.mem_positions, resident, flags_point]
  unfold Flags.bitAt
  split <;> simp_all

theorem flags_resident_pagedOut {entry : Entry}
    (isValid : entry.isValid = true) (notPagedOut : entry.isPagedOut = false)
    (frame : Nat) :
    (resident frame (pagedOut entry.flags).flags).flags = entry.flags := by
  change { entry.flags with valid := true, pagedOut := false } = entry.flags
  rw [← isValid, ← notPagedOut]
  rfl

/-- The entry of a page that went to swap and came back is the one for its new
frame with the flags that it had. -/
theorem resident_pagedOut {entry : Entry} (isValid : entry.isValid = true)
    (notPagedOut : entry.isPagedOut = false) (frame : Nat) :
    resident frame (pagedOut entry.flags).flags = point frame entry.flags := by
  have restored := flags_resident_pagedOut isValid notPagedOut frame
  rw [← restored]
  rfl

/-- An address in 64 bits and flags make an entry that has them, but for the
place in the page, and the register is made by shifts.  What a register holds
is read back from there, all but three reserved bits.  Setting and clearing
flags is setting and clearing bits: it never changes the address, and on the
flags it is union and difference.  So a page that was in memory comes back from
swap, in a frame that starts a page, with exactly its flags. -/
theorem registers_hold_entries :
    (∀ (physical : BitVec 64) (flags : Flags),
      (point physical.toNat flags).address =
          Address.pageBase physical.toNat ∧
        (point physical.toNat flags).flags = flags ∧
        (point physical.toNat flags).register =
          physical >>> 12 <<< 10 ||| flags.mask) ∧
    (∀ raw : BitVec 64,
      (ofRegister raw).register = raw ∧
        (ofRegister raw).address = (raw >>> 10 <<< 12).toNat ∧
        (ofRegister raw).flags.mask = raw &&& 0x2ff ∧
        ((point (ofRegister raw).address (ofRegister raw).flags).register =
            raw ↔
          raw.getLsbD 8 = false ∧ raw.getLsbD 62 = false ∧
            raw.getLsbD 63 = false)) ∧
    (∀ (raw : BitVec 64) (edits : List Edit),
      (editAll edits (ofRegister raw)).register =
          edits.foldl Edit.onRegister raw ∧
        (editAll edits (ofRegister raw)).address =
          (ofRegister raw).address ∧
        (editAll edits (ofRegister raw)).flags.positions =
          edits.foldl Edit.onSet (ofRegister raw).flags.positions) ∧
    ∀ (raw frame : BitVec 64), (ofRegister raw).isValid = true →
      (ofRegister raw).isPagedOut = false → frame.toNat % pageSize = 0 →
      let out := pagedOut (ofRegister raw).flags
      let back := resident frame.toNat out.flags
      out.address = 0 ∧
        out.flags.positions = (ofRegister raw).flags.positions.erase 0 ∪ {9} ∧
        back.flags.positions = out.flags.positions.erase 9 ∪ {0} ∧
        back.flags = (ofRegister raw).flags ∧
        back.address = frame.toNat ∧
        back.register = frame >>> 12 <<< 10 ||| raw &&& 0x2ff := by
  refine ⟨?_, ?_, ?_, ?_⟩
  · intro physical flags
    exact ⟨address_point physical.isLt flags, rfl,
      register_point physical flags⟩
  · intro raw
    exact ⟨register_ofRegister raw, address_ofRegister raw,
      mask_flags_ofRegister raw, point_address_flags_eq_iff raw⟩
  · intro raw edits
    have shown := editAll_shows edits (ofRegister raw)
    rw [register_ofRegister] at shown
    exact shown
  · intro raw frame isValid notPagedOut aligned out back
    have restored : back = point frame.toNat (ofRegister raw).flags :=
      resident_pagedOut isValid notPagedOut frame.toNat
    have away : out.address = 0 := by
      have zeros := address_point (by decide : 0 < 1 <<< 64) out.flags
      exact zeros.trans (Nat.zero_mul pageSize)
    have base : Address.pageBase frame.toNat = frame.toNat := by
      rw [Address.pageBase]
      exact Nat.div_mul_cancel (Nat.dvd_of_mod_eq_zero aligned)
    have pointed : back.address = frame.toNat := by
      rw [restored, address_point frame.isLt, base]
    have register : back.register =
        frame >>> 12 <<< 10 ||| raw &&& 0x2ff := by
      rw [restored, register_point, mask_flags_ofRegister]
    exact ⟨away, positions_pagedOut _, positions_resident _ _,
      flags_resident_pagedOut isValid notPagedOut _, pointed, register⟩

/-- A page that users may read and write, with its reserved bits set, moves from
one frame to another. -/
theorem registers_hold_entries_of_page :
    let raw : BitVec 64 := 0xc0000000200009d7
    (ofRegister raw).isValid = true ∧ (ofRegister raw).isPagedOut = false ∧
      (0x80003000 : BitVec 64).toNat % pageSize = 0 ∧
      (point (ofRegister raw).address (ofRegister raw).flags).register ≠
        raw ∧
      (resident 0x80003000
        (pagedOut (ofRegister raw).flags).flags).register =
          0x20000cd7 := by
  obtain ⟨-, held, -, moved⟩ := registers_hold_entries
  obtain ⟨-, -, -, -, -, register⟩ :=
    moved 0xc0000000200009d7 0x80003000 (by decide) (by decide) (by decide)
  refine ⟨by decide, by decide, by decide, ?_, ?_⟩
  · intro same
    have clear := (held 0xc0000000200009d7).2.2.2.mp same
    exact absurd clear (by decide)
  · exact register.trans (by decide)

end Entry

end DemandPaging
