import DemandPaging.Address

/-!
# Runs of bytes

Cutting a run of bytes out of a longer one and putting one into it.  A page of
memory is a vector of exactly `pageSize` bytes.
-/

namespace DemandPaging

namespace Bytes

/-- The bytes of `whole` from `offset` on, at most `length` of them. -/
def slice (whole : Array UInt8) (offset length : Nat) : List UInt8 :=
  (whole.toList.drop offset).take length

/-- `whole` with the bytes of a run in place of its own from `offset` on; those
that would lie past its end are dropped. -/
def overwrite (whole : Array UInt8) (offset : Nat) (run : List UInt8) :
    Array UInt8 :=
  ⟨whole.toList.take offset ++ run.take (whole.size - offset) ++
    whole.toList.drop (offset + run.length)⟩

@[simp]
theorem size_overwrite (whole : Array UInt8) (offset : Nat)
    (run : List UInt8) : (overwrite whole offset run).size = whole.size := by
  simp only [overwrite, List.size_toArray, List.length_append,
    List.length_take, List.length_drop, Array.length_toList]
  omega

/-- Within the run an overwritten array holds the run, and elsewhere what it
held before. -/
theorem getElem?_overwrite (whole : Array UInt8) (offset : Nat)
    (run : List UInt8) (index : Nat) :
    (overwrite whole offset run)[index]? =
      if offset ≤ index ∧ index < offset + run.length ∧ index < whole.size
      then run[index - offset]?
      else whole[index]? := by
  simp only [overwrite, List.getElem?_toArray, List.append_assoc,
    List.getElem?_append, List.length_take, Array.length_toList,
    List.getElem?_take, List.getElem?_drop, Array.getElem?_toList]
  by_cases inside : index < whole.size
  · by_cases early : index < offset
    · rw [if_pos (by omega), if_pos early, if_neg (by omega)]
    · have start : min offset whole.size = offset := by omega
      rw [if_neg (by omega), start]
      by_cases within : index < offset + run.length
      · rw [if_pos (by omega), if_pos (by omega), if_pos (by omega)]
      · have past : offset + run.length +
            (index - offset - min (whole.size - offset) run.length) = index := by
          omega
        rw [if_neg (by omega), past, if_neg (by omega)]
  · rw [if_neg (by omega), if_neg (by omega), if_neg (by omega),
      Array.getElem?_eq_none (by omega), Array.getElem?_eq_none (by omega)]

theorem length_slice (whole : Array UInt8) (offset length : Nat) :
    (slice whole offset length).length = min length (whole.size - offset) := by
  rw [slice, List.length_take, List.length_drop, Array.length_toList]

theorem getElem?_slice (whole : Array UInt8) (offset length index : Nat) :
    (slice whole offset length)[index]? =
      if index < length then whole[offset + index]? else none := by
  rw [slice, List.getElem?_take, List.getElem?_drop, Array.getElem?_toList]

end Bytes

/-- The contents of a page of memory. -/
abbrev Page := Vector UInt8 pageSize

namespace Page

/-- A page of equal bytes. -/
def filled (byte : UInt8) : Page :=
  Vector.replicate pageSize byte

/-- A page of zeros. -/
def zero : Page := filled 0

/-- The bytes of the page from `offset` on, at most `length` of them. -/
def slice (page : Page) (offset length : Nat) : List UInt8 :=
  Bytes.slice page.toArray offset length

/-- The page with the bytes of a run in place of its own from `offset` on;
those that would lie past its end are dropped. -/
def overwrite (page : Page) (offset : Nat) (run : List UInt8) : Page :=
  ⟨Bytes.overwrite page.toArray offset run, by simp⟩

/-- The page that begins with the bytes of a run and ends in zeros. -/
def ofList (run : List UInt8) : Page :=
  zero.overwrite 0 run

theorem toList_overwrite {page : Page} {bytes : List UInt8}
    (length : bytes.length = pageSize) :
    (page.overwrite 0 bytes).toList = bytes := by
  apply List.ext_getElem?
  intro index
  rw [Vector.getElem?_toList, ← Vector.getElem?_toArray, Page.overwrite,
    Bytes.getElem?_overwrite, Vector.size_toArray, length, Nat.sub_zero]
  by_cases inside : index < pageSize
  · rw [if_pos ⟨Nat.zero_le _, by omega, inside⟩]
  · rw [if_neg (by omega), Array.getElem?_eq_none (by simp; omega),
      List.getElem?_eq_none (by omega)]

@[simp]
theorem overwrite_nil (page : Page) (offset : Nat) :
    page.overwrite offset [] = page := by
  apply Vector.toList_inj.mp
  refine List.ext_getElem? fun index => ?_
  rw [Vector.getElem?_toList, Vector.getElem?_toList,
    ← Vector.getElem?_toArray, ← Vector.getElem?_toArray, Page.overwrite,
    Bytes.getElem?_overwrite, List.length_nil, if_neg (by omega)]

theorem overwrite_zero (page : Page) : page.overwrite 0 zero.toList = zero := by
  apply Vector.toList_inj.mp
  exact toList_overwrite (Vector.length_toList ..)

/-- Each byte of an overwritten page is the run's or its own. -/
theorem toList_overwrite_eq_mapIdx (page : Page) (offset : Nat)
    (bytes : List UInt8) :
    (page.overwrite offset bytes).toList =
      page.toList.mapIdx fun index byte =>
        if offset ≤ index then (bytes[index - offset]?).getD byte
        else byte := by
  refine List.ext_getElem? fun index => ?_
  rw [Vector.getElem?_toList, ← Vector.getElem?_toArray, Page.overwrite,
    Bytes.getElem?_overwrite, List.getElem?_mapIdx, Vector.getElem?_toList,
    ← Vector.getElem?_toArray, Vector.size_toArray]
  by_cases inside : index < pageSize
  · rw [Array.getElem?_eq_getElem (by simpa using inside), Option.map_some]
    by_cases isIn : offset ≤ index ∧ index < offset + bytes.length
    · rw [if_pos ⟨isIn.1, isIn.2, inside⟩, if_pos isIn.1,
        List.getElem?_eq_getElem (by omega)]
      rfl
    · rw [if_neg (by omega)]
      split
      · rw [List.getElem?_eq_none (by omega)]
        rfl
      · rfl
  · rw [if_neg (by omega), Array.getElem?_eq_none (by simp; omega)]
    rfl

end Page

end DemandPaging
