import DemandPaging.Text.Hex

/-!
# Addresses and pages

An address is a natural number.  Memory is cut into pages of 4096 bytes, and
user memory ends at `addressLimit`.  The operations here are exact on all
natural numbers; the ones that can leave the machine's 64-bit range are in
`DemandPaging.Word`.
-/

namespace DemandPaging

/-- Bytes in a page. -/
abbrev pageSize : Nat := 4096

/-- One past the highest user address: three nine-bit table levels and a
twelve-bit offset, less the bit that would need sign extension. -/
abbrev addressLimit : Nat := 1 <<< 38

namespace Address

/-- The first address of the page that holds `address`. -/
def pageBase (address : Nat) : Nat :=
  address / pageSize * pageSize

/-- The least page boundary at or above `address`, over the natural numbers. -/
def pageCeil (address : Nat) : Nat :=
  (address + (pageSize - 1)) / pageSize * pageSize

/-- The place of `address` within its page. -/
def pageOffset (address : Nat) : Nat :=
  address % pageSize

/-- The number of the page that holds `address`. -/
def pageNumber (address : Nat) : Nat :=
  address / pageSize

/-- Does `address` start a page? -/
def isPageAligned (address : Nat) : Bool :=
  address % pageSize == 0

/-- How a virtual address is named in messages. -/
def describeVirtual (address : Nat) : String :=
  "VirtAddr(" ++ Text.hexLiteral address ++ ")"

/-- How a physical address is named in messages. -/
def describePhysical (address : Nat) : String :=
  "PhysAddr(" ++ Text.hexLiteral address ++ ")"

theorem isPageAligned_iff {address : Nat} :
    isPageAligned address = true ↔ address % pageSize = 0 := by
  simp [isPageAligned]

theorem pageBase_le (address : Nat) : pageBase address ≤ address := by
  simp only [pageBase, pageSize]
  omega

theorem lt_pageBase_add (address : Nat) :
    address < pageBase address + pageSize := by
  simp only [pageBase, pageSize]
  omega

theorem pageBase_add_pageOffset (address : Nat) :
    pageBase address + pageOffset address = address := by
  simp only [pageBase, pageOffset, pageSize]
  omega

theorem pageOffset_lt (address : Nat) : pageOffset address < pageSize :=
  Nat.mod_lt _ (by decide)

theorem pageBase_eq_self_iff {address : Nat} :
    pageBase address = address ↔ isPageAligned address = true := by
  simp only [pageBase, isPageAligned_iff, pageSize]
  omega

@[simp]
theorem pageBase_pageBase (address : Nat) :
    pageBase (pageBase address) = pageBase address := by
  simp only [pageBase, pageSize]
  omega

@[simp]
theorem pageNumber_pageBase (address : Nat) :
    pageNumber (pageBase address) = pageNumber address := by
  simp only [pageBase, pageNumber, pageSize]
  omega

theorem pageBase_eq_pageBase_iff {first second : Nat} :
    pageBase first = pageBase second ↔
      pageNumber first = pageNumber second := by
  simp only [pageBase, pageNumber, pageSize]
  omega

theorem pageBase_add_pageSize (address : Nat) :
    pageBase (address + pageSize) = pageBase address + pageSize := by
  simp only [pageBase, pageSize]
  omega

theorem pageBase_next {page : Nat} (aligned : pageBase page = page) :
    pageBase (page + pageSize) = page + pageSize := by
  rw [pageBase_add_pageSize, aligned]

theorem add_succ_mul_pageSize (page count : Nat) :
    page + (count + 1) * pageSize = page + pageSize + count * pageSize := by
  rw [Nat.succ_mul]
  omega

theorem pageBase_add_mul {address : Nat} (aligned : pageBase address = address)
    (count : Nat) :
    pageBase (address + count * pageSize) = address + count * pageSize := by
  rw [pageBase, Nat.add_mul_div_right _ _ (by decide), Nat.add_mul]
  exact congrArg (· + count * pageSize) aligned

theorem pageOffset_add {address index : Nat}
    (inPage : pageOffset address + index < pageSize) :
    pageOffset (address + index) = pageOffset address + index := by
  simp only [pageOffset, pageSize] at *
  omega

theorem pageBase_add {address index : Nat}
    (inPage : pageOffset address + index < pageSize) :
    pageBase (address + index) = pageBase address := by
  have here := pageBase_add_pageOffset address
  have there := pageBase_add_pageOffset (address + index)
  rw [pageOffset_add inPage] at there
  omega

theorem le_pageCeil (address : Nat) : address ≤ pageCeil address := by
  simp only [pageCeil, pageSize]
  omega

@[simp]
theorem isPageAligned_pageCeil (address : Nat) :
    isPageAligned (pageCeil address) = true := by
  simp only [pageCeil, isPageAligned_iff, pageSize]
  omega

theorem pageCeil_eq_self_iff {address : Nat} :
    pageCeil address = address ↔ isPageAligned address = true := by
  simp only [pageCeil, isPageAligned_iff, pageSize]
  omega

theorem pageCeil_mono {first second : Nat} (le : first ≤ second) :
    pageCeil first ≤ pageCeil second := by
  simp only [pageCeil, pageSize]
  omega

end Address

end DemandPaging
