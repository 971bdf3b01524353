import DemandPaging.Action
import DemandPaging.Entry
import DemandPaging.Word
import Std.Data.TreeMap

/-!
# Page tables

A page table maps the pages of user memory to entries.  Entries live in tables
of 512, one for each group of 512 consecutive pages, made when a page of the
group is first needed; a budget may cap their number.  A page whose group has
a table always has an entry, which is empty until the page is mapped.

The view is `PageTable.get?`: the entry of the page that holds an address.
It is read through the page alone (`get?_pageBase`), a written entry is read
back (`get?_write`), and making a table shows as empty entries for its group
(`get?_addTable`).
-/

namespace DemandPaging

/-- Entries in one table. -/
abbrev tableSize : Nat := 512

/-- A page table. -/
structure PageTable where
  /-- The tables, each under the number of its group of pages. -/
  tables : Std.TreeMap Nat (Vector Entry tableSize) := ∅
  /-- The most tables there may be. -/
  budget : Option Nat := none

namespace PageTable

/-- The number of the group of the page that holds `address`. -/
def group (address : Nat) : Nat :=
  Address.pageNumber address / tableSize

/-- The place within its group of the page that holds `address`. -/
def place (address : Nat) : Fin tableSize :=
  Fin.ofNat _ (Address.pageNumber address)

/-- The page at a place of a group. -/
def pageAt (group : Nat) (place : Nat) : Nat :=
  (group * tableSize + place) * pageSize

/-- A table without entries, and how many tables it may come to have. -/
def new (budget : Option Nat) : PageTable where
  budget := budget

/-- The number of tables. -/
def tableCount (table : PageTable) : Nat :=
  table.tables.size

/-- The entry of the page that holds `address`, if its group has a table. -/
def get? (table : PageTable) (address : Nat) : Option Entry :=
  table.tables[group address]?.map fun entries => entries[place address]

/-- The table with `entry` for the page that holds `address`; without effect
where the group of the page has no table. -/
def write (table : PageTable) (address : Nat) (entry : Entry) : PageTable :=
  { table with
    tables := table.tables.modify (group address) fun entries =>
      entries.set (place address) entry }

/-- The table with the entry of a page changed by `change`, if it has one. -/
def update (table : PageTable) (address : Nat) (change : Entry → Entry) :
    PageTable :=
  match table.get? address with
  | some entry => table.write address (change entry)
  | none => table

/-- May a further table be made? -/
def hasRoom (table : PageTable) : Bool :=
  match table.budget with
  | some budget => table.tableCount < budget
  | none => true

/-- The table with an empty table for the group of `address`. -/
def addTable (table : PageTable) (address : Nat) : PageTable :=
  { table with
    tables := table.tables.insert (group address)
      (Vector.replicate tableSize Entry.empty) }

/-- Accepts the addresses of user memory. -/
def checkAddress (address : Nat) : Except Fatal Unit :=
  if address < addressLimit then .ok () else .error (.walkBeyondLimit address)

/-- The entry of the page that holds `address`. -/
def lookup (table : PageTable) (address : Nat) :
    Except Fatal (Option Entry) := do
  checkAddress address
  return table.get? address

/-- The entry of the page that holds `address`.  A missing table is made first
if `allocate` is set and the budget allows it. -/
def walk (table : PageTable) (address : Nat) (allocate : Bool) :
    Except Fatal (Option Entry × PageTable) := do
  checkAddress address
  match table.get? address with
  | some entry => return (some entry, table)
  | none =>
    if allocate && table.hasRoom then
      return (some Entry.empty, table.addTable address)
    else
      return (none, table)

/-- The entries of one table that stand for pages of memory, with the
addresses of their pages. -/
def leavesOf (group : Nat) (entries : Vector Entry tableSize) :
    List (Nat × Entry) :=
  entries.toList.zipIdx.filterMap fun (entry, place) =>
    if entry.isPresent then some (pageAt group place, entry) else none

/-- The entries that stand for pages of memory, with the addresses of their
pages, in the order of addresses. -/
def leaves (table : PageTable) : List (Nat × Entry) :=
  table.tables.toList.flatMap fun (group, entries) => leavesOf group entries

/-- Gives all tables back.  Every page must have been unmapped. -/
def destroy (table : PageTable) : Except Fatal PageTable :=
  match table.leaves with
  | [] => .ok { table with tables := ∅ }
  | (page, _) :: _ => .error (.leafLeft page)

/-- Points the entry of a page that is not mapped at the frame at `frame`. -/
def mapPage (page frame : Nat) (flags : Flags) : Action PageTable Unit := do
  match ← Action.step fun table => table.walk page true with
  | none => Action.fail .outOfMemory
  | some entry =>
    if entry.isValid then
      Action.crash (.remapped page)
    else
      Action.modify fun table =>
        table.write page (Entry.point frame { flags with valid := true })

/-- Maps the page at `page` and `further` pages after it to consecutive
frames.  Pages mapped before a failure stay mapped. -/
def mapRun (flags : Flags) (page frame : Nat) :
    (further : Nat) → Action PageTable Unit
  | 0 => mapPage page frame flags
  | further + 1 => do
    mapPage page frame flags
    let nextPage ← Word.add page pageSize
    let nextFrame ← Word.add frame pageSize
    mapRun flags nextPage nextFrame further

/-- Maps all pages that hold one of the `size` bytes from `address` on to
consecutive frames, the first at `frame`. -/
def map (address frame size : Nat) (flags : Flags) : Action PageTable Unit := do
  if size = 0 then
    Action.crash .emptyMapping
  else
    let stop ← Word.add address size
    let first := Address.pageBase address
    let last := Address.pageBase (stop - 1)
    mapRun flags first frame ((last - first) / pageSize)

/-- The frame of a valid page that user code may use. -/
def translate (table : PageTable) (address : Nat) : Option Nat :=
  if address < addressLimit then
    match table.get? address with
    | some entry =>
      if entry.isValid && entry.flags.user then some entry.address else none
    | none => none
  else
    none

/-- The flags that a reference leaves on a valid entry. -/
def referenceFlags (isWrite : Bool) : Flags :=
  { accessed := true, dirty := isWrite }

/-- Marks a valid page as referenced, and as written if `isWrite` is set. -/
def touch (table : PageTable) (address : Nat) (isWrite : Bool) :
    Except Fatal PageTable := do
  checkAddress address
  return table.update address fun entry =>
    if entry.isValid then entry.insert (referenceFlags isWrite) else entry

theorem place_val (address : Nat) :
    (place address).val = Address.pageNumber address % tableSize :=
  rfl

theorem pageAt_group_place (address : Nat) :
    pageAt (group address) (place address).val = Address.pageBase address := by
  simp only [pageAt, group, place_val, Address.pageNumber, Address.pageBase,
    tableSize, pageSize]
  omega

theorem group_pageAt {group place : Nat} (inside : place < tableSize) :
    PageTable.group (pageAt group place) = group := by
  simp only [PageTable.group, pageAt, Address.pageNumber, tableSize,
    pageSize] at *
  omega

theorem place_pageAt {group place : Nat} (inside : place < tableSize) :
    (PageTable.place (pageAt group place)).val = place := by
  simp only [place_val, pageAt, Address.pageNumber, tableSize, pageSize] at *
  omega

theorem pageNumber_eq_of_group_eq_of_place_eq {first second : Nat}
    (sameGroup : group first = group second)
    (samePlace : place first = place second) :
    Address.pageNumber first = Address.pageNumber second := by
  have placeEq := congrArg Fin.val samePlace
  simp only [place_val, group, tableSize] at *
  omega

theorem get?_eq_of_pageNumber_eq (table : PageTable) {first second : Nat}
    (same : Address.pageNumber first = Address.pageNumber second) :
    table.get? first = table.get? second := by
  simp only [get?, group, place, same]

@[simp]
theorem get?_pageBase (table : PageTable) (address : Nat) :
    table.get? (Address.pageBase address) = table.get? address :=
  table.get?_eq_of_pageNumber_eq (Address.pageNumber_pageBase address)

@[simp]
theorem get?_new (budget : Option Nat) (address : Nat) :
    (new budget).get? address = none := by
  simp [new, get?]

/-- A written entry is read back at its own page and nowhere else. -/
theorem get?_write (table : PageTable) (address other : Nat)
    (entry : Entry) :
    (table.write address entry).get? other =
      if Address.pageNumber other = Address.pageNumber address then
        (table.get? address).map fun _ => entry
      else table.get? other := by
  simp only [get?, write, Std.TreeMap.getElem?_modify,
    Std.LawfulEqCmp.compare_eq_iff_eq]
  by_cases samePage : Address.pageNumber other = Address.pageNumber address
  · have sameGroup : group address = group other := by
      simp only [group, samePage]
    have samePlace : place other = place address := by
      simp only [place, samePage]
    rw [if_pos sameGroup, if_pos samePage]
    cases table.tables[group address]? <;> simp [samePlace]
  · rw [if_neg samePage]
    by_cases sameGroup : group address = group other
    · have otherPlace : place address ≠ place other := fun samePlace =>
        samePage
          (pageNumber_eq_of_group_eq_of_place_eq sameGroup samePlace).symm
      have otherPlaceVal : (place address).val ≠ (place other).val :=
        fun equal => otherPlace (Fin.ext equal)
      rw [if_pos sameGroup, ← sameGroup]
      cases table.tables[group address]? <;>
        simp [otherPlaceVal]
    · rw [if_neg sameGroup]

/-- A new table shows as empty entries for its group of pages. -/
theorem get?_addTable (table : PageTable) (address other : Nat) :
    (table.addTable address).get? other =
      if group other = group address then some Entry.empty
      else table.get? other := by
  simp only [get?, addTable, Std.TreeMap.getElem?_insert,
    Std.LawfulEqCmp.compare_eq_iff_eq]
  by_cases sameGroup : group other = group address
  · rw [if_pos sameGroup, if_pos sameGroup.symm]
    simp
  · rw [if_neg sameGroup, if_neg (Ne.symm sameGroup)]

/-- A change shows at its own page and nowhere else. -/
theorem get?_update (table : PageTable) (address other : Nat)
    (change : Entry → Entry) :
    (table.update address change).get? other =
      if Address.pageNumber other = Address.pageNumber address then
        (table.get? address).map change
      else table.get? other := by
  unfold update
  split
  · rename_i entry found
    rw [get?_write, found]
    rfl
  · rename_i missing
    split
    · rename_i same
      rw [table.get?_eq_of_pageNumber_eq same, missing]
      rfl
    · rfl

end PageTable

end DemandPaging
