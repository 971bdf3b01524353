import DemandPaging.Proofs.PageTable.Entries
import Mathlib.Data.Finset.Card

/-!
# The groups of pages that have tables

A page table is known by its budget, by the entries of the pages
(`PageTable.entryAt`) and by the groups of pages that have tables
(`PageTable.groups`): an address has the entry of its page exactly if its group
has a table (`get?_eq`).  To make a table adds its group and changes no entry;
to write an entry changes it and adds no group.  A walk that makes tables is
refused exactly if the group of its page has none and the budget is used up.
-/

namespace DemandPaging

namespace PageTable

variable {table after : PageTable} {address other page frame : Nat}
  {entry : Entry} {flags : Flags}

/-- The groups of pages that have tables. -/
def groups (table : PageTable) : Finset Nat :=
  table.tables.keys.toFinset

theorem mem_groups {number : Nat} :
    number ∈ table.groups ↔ number ∈ table.tables := by
  rw [groups, List.mem_toFinset, Std.TreeMap.mem_keys]

theorem card_groups (table : PageTable) :
    table.groups.card = table.tableCount := by
  rw [groups, List.toFinset_card_of_nodup Std.TreeMap.nodup_keys,
    Std.TreeMap.length_keys, tableCount]

theorem isSome_get?_iff :
    (table.get? address).isSome = true ↔ group address ∈ table.groups := by
  rw [mem_groups, Std.TreeMap.mem_iff_isSome_getElem?, get?, Option.isSome_map]

/-- An address has the entry of its page if the group of the page has a
table. -/
theorem get?_eq (table : PageTable) (address : Nat) :
    table.get? address =
      if group address ∈ table.groups then some (table.entryAt address)
      else none := by
  simp only [← isSome_get?_iff, entryAt]
  cases table.get? address <;> rfl

@[simp]
theorem groups_new (budget : Option Nat) : (new budget).groups = ∅ := by
  ext number
  simp [mem_groups, new]

@[simp]
theorem groups_addTable (table : PageTable) (address : Nat) :
    (table.addTable address).groups = insert (group address) table.groups := by
  ext number
  rw [Finset.mem_insert, mem_groups, mem_groups, addTable,
    Std.TreeMap.mem_insert, Std.LawfulEqCmp.compare_eq_iff_eq, eq_comm]

@[simp]
theorem groups_write (table : PageTable) (address : Nat) (entry : Entry) :
    (table.write address entry).groups = table.groups := by
  ext number
  rw [mem_groups, mem_groups, write, Std.TreeMap.mem_modify]

/-- Does the group of the page that holds `address` have a table among those of
`groups`, or may it be given one? -/
def Admits (budget : Option Nat) (groups : Finset Nat) (address : Nat) : Prop :=
  group address ∈ groups ∨ ∀ most ∈ budget, groups.card < most

instance (budget : Option Nat) (groups : Finset Nat) (address : Nat) :
    Decidable (Admits budget groups address) :=
  inferInstanceAs (Decidable (_ ∨ _))

theorem hasRoom_iff :
    table.hasRoom = true ↔ ∀ most ∈ table.budget, table.groups.card < most := by
  rw [hasRoom, card_groups]
  cases table.budget <;> simp

theorem walk_false (inside : address < addressLimit) :
    table.walk address false = .ok (table.get? address, table) := by
  simp only [walk, checkAddress, if_pos inside]
  cases table.get? address <;> rfl

/-- A walk that makes tables finds the entry of a page that is admitted. -/
theorem walk_of_admits (inside : address < addressLimit)
    (admits : Admits table.budget table.groups address) :
    ∃ after, table.walk address true =
        .ok (some (table.entryAt address), after) ∧
      after.budget = table.budget ∧
      after.groups = insert (group address) table.groups ∧
      ∀ other, after.entryAt other = table.entryAt other := by
  simp only [walk, checkAddress, if_pos inside]
  cases found : table.get? address with
  | some entry =>
      have isThere : group address ∈ table.groups :=
        isSome_get?_iff.mp (Option.isSome_of_eq_some found)
      refine ⟨table, ?_, rfl, (Finset.insert_eq_of_mem isThere).symm,
        fun _ => rfl⟩
      rw [entryAt_of_get? found]
      rfl
  | none =>
      have missing : group address ∉ table.groups := by
        rw [← isSome_get?_iff, found]
        exact Bool.false_ne_true
      have room := hasRoom_iff.mpr (admits.resolve_left missing)
      refine ⟨table.addTable address, ?_, rfl, table.groups_addTable address,
        entryAt_addTable found⟩
      rw [room, entryAt_of_get?_none found]
      rfl

theorem walk_of_not_admits (inside : address < addressLimit)
    (refused : ¬Admits table.budget table.groups address) :
    table.walk address true = .ok (none, table) := by
  rw [Admits, not_or, ← hasRoom_iff, Bool.not_eq_true] at refused
  simp only [walk, checkAddress, if_pos inside]
  have missing : table.get? address = none := by
    rw [get?_eq, if_neg refused.1]
  rw [missing, refused.2]
  rfl

/-- The page that holds `address` has an entry now, and its group a table; the
other pages have the entries that they had. -/
structure Puts (table : PageTable) (address : Nat) (entry : Entry)
    (after : PageTable) : Prop where
  budget : after.budget = table.budget
  groups : after.groups = insert (group address) table.groups
  entryAt : ∀ other, after.entryAt other =
    if Address.pageBase other = Address.pageBase address then entry
    else table.entryAt other

/-- An entry that was walked to is overwritten. -/
theorem puts_write {walked : PageTable} (entry : Entry)
    (budget : walked.budget = table.budget)
    (groups : walked.groups = insert (group address) table.groups)
    (same : ∀ other, walked.entryAt other = table.entryAt other) :
    table.Puts address entry (walked.write address entry) where
  budget := budget
  groups := (groups_write walked address entry).trans groups
  entryAt other := by
    have found := walked.get?_eq address
    rw [if_pos (groups ▸ Finset.mem_insert_self _ _)] at found
    rw [entryAt_write found, same]

/-- Where a walk found a page that is not in memory, it comes to point at the
frame. -/
theorem run_mapPage_of_walk {walked : PageTable} (frame : Nat) (flags : Flags)
    (walks : table.walk page true = .ok (some entry, walked))
    (unmapped : entry.isValid = false) :
    (mapPage page frame flags).run table =
      .done () (walked.write page
        (Entry.point frame { flags with valid := true })) := by
  rw [mapPage, Action.run_bind_of_done (Action.run_step_of_ok walks)]
  simp only [unmapped, Bool.false_eq_true, ↓reduceIte, Action.run_modify]

theorem walk_of_isValid (inside : page < addressLimit)
    (isMapped : (table.entryAt page).isValid = true) :
    table.walk page true = .ok (some (table.entryAt page), table) := by
  have isPresent : (table.entryAt page).isPresent = true := by
    rw [Entry.isPresent, isMapped, Bool.true_or]
  simp only [walk, checkAddress, if_pos inside, get?_of_isPresent isPresent]
  rfl

theorem run_mapPage_of_isValid (frame : Nat) (flags : Flags)
    (inside : page < addressLimit)
    (isMapped : (table.entryAt page).isValid = true) :
    (mapPage page frame flags).run table = .fatal (.remapped page) := by
  rw [mapPage, Action.run_bind_of_done
    (Action.run_step_of_ok (walk_of_isValid inside isMapped))]
  simp only [isMapped, ↓reduceIte, Action.run_crash]

theorem run_mapPage_of_not_admits (frame : Nat) (flags : Flags)
    (inside : page < addressLimit)
    (refused : ¬Admits table.budget table.groups page) :
    (mapPage page frame flags).run table = .failed .outOfMemory table := by
  rw [mapPage, Action.run_bind_of_done
    (Action.run_step_of_ok (walk_of_not_admits inside refused))]
  rfl

end PageTable

end DemandPaging
