import DemandPaging.Proofs.PageTable.Tables
import DemandPaging.Proofs.Relations
import DemandPaging.Proofs.Replacement.Choice

/-!
# Pages that are opened to user code

A page is open to user code if its entry has the user bit, be the page in memory
or in swap.  To map a page opens that page at most, and gives its group a table
(`PageTable.opens_mapPage`).  A change of entries that were there opens no page
and makes no table (`PageTable.opens_update`), and so the policies, which take
marks of references off, do neither (`Policy.opens_select`,
`Policy.opens_onTick`).
-/

namespace DemandPaging

namespace PageTable

variable {table middle after : PageTable} {address page : Nat}
  {pages more : Finset Nat} {entry new : Entry}

/-- May user code use the page that holds `address`, as far as the user bit
goes? -/
def IsOpen (table : PageTable) (address : Nat) : Prop :=
  (table.entryAt address).flags.user = true

/-- The groups of the pages have tables now, and no further ones were made; and
no page was opened but these. -/
structure Opens (before : PageTable) (pages : Finset Nat) (after : PageTable) :
    Prop where
  groups : after.groups = before.groups ∪ pages.image group
  isOpen : ∀ address, after.IsOpen address →
    Address.pageBase address ∈ pages ∨ before.IsOpen address

theorem Opens.refl (table : PageTable) : table.Opens ∅ table where
  groups := by simp
  isOpen _ isOpen := .inr isOpen

instance : Std.Refl fun table after : PageTable => table.Opens ∅ after :=
  ⟨.refl⟩

theorem Opens.trans (opens : table.Opens pages middle)
    (further : middle.Opens more after) :
    table.Opens (pages ∪ more) after where
  groups := by
    rw [further.groups, opens.groups, Finset.image_union, Finset.union_assoc]
  isOpen address isOpen := by
    rcases further.isOpen address isOpen with isNew | wasOpen
    · exact .inl (Finset.mem_union_right _ isNew)
    · rcases opens.isOpen address wasOpen with isNew | wasOpen
      · exact .inl (Finset.mem_union_left _ isNew)
      · exact .inr wasOpen

theorem Opens.trans_empty (opens : table.Opens pages middle)
    (further : middle.Opens ∅ after) : table.Opens pages after := by
  have whole := opens.trans further
  rwa [Finset.union_empty] at whole

theorem Opens.empty_trans (opens : table.Opens ∅ middle)
    (further : middle.Opens pages after) : table.Opens pages after := by
  have whole := opens.trans further
  rwa [Finset.empty_union] at whole

theorem opens_write (found : table.get? address = some entry)
    (closed : new.flags.user = true → entry.flags.user = true) :
    table.Opens ∅ (table.write address new) where
  groups := by
    rw [groups_write, Finset.image_empty, Finset.union_empty]
  isOpen other isOpen := by
    right
    rw [IsOpen, entryAt_write found] at isOpen
    split at isOpen
    · rename_i samePage
      rw [IsOpen, entryAt_eq_of_pageBase_eq samePage, entryAt_of_get? found]
      exact closed isOpen
    · exact isOpen

theorem opens_update {change : Entry → Entry} (address : Nat)
    (closed : ∀ entry, (change entry).flags.user = true →
      entry.flags.user = true) :
    table.Opens ∅ (table.update address change) := by
  rw [update]
  split
  · rename_i entry found
    exact opens_write found (closed entry)
  · exact .refl table

theorem opens_touch {isWrite : Bool}
    (touched : table.touch address isWrite = .ok after) :
    table.Opens ∅ after := by
  simp only [touch, bind_eq_ok_iff] at touched
  obtain ⟨_, _, same⟩ := touched
  cases same
  apply opens_update
  intro entry isOpen
  split at isOpen
  · simpa [Entry.insert, Flags.union, referenceFlags] using isOpen
  · exact isOpen

/-- An entry that is put in place opens its page at most. -/
theorem Puts.opens (puts : table.Puts page entry after) :
    table.Opens {Address.pageBase page} after where
  groups := by
    rw [puts.groups, Finset.image_singleton, Finset.insert_eq,
      Finset.union_comm, group, group, Address.pageNumber_pageBase]
  isOpen address isOpen := by
    rw [IsOpen, puts.entryAt] at isOpen
    split at isOpen
    · rename_i samePage
      exact .inl (Finset.mem_singleton.mpr samePage)
    · exact .inr isOpen

/-- A page that is mapped is opened at most itself; if it cannot be, nothing
changes. -/
theorem opens_mapPage (page frame : Nat) (flags : Flags) (table : PageTable) :
    ((mapPage page frame flags).run table).Meets (fun _ => True)
      (fun _ after => table.Opens {Address.pageBase page} after)
      fun _ after => after = table := by
  by_cases inside : page < addressLimit
  · by_cases admits : Admits table.budget table.groups page
    · obtain ⟨walked, walks, budget, groups, same⟩ :=
        walk_of_admits inside admits
      cases isMapped : (table.entryAt page).isValid with
      | true =>
          rw [run_mapPage_of_isValid frame flags inside isMapped]
          trivial
      | false =>
          rw [run_mapPage_of_walk frame flags walks isMapped]
          exact (puts_write _ budget groups same).opens
    · rw [run_mapPage_of_not_admits frame flags inside admits]
      exact rfl
  · rw [mapPage, Action.run_bind_of_fatal (Action.run_step_of_error
      (walk_of_le (Nat.le_of_not_lt inside) true))]
    trivial

/-- Where a page that begins at a page boundary is mapped, it is mapped
alone. -/
theorem opens_map (frame : Nat) (flags : Flags)
    (aligned : Address.pageBase page = page) (table : PageTable) :
    ((map page frame pageSize flags).run table).Meets (fun _ => True)
      (fun _ after => table.Opens {page} after)
      fun _ after => after = table := by
  by_cases inside : page < addressLimit
  · have fits : page + pageSize < Word.limit := by
      simp only [pageSize, addressLimit, Word.limit] at *
      omega
    have mapped := opens_mapPage page frame flags table
    rw [aligned] at mapped
    rw [run_map_pageSize_eq aligned fits]
    exact mapped
  · obtain ⟨cause, ended⟩ := run_map_pageSize_of_le table frame flags aligned
      (Nat.le_of_not_lt inside)
    rw [ended]
    trivial

end PageTable

namespace Policy

open PageTable (Opens)

variable {policy : Policy} {ledger changed : Ledger} {table marked : PageTable}
  {victim : Victim} {page : Nat} {entry : Entry}

theorem opens_unmark (found : table.get? page = some entry) :
    table.Opens ∅ (table.write page (entry.remove accessedFlag)) := by
  apply PageTable.opens_write found
  simp [Entry.remove, Flags.difference, accessedFlag]

theorem opens_sweep {chances : Nat}
    (swept : sweep chances ledger table = .ok (victim, changed, marked)) :
    table.Opens ∅ marked := by
  induction chances generalizing ledger table victim with
  | zero =>
      simp only [sweep, bind_eq_ok_iff] at swept
      obtain ⟨_, _, _, _, same⟩ := swept
      cases same
      exact .refl _
  | succ chances ih =>
      simp only [sweep, bind_eq_ok_iff] at swept
      obtain ⟨front, _, entry, found, rest⟩ := swept
      split at rest
      · simp only [bind_eq_ok_iff] at rest
        obtain ⟨_, _, _, _, _, further, same⟩ := rest
        cases same
        exact (opens_unmark (Books.get?_of_queuedEntry found)).trans_empty
          (ih further)
      · cases rest
        exact .refl _

/-- To choose a victim opens no page. -/
theorem opens_select
    (selected : policy.select ledger table = .ok (victim, changed, marked)) :
    table.Opens ∅ marked := by
  cases policy with
  | noPaging => cases selected
  | scfifo => exact opens_sweep selected
  | nfua | lapa =>
      simp only [select, bind_eq_ok_iff] at selected
      obtain ⟨_, _, same⟩ := selected
      cases same
      exact .refl _

theorem opens_agePages {pages : List ResidentPage}
    (aged : agePages pages ledger table = .ok (changed, marked)) :
    table.Opens ∅ marked := by
  induction pages generalizing ledger table with
  | nil =>
      cases aged
      exact .refl _
  | cons page pages ih =>
      simp only [agePages, agePage, bind_eq_ok_iff, Prod.exists] at aged
      obtain ⟨_, middle, ⟨found, looked, agedOne⟩, rest⟩ := aged
      obtain ⟨_, rfl⟩ := PageTable.lookup_eq_ok_iff.mp looked
      split at agedOne
      · cases agedOne
      · rename_i entry found
        simp only [bind_eq_ok_iff] at agedOne
        obtain ⟨_, _, same⟩ := agedOne
        cases same
        exact (opens_unmark found).trans_empty (ih rest)

/-- A tick opens no page. -/
theorem opens_onTick {aged : Option Nat}
    (ticked : policy.onTick ledger table = .ok (aged, changed, marked)) :
    table.Opens ∅ marked := by
  cases policy with
  | noPaging | scfifo =>
      cases ticked
      exact .refl _
  | nfua | lapa =>
      simp only [onTick, bind_eq_ok_iff] at ticked
      obtain ⟨_, aging, same⟩ := ticked
      cases same
      exact opens_agePages aging

end Policy

end DemandPaging
