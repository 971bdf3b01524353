import DemandPaging.PageTable.Leaves

/-!
# The entry of every page

A page without a table and a page with an empty entry are the same to
everything above a page table: neither is there.  `PageTable.entryAt` is the
view that does not tell them apart.  A change of one entry shows at its page
alone, and the making of a table does not show at all.
-/

namespace DemandPaging

namespace PageTable

variable {table after : PageTable} {address other page frame : Nat}
  {entry : Entry} {flags : Flags}

/-- The entry of the page that holds `address`, empty if it has none. -/
def entryAt (table : PageTable) (address : Nat) : Entry :=
  (table.get? address).getD Entry.empty

theorem pageNumber_eq_iff :
    Address.pageNumber other = Address.pageNumber address ↔
      Address.pageBase other = Address.pageBase address :=
  Address.pageBase_eq_pageBase_iff.symm

@[simp]
theorem entryAt_pageBase (table : PageTable) (address : Nat) :
    table.entryAt (Address.pageBase address) = table.entryAt address := by
  rw [entryAt, get?_pageBase, entryAt]

theorem entryAt_eq_of_pageBase_eq
    (same : Address.pageBase address = Address.pageBase other) :
    table.entryAt address = table.entryAt other := by
  rw [← entryAt_pageBase, same, entryAt_pageBase]

theorem get?_of_isPresent (isPresent : (table.entryAt address).isPresent = true) :
    table.get? address = some (table.entryAt address) := by
  unfold entryAt at *
  cases found : table.get? address with
  | none => simp [found] at isPresent
  | some entry => rfl

theorem entryAt_of_get? (found : table.get? address = some entry) :
    table.entryAt address = entry := by
  rw [entryAt, found]
  rfl

theorem entryAt_of_get?_none (missing : table.get? address = none) :
    table.entryAt address = Entry.empty := by
  rw [entryAt, missing]
  rfl

theorem mem_leaves_iff_entryAt :
    (page, entry) ∈ table.leaves ↔
      Address.pageBase page = page ∧ table.entryAt page = entry ∧
        entry.isPresent = true := by
  rw [mem_leaves_iff, Address.pageBase_eq_self_iff]
  refine and_congr_right fun _ => ?_
  constructor
  · rintro ⟨found, isPresent⟩
    exact ⟨entryAt_of_get? found, isPresent⟩
  · rintro ⟨rfl, isPresent⟩
    exact ⟨get?_of_isPresent isPresent, isPresent⟩

theorem entryAt_write (found : table.get? address = some entry)
    (new : Entry) (other : Nat) :
    (table.write address new).entryAt other =
      if Address.pageBase other = Address.pageBase address then new
      else table.entryAt other := by
  rw [entryAt, get?_write]
  by_cases same : Address.pageBase other = Address.pageBase address
  · rw [if_pos (pageNumber_eq_iff.mpr same), if_pos same, found]
    rfl
  · rw [if_neg (fun equal => same (pageNumber_eq_iff.mp equal)), if_neg same]
    rfl

/-- An entry changes at its own page. -/
theorem entryAt_update {change : Entry → Entry}
    (applies : (table.get? address).isSome = true ∨
      change Entry.empty = Entry.empty) (other : Nat) :
    (table.update address change).entryAt other =
      if Address.pageBase other = Address.pageBase address then
        change (table.entryAt address)
      else table.entryAt other := by
  rw [entryAt, get?_update]
  by_cases same : Address.pageBase other = Address.pageBase address
  · rw [if_pos (pageNumber_eq_iff.mpr same), if_pos same, entryAt]
    cases found : table.get? address with
    | some entry => rfl
    | none =>
        rw [found] at applies
        obtain ⟨⟨⟩⟩ | applies := applies
        exact applies.symm
  · rw [if_neg (fun equal => same (pageNumber_eq_iff.mp equal)), if_neg same]
    rfl

theorem entryAt_update_of_isPresent (change : Entry → Entry)
    (isPresent : (table.entryAt address).isPresent = true) (other : Nat) :
    (table.update address change).entryAt other =
      if Address.pageBase other = Address.pageBase address then
        change (table.entryAt address)
      else table.entryAt other := by
  apply entryAt_update
  left
  rw [get?_of_isPresent isPresent]
  rfl

theorem entryAt_addTable (missing : table.get? address = none)
    (other : Nat) :
    (table.addTable address).entryAt other = table.entryAt other := by
  rw [entryAt, get?_addTable]
  by_cases sameGroup : group other = group address
  · have alsoMissing : table.get? other = none := by
      simp only [get?, Option.map_eq_none_iff] at missing ⊢
      rw [sameGroup]
      exact missing
    rw [if_pos sameGroup, entryAt_of_get?_none alsoMissing]
    rfl
  · rw [if_neg sameGroup]
    rfl

theorem lookup_of_lt (inside : address < addressLimit) :
    table.lookup address = .ok (table.get? address) :=
  lookup_eq_ok_iff.mpr ⟨inside, rfl⟩

theorem lookup_of_le (outside : addressLimit ≤ address) :
    table.lookup address = .error (.walkBeyondLimit address) := by
  rw [lookup, checkAddress, if_neg (by omega)]
  rfl

/-- A walk that makes tables finds the entry of the page, or finds no room for
a table within its budget. -/
theorem walk_of_lt (inside : address < addressLimit) :
    (table.walk address true = .ok (none, table) ∧
        table.entryAt address = Entry.empty ∧ table.budget ≠ none) ∨
      ∃ after, table.walk address true =
          .ok (some (table.entryAt address), after) ∧
        after.get? address = some (table.entryAt address) ∧
          (∀ other, after.entryAt other = table.entryAt other) ∧
            after.budget = table.budget := by
  simp only [walk, checkAddress, if_pos inside]
  cases found : table.get? address with
  | some entry =>
      right
      exact ⟨table, by rw [entryAt_of_get? found]; rfl,
        by rw [entryAt_of_get? found, found], fun _ => rfl, rfl⟩
  | none =>
      have isEmpty := entryAt_of_get?_none found
      cases room : table.hasRoom with
      | false =>
          left
          refine ⟨rfl, isEmpty, fun unbudgeted => ?_⟩
          rw [hasRoom, unbudgeted] at room
          cases room
      | true =>
          right
          refine ⟨table.addTable address, by rw [isEmpty]; rfl, ?_,
            entryAt_addTable found, rfl⟩
          rw [get?_addTable, if_pos rfl, isEmpty]

theorem walk_of_le (outside : addressLimit ≤ address) (allocate : Bool) :
    table.walk address allocate = .error (.walkBeyondLimit address) := by
  rw [walk, checkAddress, if_neg (by omega)]
  rfl

theorem run_map_pageSize_eq (aligned : Address.pageBase page = page)
    (fits : page + pageSize < Word.limit) :
    (map page frame pageSize flags).run table =
      (mapPage page frame flags).run table := by
  have last : Address.pageBase (page + pageSize - 1) = page := by
    rw [Nat.add_sub_assoc (by decide)]
    exact Address.pageCeil_eq_self_iff.mpr
      (Address.pageBase_eq_self_iff.mp aligned)
  rw [map, if_neg (by decide), Action.liftM_eq_ofExcept, Word.add_of_lt fits,
    Action.run_bind_of_done (Action.run_ofExcept_ok _ _), last, aligned]
  dsimp only
  rw [Nat.sub_self, Nat.zero_div, mapRun]

/-- Mapping a page that is not in memory sets its entry, or fails for want of
a table within the budget and changes nothing. -/
theorem run_map_pageSize (frame : Nat) (flags : Flags)
    (aligned : Address.pageBase page = page)
    (inside : page < addressLimit)
    (unmapped : (table.entryAt page).isValid = false) :
    ((map page frame pageSize flags).run table =
          .failed .outOfMemory table ∧ table.budget ≠ none) ∨
      ∃ after, (map page frame pageSize flags).run table = .done () after ∧
        (∀ other, after.entryAt other =
          if Address.pageBase other = page then
            Entry.point frame { flags with valid := true }
          else table.entryAt other) ∧ after.budget = table.budget := by
  have fits : page + pageSize < Word.limit := by
    simp only [pageSize, addressLimit, Word.limit] at *
    omega
  rw [run_map_pageSize_eq aligned fits, mapPage]
  obtain ⟨refused, _, budget⟩ | ⟨walked, allowed, found, same, budget⟩ :=
    table.walk_of_lt inside
  · left
    rw [Action.run_bind_of_done (Action.run_step_of_ok refused)]
    exact ⟨rfl, budget⟩
  · right
    refine ⟨walked.write page (Entry.point frame { flags with valid := true }),
      ?_, fun other => ?_, budget⟩
    · rw [Action.run_bind_of_done (Action.run_step_of_ok allowed)]
      simp only [unmapped, Bool.false_eq_true, ↓reduceIte, Action.run_modify]
    · rw [entryAt_write found, aligned, same]

theorem run_map_pageSize_of_le (table : PageTable) (frame : Nat)
    (flags : Flags) (aligned : Address.pageBase page = page)
    (outside : addressLimit ≤ page) :
    ∃ cause, (map page frame pageSize flags).run table = .fatal cause := by
  by_cases fits : page + pageSize < Word.limit
  · refine ⟨.walkBeyondLimit page, ?_⟩
    rw [run_map_pageSize_eq aligned fits, mapPage, Action.run_bind_of_fatal
      (Action.run_step_of_error (walk_of_le outside true))]
  · refine ⟨.overflow, ?_⟩
    rw [map, if_neg (by decide), Action.liftM_eq_ofExcept, Word.add, Word.fit,
      if_neg fits, Action.run_bind_of_fatal (Action.run_ofExcept_error _ _)]

end PageTable

end DemandPaging
