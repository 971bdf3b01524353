import DemandPaging.Action.Meets
import DemandPaging.Proofs.PageTable.Tables

/-!
# What the past of a page table tells of it

A page table starts without entries and is asked for one thing after the other,
up to the first that is fatal.  The groups that were opened and the entries that
were written since it was last destroyed, the latest first, are its past, and
the past is kept here without a look at the table: an operation tells from the
past alone what the table answers, and adds to it what the table does
(`Operation.log`).  The table agrees with its past, so it is a map from the
numbers of pages to entries (`isMap_of_runAll`).
-/

namespace DemandPaging

namespace PageTable

/-- What may be asked of a page table. -/
inductive Operation where
  /-- A page is walked to, and its entry is overwritten if there is one. -/
  | walk (address : Nat) (allocate : Bool) (change : Entry → Entry)
  | map (address frame size : Nat) (flags : Flags)
  | touch (address : Nat) (isWrite : Bool)
  | destroy

/-- What is answered. -/
inductive Answer where
  /-- The entry that was walked to. -/
  | entry (found : Option Entry)
  | outOfMemory
  | done
  deriving DecidableEq

/-- What happened to the entries. -/
inductive Event where
  /-- The group of a page was given a table unless it had one. -/
  | opened (address : Nat)
  | written (address : Nat) (entry : Entry)
  | destroyed

variable {table after : PageTable} {allowance : Option Nat}
  {past now : List Event} {address other : Nat} {entry : Entry}
  {answer : Answer} {operation : Operation}

/-- The groups that were opened since the table was destroyed last. -/
def opened : (past : List Event) → Finset Nat
  | [] => ∅
  | .opened address :: past => insert (group address) (opened past)
  | .written _ _ :: past => opened past
  | .destroyed :: _ => ∅

/-- The entry that was written last for the page with a number since the table
was destroyed, the empty one if none was. -/
def lastWritten : (past : List Event) → (number : Nat) → Entry
  | [], _ => Entry.empty
  | .opened _ :: past, number => lastWritten past number
  | .written address entry :: past, number =>
    if number = Address.pageNumber address then entry
    else lastWritten past number
  | .destroyed :: _, _ => Entry.empty

/-- What mapping a page and `further` ones after it answers, and the past then.
The pages before one that is not admitted are mapped. -/
def logRun (allowance : Option Nat) (flags : Flags) :
    (page frame : Nat) → List Event → (further : Nat) → Answer × List Event
  | page, frame, past, further =>
    if Admits allowance (opened past) page then
      let now := .written page (Entry.point frame { flags with valid := true })
        :: .opened page :: past
      match further with
      | 0 => (.done, now)
      | further + 1 =>
        logRun allowance flags (page + pageSize) (frame + pageSize) now further
    else
      (.outOfMemory, past)

namespace Operation

/-- What the table does, unless the operation is fatal. -/
def run (table : PageTable) : Operation → Except Fatal (Answer × PageTable)
  | walk address allocate change => do
    match ← table.walk address allocate with
    | (some entry, walked) =>
      return (.entry (some entry), walked.write address (change entry))
    | (none, walked) => return (.entry none, walked)
  | map address frame size flags =>
    match (PageTable.map address frame size flags).run table with
    | .done () after => .ok (.done, after)
    | .failed _ after => .ok (.outOfMemory, after)
    | .fatal cause => .error cause
  | touch address isWrite => do
    return (.done, ← table.touch address isWrite)
  | destroy => do
    return (.done, ← table.destroy)

/-- What the past tells of the answer, and the past after the operation. -/
def log (allowance : Option Nat) (past : List Event) :
    Operation → Answer × List Event
  | walk address allocate change =>
    let entry := lastWritten past (Address.pageNumber address)
    if allocate then
      if Admits allowance (opened past) address then
        (.entry (some entry),
          .written address (change entry) :: .opened address :: past)
      else
        (.entry none, past)
    else if group address ∈ opened past then
      (.entry (some entry), .written address (change entry) :: past)
    else
      (.entry none, past)
  | map address frame size flags =>
    let first := Address.pageBase address
    let last := Address.pageBase (address + size - 1)
    logRun allowance flags first frame past ((last - first) / pageSize)
  | touch address isWrite =>
    let entry := lastWritten past (Address.pageNumber address)
    if entry.isValid then
      (.done, .written address (entry.insert (referenceFlags isWrite)) :: past)
    else
      (.done, past)
  | destroy => (.done, .destroyed :: past)

end Operation

/-- The answers of a table that is asked for one thing after the other, and what
it is then. -/
def runAll (table : PageTable) :
    List Operation → Except Fatal (List Answer × PageTable)
  | [] => return ([], table)
  | operation :: operations => do
    let (answer, next) ← operation.run table
    let (answers, after) ← runAll next operations
    return (answer :: answers, after)

/-- The answers that the past tells, and the past after all of them. -/
def logAll (allowance : Option Nat) (past : List Event) :
    List Operation → List Answer × List Event
  | [] => ([], past)
  | operation :: operations =>
    let (answer, now) := operation.log allowance past
    let (answers, afterwards) := logAll allowance now operations
    (answer :: answers, afterwards)

theorem Admits.card_insert_le {groups : Finset Nat}
    (admits : Admits allowance groups address)
    (few : ∀ most ∈ allowance, groups.card ≤ most) :
    ∀ most ∈ allowance, (insert (group address) groups).card ≤ most := by
  intro most isMost
  rcases admits with isThere | room
  · rw [Finset.insert_eq_of_mem isThere]
    exact few most isMost
  · exact (Finset.card_insert_le _ _).trans (room most isMost)

/-- The table has tables for the groups that its past tells, and in them the
entries that its past tells. -/
structure Remembers (allowance : Option Nat) (past : List Event)
    (table : PageTable) : Prop where
  budget : table.budget = allowance
  groups : table.groups = opened past
  entryAt : ∀ address,
    table.entryAt address = lastWritten past (Address.pageNumber address)
  card_le : ∀ most ∈ allowance, (opened past).card ≤ most

theorem remembers_new (allowance : Option Nat) :
    Remembers allowance [] (new allowance) where
  budget := rfl
  groups := groups_new allowance
  entryAt address := entryAt_of_get?_none (get?_new allowance address)
  card_le _ _ := Nat.zero_le _

namespace Remembers

variable (remembers : Remembers allowance past table)
include remembers

theorem admits_iff : Admits table.budget table.groups address ↔
    Admits allowance (opened past) address := by
  rw [remembers.budget, remembers.groups]

theorem get?_eq (address : Nat) : table.get? address =
    if group address ∈ opened past then
      some (lastWritten past (Address.pageNumber address))
    else none := by
  rw [PageTable.get?_eq, remembers.groups, remembers.entryAt]

theorem after_written (isOpen : group address ∈ opened past)
    (puts : table.Puts address entry after) :
    Remembers allowance (.written address entry :: past) after where
  budget := puts.budget.trans remembers.budget
  groups := by
    rw [puts.groups, remembers.groups, opened, Finset.insert_eq_of_mem isOpen]
  entryAt other := by
    rw [puts.entryAt, lastWritten, remembers.entryAt]
    simp only [pageNumber_eq_iff]
  card_le := remembers.card_le

/-- An entry is written for a page whose group is opened for that. -/
theorem after_opened (admits : Admits allowance (opened past) address)
    (puts : table.Puts address entry after) :
    Remembers allowance (.written address entry :: .opened address :: past)
      after where
  budget := puts.budget.trans remembers.budget
  groups := by rw [puts.groups, remembers.groups, opened, opened]
  entryAt other := by
    rw [puts.entryAt, lastWritten, lastWritten, remembers.entryAt]
    simp only [pageNumber_eq_iff]
  card_le := admits.card_insert_le remembers.card_le

theorem after_write (isOpen : group address ∈ opened past) (entry : Entry) :
    Remembers allowance (.written address entry :: past)
      (table.write address entry) := by
  refine remembers.after_written isOpen (puts_write entry rfl ?_ fun _ => rfl)
  rw [remembers.groups, Finset.insert_eq_of_mem isOpen]

/-- A walk finds what the past tells. -/
theorem log_walk {allocate : Bool} {change : Entry → Entry}
    (ran : (Operation.walk address allocate change).run table =
      .ok (answer, after)) :
    ∃ now, (Operation.walk address allocate change).log allowance past =
        (answer, now) ∧ Remembers allowance now after := by
  have same := remembers.entryAt address
  obtain ⟨⟨found, walked⟩, walks, rest⟩ := bind_eq_ok_iff.mp ran
  by_cases inside : address < addressLimit
  case neg =>
    rw [walk_of_le (Nat.le_of_not_lt inside)] at walks
    cases walks
  cases allocate with
  | true =>
      by_cases admits : Admits allowance (opened past) address
      · obtain ⟨_, allowed, budget, groups, unchanged⟩ :=
          walk_of_admits inside (remembers.admits_iff.mpr admits)
        cases walks.symm.trans allowed
        cases rest
        rw [same]
        exact ⟨_, by rw [Operation.log, if_pos rfl, if_pos admits],
          remembers.after_opened admits (puts_write _ budget groups unchanged)⟩
      · have refused :=
          walk_of_not_admits inside (mt remembers.admits_iff.mp admits)
        cases walks.symm.trans refused
        cases rest
        exact ⟨_, by rw [Operation.log, if_pos rfl, if_neg admits], remembers⟩
  | false =>
      rw [walk_false inside, remembers.get?_eq] at walks
      by_cases isOpen : group address ∈ opened past
      · rw [if_pos isOpen] at walks
        cases walks
        cases rest
        exact ⟨_, by rw [Operation.log, if_neg Bool.false_ne_true,
          if_pos isOpen], remembers.after_write isOpen _⟩
      · rw [if_neg isOpen] at walks
        cases walks
        cases rest
        exact ⟨_, by rw [Operation.log, if_neg Bool.false_ne_true,
          if_neg isOpen], remembers⟩

/-- A page is mapped or refused as the past tells. -/
theorem meets_mapPage (page frame : Nat) (flags : Flags) :
    ((mapPage page frame flags).run table).Meets (fun _ => True)
      (fun _ after => Admits allowance (opened past) page ∧
        Remembers allowance
          (.written page (Entry.point frame { flags with valid := true }) ::
            .opened page :: past) after)
      fun _ after => ¬Admits allowance (opened past) page ∧ after = table := by
  by_cases inside : page < addressLimit
  case neg =>
    rw [mapPage, Action.run_bind_of_fatal (Action.run_step_of_error
      (walk_of_le (Nat.le_of_not_lt inside) true))]
    trivial
  by_cases admits : Admits allowance (opened past) page
  case neg =>
    rw [run_mapPage_of_not_admits frame flags inside
      (mt remembers.admits_iff.mp admits)]
    exact ⟨admits, rfl⟩
  cases isMapped : (table.entryAt page).isValid with
  | true =>
      rw [run_mapPage_of_isValid frame flags inside isMapped]
      trivial
  | false =>
      obtain ⟨walked, walks, budget, groups, same⟩ :=
        walk_of_admits inside (remembers.admits_iff.mpr admits)
      rw [run_mapPage_of_walk frame flags walks isMapped]
      exact ⟨admits,
        remembers.after_opened admits (puts_write _ budget groups same)⟩

omit remembers in
theorem meets_add (first second : Nat) {failed : PagingError → PageTable → Prop} :
    ((liftM (Word.add first second) : Action PageTable Nat).run table).Meets
      (fun _ => True) (fun sum after => sum = first + second ∧ after = table)
      failed := by
  rw [Action.liftM_eq_ofExcept, Word.add]
  cases fitted : Word.fit (first + second) with
  | ok sum => exact ⟨(Word.fit_eq_ok_iff.mp fitted).2, rfl⟩
  | error cause => trivial

omit remembers in
/-- A run of pages is mapped as far as the past tells. -/
theorem meets_mapRun (flags : Flags) (page frame further : Nat)
    (remembers : Remembers allowance past table) :
    ((mapRun flags page frame further).run table).Meets (fun _ => True)
      (fun _ after => ∃ now,
        logRun allowance flags page frame past further = (.done, now) ∧
          Remembers allowance now after)
      fun _ after => ∃ now,
        logRun allowance flags page frame past further = (.outOfMemory, now) ∧
          Remembers allowance now after := by
  induction further generalizing page frame past table with
  | zero =>
      have maps := remembers.meets_mapPage page frame flags
      rw [mapRun]
      refine maps.mono ?_ ?_
      · rintro - after ⟨admits, after_remembers⟩
        exact ⟨_, by rw [logRun, if_pos admits], after_remembers⟩
      · rintro - after ⟨refused, rfl⟩
        exact ⟨_, by rw [logRun, if_neg refused], remembers⟩
  | succ further ih =>
      have maps := remembers.meets_mapPage page frame flags
      rw [mapRun]
      refine Action.meets_bind (maps.mono_failed ?_) ?_
      · rintro - after ⟨refused, rfl⟩
        exact ⟨_, by rw [logRun, if_neg refused], remembers⟩
      · rintro - after ⟨admits, after_remembers⟩
        rw [logRun, if_pos admits]
        refine Action.meets_bind (meets_add page pageSize) ?_
        rintro _ _ ⟨rfl, rfl⟩
        refine Action.meets_bind (meets_add frame pageSize) ?_
        rintro _ _ ⟨rfl, rfl⟩
        exact ih (page + pageSize) (frame + pageSize) after_remembers

theorem log_map {frame size : Nat} {flags : Flags}
    (ran : (Operation.map address frame size flags).run table =
      .ok (answer, after)) :
    ∃ now, (Operation.map address frame size flags).log allowance past =
        (answer, now) ∧ Remembers allowance now after := by
  have maps : ((map address frame size flags).run table).Meets (fun _ => True)
      (fun _ after => ∃ now,
        (Operation.map address frame size flags).log allowance past =
          (.done, now) ∧ Remembers allowance now after)
      fun _ after => ∃ now,
        (Operation.map address frame size flags).log allowance past =
          (.outOfMemory, now) ∧ Remembers allowance now after := by
    simp only [Operation.log]
    rw [map]
    split
    · trivial
    · refine Action.meets_bind (meets_add address size) ?_
      rintro _ _ ⟨rfl, rfl⟩
      exact meets_mapRun flags _ frame _ remembers
  rw [Operation.run] at ran
  cases ends : (map address frame size flags).run table with
  | done result left =>
      rw [ends] at ran maps
      cases ran
      exact maps
  | failed error left =>
      rw [ends] at ran maps
      cases ran
      exact maps
  | fatal cause =>
      rw [ends] at ran
      cases ran

theorem isValid_of_not_mem (isShut : group address ∉ opened past) :
    (lastWritten past (Address.pageNumber address)).isValid = false := by
  rw [← remembers.entryAt, entryAt_of_get?_none, Entry.isValid_empty]
  rw [remembers.get?_eq, if_neg isShut]

theorem after_write_self (isOpen : group address ∈ opened past) :
    Remembers allowance past (table.write address
      (lastWritten past (Address.pageNumber address))) where
  budget := remembers.budget
  groups := (groups_write _ _ _).trans remembers.groups
  entryAt other := by
    have found := remembers.get?_eq address
    rw [if_pos isOpen] at found
    rw [entryAt_write found, remembers.entryAt]
    split
    · rename_i same
      rw [pageNumber_eq_iff.mpr same]
    · rfl
  card_le := remembers.card_le

theorem log_touch {isWrite : Bool}
    (ran : (Operation.touch address isWrite).run table = .ok (answer, after)) :
    ∃ now, (Operation.touch address isWrite).log allowance past =
        (answer, now) ∧ Remembers allowance now after := by
  obtain ⟨touched, touches, ⟨⟩⟩ := bind_eq_ok_iff.mp ran
  obtain ⟨_, _, ⟨⟩⟩ := bind_eq_ok_iff.mp touches
  rw [Operation.log, update, remembers.get?_eq]
  by_cases isOpen : group address ∈ opened past
  · simp only [if_pos isOpen]
    cases isMapped :
        (lastWritten past (Address.pageNumber address)).isValid with
    | true => exact ⟨_, rfl, remembers.after_write isOpen _⟩
    | false => exact ⟨_, rfl, remembers.after_write_self isOpen⟩
  · simp only [if_neg isOpen, remembers.isValid_of_not_mem isOpen]
    exact ⟨_, rfl, remembers⟩

theorem log_destroy
    (ran : Operation.destroy.run table = .ok (answer, after)) :
    ∃ now, Operation.destroy.log allowance past = (answer, now) ∧
      Remembers allowance now after := by
  obtain ⟨_, destroyed, ⟨⟩⟩ := bind_eq_ok_iff.mp ran
  obtain ⟨_, rfl⟩ := destroy_eq_ok_iff.mp destroyed
  rw [remembers.budget]
  exact ⟨_, rfl, { remembers_new allowance with }⟩

theorem log_of_run (ran : operation.run table = .ok (answer, after)) :
    ∃ now, operation.log allowance past = (answer, now) ∧
      Remembers allowance now after := by
  cases operation with
  | walk _ _ _ => exact remembers.log_walk ran
  | map _ _ _ _ => exact remembers.log_map ran
  | touch _ _ => exact remembers.log_touch ran
  | destroy => exact remembers.log_destroy ran

omit remembers in
/-- A table that agreed with its past does so after any run. -/
theorem logAll_of_runAll {operations : List Operation} {answers : List Answer}
    (remembers : Remembers allowance past table)
    (ran : runAll table operations = .ok (answers, after)) :
    (logAll allowance past operations).1 = answers ∧
      Remembers allowance (logAll allowance past operations).2 after := by
  induction operations generalizing past table answers with
  | nil =>
      cases ran
      exact ⟨rfl, remembers⟩
  | cons operation operations ih =>
      simp only [runAll, bind_eq_ok_iff, Prod.exists] at ran
      obtain ⟨answer, next, first, further, last, rest, ⟨⟩⟩ := ran
      obtain ⟨now, logged, next_remembers⟩ := remembers.log_of_run first
      obtain ⟨same, after_remembers⟩ := ih next_remembers rest
      rw [logAll, logged]
      exact ⟨congrArg (answer :: ·) same, after_remembers⟩

end Remembers

/-- The table is a map from the numbers of pages to entries: it has those that
its past tells, in as many tables as its past tells. -/
structure IsMap (table : PageTable) (allowance : Option Nat)
    (past : List Event) : Prop where
  /-- An address has the entry that was written last for its page, if a page of
  its group was walked to with the leave to make tables. -/
  lookup_eq : ∀ address < addressLimit, table.lookup address = .ok (
    if group address ∈ opened past then
      some (lastWritten past (Address.pageNumber address))
    else none)
  lookup_congr : ∀ address < addressLimit, ∀ other,
    Address.pageNumber other = Address.pageNumber address →
      table.lookup other = table.lookup address
  lookup_write : ∀ address other entry,
    Address.pageNumber other ≠ Address.pageNumber address →
      (table.write address entry).lookup other = table.lookup other
  /-- A walk that makes no table changes nothing. -/
  walk_false : ∀ address < addressLimit,
    table.walk address false = .ok (table.get? address, table)
  /-- A walk that is refused changes nothing. -/
  walk_refused : ∀ address < addressLimit,
    ¬Admits allowance (opened past) address →
      table.walk address true = .ok (none, table)
  tableCount_eq : table.tableCount = (opened past).card
  tableCount_le : ∀ most ∈ allowance, table.tableCount ≤ most
  pairwise_leaves : table.leaves.Pairwise fun first second => first.1 < second.1
  mem_leaves_iff : ∀ page entry, (page, entry) ∈ table.leaves ↔
    Address.isPageAligned page = true ∧
      lastWritten past (Address.pageNumber page) = entry ∧
        entry.isPresent = true
  destroy_fails_iff : (∃ cause, table.destroy = .error cause) ↔
    ∃ number, (lastWritten past number).isPresent = true
  destroy_eq_ok_iff : ∀ after, table.destroy = .ok after ↔
    (∀ number, (lastWritten past number).isPresent = false) ∧
      after = new allowance

namespace Remembers

variable (remembers : Remembers allowance past table)
include remembers

theorem mem_leaves_iff {page : Nat} : (page, entry) ∈ table.leaves ↔
    Address.isPageAligned page = true ∧
      lastWritten past (Address.pageNumber page) = entry ∧
        entry.isPresent = true := by
  rw [mem_leaves_iff_entryAt, Address.pageBase_eq_self_iff, remembers.entryAt]

theorem leaves_eq_nil_iff : table.leaves = [] ↔
    ∀ number, (lastWritten past number).isPresent = false := by
  rw [List.eq_nil_iff_forall_not_mem]
  constructor
  · intro noLeaf number
    have ofPage : Address.pageNumber (number * pageSize) = number :=
      Nat.mul_div_cancel _ (by decide)
    rw [← Bool.not_eq_true]
    intro isPresent
    refine noLeaf (number * pageSize, lastWritten past number)
      (remembers.mem_leaves_iff.mpr ⟨?_, by rw [ofPage], isPresent⟩)
    rw [Address.isPageAligned_iff, Nat.mul_mod_left]
  · rintro absent ⟨page, entry⟩ leaf
    obtain ⟨_, rfl, isPresent⟩ := remembers.mem_leaves_iff.mp leaf
    rw [absent] at isPresent
    cases isPresent

theorem destroy_eq_ok_iff : table.destroy = .ok after ↔
    (∀ number, (lastWritten past number).isPresent = false) ∧
      after = new allowance := by
  rw [PageTable.destroy_eq_ok_iff, remembers.leaves_eq_nil_iff,
    remembers.budget]

theorem destroy_fails_iff : (∃ cause, table.destroy = .error cause) ↔
    ∃ number, (lastWritten past number).isPresent = true := by
  rw [← not_iff_not, not_exists, not_exists]
  simp only [Bool.not_eq_true]
  constructor
  · intro succeeds
    cases destroys : table.destroy with
    | ok after => exact (remembers.destroy_eq_ok_iff.mp destroys).1
    | error cause => exact absurd destroys (succeeds cause)
  · intro absent cause fails
    rw [remembers.destroy_eq_ok_iff.mpr ⟨absent, rfl⟩] at fails
    cases fails

theorem isMap : table.IsMap allowance past where
  lookup_eq address inside := by rw [lookup_of_lt inside, remembers.get?_eq]
  lookup_congr address inside other same := by
    have otherInside : other < addressLimit := by
      simp only [Address.pageNumber, addressLimit, pageSize] at *
      omega
    rw [lookup_of_lt inside, lookup_of_lt otherInside,
      table.get?_eq_of_pageNumber_eq same]
  lookup_write address other entry different := by
    rw [lookup, lookup, get?_write, if_neg different]
  walk_false address inside := PageTable.walk_false inside
  walk_refused address inside refused :=
    walk_of_not_admits inside (mt remembers.admits_iff.mp refused)
  tableCount_eq := by rw [← card_groups, remembers.groups]
  tableCount_le most isMost := by
    rw [← card_groups, remembers.groups]
    exact remembers.card_le most isMost
  pairwise_leaves := table.pairwise_leaves
  mem_leaves_iff page entry := remembers.mem_leaves_iff
  destroy_fails_iff := remembers.destroy_fails_iff
  destroy_eq_ok_iff after := remembers.destroy_eq_ok_iff

end Remembers

/-- Whatever a new table is asked for, it answers as its past tells, and is a
map that its past tells. -/
theorem isMap_of_runAll {operations : List Operation} {answers : List Answer}
    (ran : runAll (new allowance) operations = .ok (answers, table)) :
    (logAll allowance [] operations).1 = answers ∧
      table.IsMap allowance (logAll allowance [] operations).2 := by
  obtain ⟨same, remembers⟩ :=
    Remembers.logAll_of_runAll (remembers_new allowance) ran
  exact ⟨same, remembers.isMap⟩

/-- With one table at most, a page is put in swap, a page of another group is
refused, and of two pages only the first is mapped. -/
theorem isMap_of_runAll_one_table :
    ∃ table past, runAll (new (some 1))
        [.walk 0x1fe000 true fun _ => Entry.pagedOut { read := true },
          .walk 0x200000 true id, .map 0x1ff001 0x80000000 0x1000 {},
          .touch 0x1ff123 true] =
        .ok ([.entry (some Entry.empty), .entry none, .outOfMemory, .done],
          table) ∧
      table.IsMap (some 1) past := by
  have runs : ((runAll (new (some 1))
      [.walk 0x1fe000 true fun _ => Entry.pagedOut { read := true },
        .walk 0x200000 true id, .map 0x1ff001 0x80000000 0x1000 {},
        .touch 0x1ff123 true]).map Prod.fst).toOption =
      some [.entry (some Entry.empty), .entry none, .outOfMemory, .done] := by
    decide +kernel
  cases ran : runAll (new (some 1))
      [.walk 0x1fe000 true fun _ => Entry.pagedOut { read := true },
        .walk 0x200000 true id, .map 0x1ff001 0x80000000 0x1000 {},
        .touch 0x1ff123 true] with
  | error cause =>
      rw [ran] at runs
      cases runs
  | ok result =>
      obtain ⟨answers, table⟩ := result
      rw [ran] at runs
      cases runs
      exact ⟨table, _, rfl, (isMap_of_runAll ran).2⟩

end PageTable

end DemandPaging
