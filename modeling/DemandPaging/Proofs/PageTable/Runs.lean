import DemandPaging.Proofs.PageTable.Tables

/-!
# What mapping a run of pages does

A run of pages is mapped page by page until the last one is, without a count of
what is left.  The loop ends all the same, and it ends where the first page is
in its way: one that is in memory, which is fatal, or one whose group has no
table and can be given none.  The pages before that one are mapped to
consecutive frames, and no other entry changes.  Which page it is depends on the
table at the start alone (`Clears`): the groups that have tables by the time a
page is reached are those that had one and those of the pages before it.
-/

namespace DemandPaging

namespace PageTable

variable {table now next after left : PageTable} {flags : Flags}
  {outcome : Outcome PageTable Unit}
  {address page frame size first last index count : Nat}

/-- How a turn of the loop ends. -/
inductive Turn where
  /-- It is the last one. -/
  | ends (outcome : Outcome PageTable Unit) (left : PageTable)
  /-- The loop goes on at a page and a frame. -/
  | goesOn (page frame : Nat) (table : PageTable)

/-- One turn of the loop that maps the pages up to `last`. -/
def turn (flags : Flags) (last page frame : Nat) (table : PageTable) : Turn :=
  match table.walk page true with
  | .error cause => .ends (.fatal cause) table
  | .ok (none, after) => .ends (.failed .outOfMemory after) after
  | .ok (some entry, walked) =>
    if entry.isValid then
      .ends (.fatal (.remapped page)) walked
    else
      let after :=
        walked.write page (Entry.point frame { flags with valid := true })
      if page = last then
        .ends (.done () after) after
      else
        match Word.add page pageSize, Word.add frame pageSize with
        | .ok nextPage, .ok nextFrame => .goesOn nextPage nextFrame after
        | .error cause, _ | .ok _, .error cause => .ends (.fatal cause) after

/-- The loop, with nothing to bound it: turn after turn, up to one that ends
it. -/
inductive Loops (flags : Flags) (last : Nat) :
    (page frame : Nat) → PageTable → Outcome PageTable Unit → PageTable →
      Prop where
  | ends {page frame : Nat} {table left : PageTable}
      {outcome : Outcome PageTable Unit}
      (here : turn flags last page frame table = .ends outcome left) :
      Loops flags last page frame table outcome left
  | goesOn {page frame nextPage nextFrame : Nat} {table next left : PageTable}
      {outcome : Outcome PageTable Unit}
      (here : turn flags last page frame table =
        .goesOn nextPage nextFrame next)
      (rest : Loops flags last nextPage nextFrame next outcome left) :
      Loops flags last page frame table outcome left

theorem Loops.unique {other : PageTable} {ending : Outcome PageTable Unit}
    (loops : Loops flags last page frame table outcome left)
    (again : Loops flags last page frame table ending other) :
    ending = outcome ∧ other = left := by
  induction loops with
  | ends here =>
      cases again with
      | ends there =>
          cases here.symm.trans there
          exact ⟨rfl, rfl⟩
      | goesOn there _ => cases here.symm.trans there
  | goesOn here _ ih =>
      cases again with
      | ends there => cases here.symm.trans there
      | goesOn there rest =>
          cases here.symm.trans there
          exact ih rest

/-- The groups that have tables once the first `count` pages from `first` on
have theirs. -/
def groupsAfter (table : PageTable) (first count : Nat) : Finset Nat :=
  table.groups ∪
    (Finset.range count).image fun index => group (first + index * pageSize)

/-- The page at `index` is not in memory, and it has a table or can be given one
once the pages before it have theirs. -/
structure Clears (table : PageTable) (first index : Nat) : Prop where
  admits : Admits table.budget (table.groupsAfter first index)
    (first + index * pageSize)
  unmapped : (table.entryAt (first + index * pageSize)).isValid = false

/-- The first `count` pages from `first` on are mapped to the frames from
`frame` on, and no other entry has changed. -/
structure Installs (table : PageTable) (first frame count : Nat)
    (flags : Flags) (after : PageTable) : Prop where
  budget : after.budget = table.budget
  groups : after.groups = table.groupsAfter first count
  mapped : ∀ index < count,
    after.get? (first + index * pageSize) =
      some (Entry.point (frame + index * pageSize) { flags with valid := true })
  others : ∀ address,
    (∀ index < count, Address.pageBase address ≠ first + index * pageSize) →
      after.entryAt address = table.entryAt address

theorem installs_nothing (table : PageTable) (first frame : Nat)
    (flags : Flags) : table.Installs first frame 0 flags table where
  budget := rfl
  groups := (Finset.union_empty _).symm
  mapped _ less := absurd less (Nat.not_lt_zero _)
  others _ _ := rfl

theorem groupsAfter_succ (table : PageTable) (first count : Nat) :
    table.groupsAfter first (count + 1) =
      insert (group (first + count * pageSize))
        (table.groupsAfter first count) := by
  rw [groupsAfter, Finset.range_add_one, Finset.image_insert,
    Finset.union_insert, groupsAfter]

theorem Installs.succ (installs : table.Installs first frame count flags now)
    (aligned : Address.pageBase first = first)
    (puts : now.Puts (first + count * pageSize)
      (Entry.point (frame + count * pageSize) { flags with valid := true })
      after) :
    table.Installs first frame (count + 1) flags after := by
  have base (index : Nat) : Address.pageBase (first + index * pageSize) =
      first + index * pageSize := Address.pageBase_add_mul aligned index
  have groups : after.groups = table.groupsAfter first (count + 1) := by
    rw [puts.groups, installs.groups, groupsAfter_succ]
  refine ⟨puts.budget.trans installs.budget, groups, ?_, ?_⟩
  · intro index less
    have isThere : group (first + index * pageSize) ∈ after.groups := by
      rw [groups, groupsAfter]
      exact Finset.mem_union_right _
        (Finset.mem_image_of_mem _ (Finset.mem_range.mpr less))
    rw [get?_eq, if_pos isThere, puts.entryAt, base, base]
    by_cases last : index = count
    · rw [if_pos (by rw [last]), last]
    · have earlier : index < count := by omega
      have different : first + index * pageSize ≠ first + count * pageSize := by
        simp only [pageSize]
        omega
      rw [if_neg different, entryAt_of_get? (installs.mapped index earlier)]
  · intro address elsewhere
    rw [puts.entryAt, base, if_neg (elsewhere count (Nat.lt_succ_self _))]
    exact installs.others address fun index less =>
      elsewhere index (Nat.lt_succ_of_lt less)

/-- The page that comes next has the entry that it had. -/
theorem Installs.entryAt_next
    (installs : table.Installs first frame count flags now)
    (aligned : Address.pageBase first = first) :
    now.entryAt (first + count * pageSize) =
      table.entryAt (first + count * pageSize) := by
  refine installs.others _ fun index less => ?_
  rw [Address.pageBase_add_mul aligned]
  simp only [pageSize]
  omega

/-- How mapping a run of `count` pages ends, and with which table. -/
inductive Ends (table : PageTable) (first frame count : Nat) (flags : Flags) :
    Outcome PageTable Unit → PageTable → Prop where
  /-- All pages are mapped. -/
  | done {left : PageTable} (clears : ∀ index < count, table.Clears first index)
      (installs : table.Installs first frame count flags left) :
      table.Ends first frame count flags (.done () left) left
  /-- A page has no table and can be given none. -/
  | refused {left : PageTable} {index : Nat} (inside : index < count)
      (clears : ∀ earlier < index, table.Clears first earlier)
      (refused : ¬Admits table.budget (table.groupsAfter first index)
        (first + index * pageSize))
      (installs : table.Installs first frame index flags left) :
      table.Ends first frame count flags (.failed .outOfMemory left) left
  /-- A page is in memory, and it stays as it is. -/
  | remapped {left : PageTable} {index : Nat} (inside : index < count)
      (clears : ∀ earlier < index, table.Clears first earlier)
      (isMapped :
        (table.entryAt (first + index * pageSize)).isValid = true)
      (installs : table.Installs first frame index flags left)
      (same : left.entryAt (first + index * pageSize) =
        table.entryAt (first + index * pageSize)) :
      table.Ends first frame count flags
        (.fatal (.remapped (first + index * pageSize))) left

theorem turn_of_not_admits (inside : page < addressLimit)
    (refused : ¬Admits table.budget table.groups page) :
    turn flags last page frame table =
      .ends (.failed .outOfMemory table) table := by
  rw [turn, walk_of_not_admits inside refused]

theorem turn_of_isValid (inside : page < addressLimit)
    (isMapped : (table.entryAt page).isValid = true) :
    turn flags last page frame table =
      .ends (.fatal (.remapped page)) table := by
  rw [turn, walk_of_isValid inside isMapped]
  simp only [isMapped, ↓reduceIte]

/-- A turn maps a page that is not in the way. -/
theorem exists_turn (last frame : Nat) (flags : Flags)
    (inside : page < addressLimit)
    (admits : Admits table.budget table.groups page)
    (unmapped : (table.entryAt page).isValid = false) :
    ∃ after, (mapPage page frame flags).run table = .done () after ∧
      table.Puts page (Entry.point frame { flags with valid := true }) after ∧
      turn flags page page frame table = .ends (.done () after) after ∧
      (page ≠ last → frame + pageSize < Word.limit →
        turn flags last page frame table =
          .goesOn (page + pageSize) (frame + pageSize) after) := by
  obtain ⟨walked, walks, budget, groups, same⟩ := walk_of_admits inside admits
  refine ⟨_, run_mapPage_of_walk frame flags walks unmapped,
    puts_write _ budget groups same, ?_, fun further fits => ?_⟩
  · rw [turn, walks]
    simp only [unmapped, Bool.false_eq_true, ↓reduceIte]
  · have pageFits : page + pageSize < Word.limit := by
      simp only [pageSize, addressLimit, Word.limit] at *
      omega
    rw [turn, walks, Word.add_of_lt pageFits, Word.add_of_lt fits]
    simp only [unmapped, Bool.false_eq_true, ↓reduceIte, if_neg further]

theorem run_mapRun_of_failed {error : PagingError}
    (ends : (mapPage page frame flags).run table = .failed error after)
    (further : Nat) :
    (mapRun flags page frame further).run table = .failed error after := by
  cases further with
  | zero => exact ends
  | succ further => rw [mapRun, Action.run_bind_of_failed ends]

theorem run_mapRun_of_fatal {cause : Fatal}
    (ends : (mapPage page frame flags).run table = .fatal cause)
    (further : Nat) :
    (mapRun flags page frame further).run table = .fatal cause := by
  cases further with
  | zero => exact ends
  | succ further => rw [mapRun, Action.run_bind_of_fatal ends]

theorem run_mapRun_succ
    (maps : (mapPage page frame flags).run table = .done () after)
    (pageFits : page + pageSize < Word.limit)
    (frameFits : frame + pageSize < Word.limit) (further : Nat) :
    (mapRun flags page frame (further + 1)).run table =
      (mapRun flags (page + pageSize) (frame + pageSize) further).run after := by
  rw [mapRun, Action.run_bind_of_done maps, Action.liftM_eq_ofExcept,
    Word.add_of_lt pageFits, Action.run_bind_of_done (Action.run_ofExcept_ok _ _),
    Action.liftM_eq_ofExcept, Word.add_of_lt frameFits,
    Action.run_bind_of_done (Action.run_ofExcept_ok _ _)]

section

variable (aligned : Address.pageBase first = first)
  (inside : first + index * pageSize < addressLimit)
  (installs : table.Installs first frame index flags now)
  (clears : ∀ earlier < index, table.Clears first earlier)
  (within : index < count)

include aligned inside installs clears within

/-- A page that is in the way ends the loop as it ends the run. -/
theorem ends_of_not_clears (blocked : ¬table.Clears first index)
    (further : Nat) :
    ∃ outcome,
      Loops flags last (first + index * pageSize) (frame + index * pageSize)
        now outcome now ∧
      (mapRun flags (first + index * pageSize) (frame + index * pageSize)
        further).run now = outcome ∧
      table.Ends first frame count flags outcome now := by
  have same := installs.entryAt_next aligned
  by_cases admits : Admits table.budget (table.groupsAfter first index)
      (first + index * pageSize)
  · have isMapped :
        (table.entryAt (first + index * pageSize)).isValid = true := by
      by_contra unmapped
      exact blocked ⟨admits, Bool.eq_false_iff.mpr unmapped⟩
    have isMappedNow := same ▸ isMapped
    exact ⟨_, .ends (turn_of_isValid inside isMappedNow),
      run_mapRun_of_fatal (run_mapPage_of_isValid _ _ inside isMappedNow) _,
      .remapped within clears isMapped installs same⟩
  · have refused := admits
    rw [← installs.budget, ← installs.groups] at refused
    exact ⟨_, .ends (turn_of_not_admits inside refused),
      run_mapRun_of_failed (run_mapPage_of_not_admits _ _ inside refused) _,
      .refused within clears admits installs⟩

omit clears within in
/-- A page that is not in the way is mapped, and the loop goes on behind it
unless it was the last one. -/
theorem exists_turn_of_clears (last : Nat)
    (free : table.Clears first index) :
    ∃ after,
      (mapPage (first + index * pageSize) (frame + index * pageSize) flags).run
        now = .done () after ∧
      table.Installs first frame (index + 1) flags after ∧
      turn flags (first + index * pageSize) (first + index * pageSize)
        (frame + index * pageSize) now = .ends (.done () after) after ∧
      (first + index * pageSize ≠ last →
        frame + index * pageSize + pageSize < Word.limit →
          turn flags last (first + index * pageSize)
            (frame + index * pageSize) now =
              .goesOn (first + index * pageSize + pageSize)
                (frame + index * pageSize + pageSize) after) := by
  have admits := free.admits
  have unmapped := free.unmapped
  rw [← installs.budget, ← installs.groups] at admits
  rw [← installs.entryAt_next aligned] at unmapped
  obtain ⟨after, maps, puts, ends, goesOn⟩ :=
    exists_turn last (frame + index * pageSize) flags inside admits unmapped
  exact ⟨after, maps, installs.succ aligned puts, ends, goesOn⟩

end

/-- From any page of the run on, the loop ends as the counted run does. -/
theorem loops_of_installs (aligned : Address.pageBase first = first)
    (inside : first + last * pageSize < addressLimit)
    (fits : frame + last * pageSize < Word.limit) {further : Nat}
    (counted : index + further = last)
    (installs : table.Installs first frame index flags now)
    (clears : ∀ earlier < index, table.Clears first earlier) :
    ∃ outcome left,
      Loops flags (first + last * pageSize) (first + index * pageSize)
        (frame + index * pageSize) now outcome left ∧
      (mapRun flags (first + index * pageSize) (frame + index * pageSize)
        further).run now = outcome ∧
      table.Ends first frame (last + 1) flags outcome left := by
  have below (start : Nat) {step : Nat} (le : step ≤ last) :
      start + step * pageSize ≤ start + last * pageSize :=
    Nat.add_le_add_left (Nat.mul_le_mul_right _ le) _
  induction further generalizing index now with
  | zero =>
      obtain rfl : index = last := counted
      by_cases free : table.Clears first index
      case neg =>
        obtain ⟨outcome, loops, runs, ends⟩ := ends_of_not_clears aligned inside
          installs clears (Nat.lt_succ_self _) free 0
        exact ⟨outcome, now, loops, runs, ends⟩
      obtain ⟨after, maps, mapped, atLast, _⟩ :=
        exists_turn_of_clears aligned inside installs 0 free
      exact ⟨_, after, .ends atLast, maps,
        .done (Nat.forall_lt_succ_right.mpr ⟨clears, free⟩) mapped⟩
  | succ further ih =>
      have isInside := (below first (by omega : index ≤ last)).trans_lt inside
      by_cases free : table.Clears first index
      case neg =>
        obtain ⟨outcome, loops, runs, ends⟩ := ends_of_not_clears aligned
          isInside installs clears (by omega : index < last + 1) free
          (further + 1)
        exact ⟨outcome, now, loops, runs, ends⟩
      have nextPage : first + (index + 1) * pageSize =
          first + index * pageSize + pageSize := by
        rw [Nat.succ_mul, Nat.add_assoc]
      have nextFrame : frame + (index + 1) * pageSize =
          frame + index * pageSize + pageSize := by
        rw [Nat.succ_mul, Nat.add_assoc]
      have pageFits := (below first (by omega : index + 1 ≤ last)).trans_lt
        (inside.trans (by decide : addressLimit < Word.limit))
      have frameFits := (below frame (by omega : index + 1 ≤ last)).trans_lt fits
      rw [nextPage] at pageFits
      rw [nextFrame] at frameFits
      have notLast : first + index * pageSize ≠ first + last * pageSize := by
        simp only [pageSize]
        omega
      obtain ⟨after, maps, mapped, _, goesOn⟩ :=
        exists_turn_of_clears aligned isInside installs _ free
      obtain ⟨outcome, left, loops, runs, ends⟩ := ih (by omega) mapped
        (Nat.forall_lt_succ_right.mpr ⟨clears, free⟩)
      rw [nextPage, nextFrame] at loops runs
      exact ⟨outcome, left, .goesOn (goesOn notLast frameFits) loops,
        (run_mapRun_succ maps pageFits frameFits further).trans runs, ends⟩

/-- How many pages hold one of the `size` bytes from `address` on. -/
def pagesOf (address size : Nat) : Nat :=
  (Address.pageBase (address + size - 1) - Address.pageBase address) / pageSize +
    1

theorem lastPage_eq (address : Nat) (positive : 0 < size) :
    Address.pageBase address + (pagesOf address size - 1) * pageSize =
      Address.pageBase (address + size - 1) := by
  simp only [pagesOf, Address.pageBase, pageSize]
  omega

/-- Mapping a run of pages comes to an end, and maps exactly the pages before
the first one that is in its way. -/
theorem map_ends (table : PageTable) (flags : Flags) (positive : 0 < size)
    (inside : address + size ≤ addressLimit)
    (fits : frame + pageSize * pagesOf address size < Word.limit) :
    ∃ left,
      (∀ outcome now,
        Loops flags (Address.pageBase (address + size - 1))
          (Address.pageBase address) frame table outcome now ↔
            outcome = (map address frame size flags).run table ∧ now = left) ∧
      table.Ends (Address.pageBase address) frame (pagesOf address size) flags
        ((map address frame size flags).run table) left := by
  have lastPage := lastPage_eq address positive
  have lastInside : Address.pageBase (address + size - 1) < addressLimit :=
    (Address.pageBase_le _).trans_lt (by omega)
  have lastFits :
      frame + (pagesOf address size - 1) * pageSize < Word.limit := by
    refine Nat.lt_of_le_of_lt (Nat.add_le_add_left ?_ _) fits
    rw [Nat.mul_comm]
    exact Nat.mul_le_mul_left _ (Nat.sub_le _ _)
  have stops : address + size < Word.limit :=
    inside.trans_lt (by decide : addressLimit < Word.limit)
  have runs : (map address frame size flags).run table =
      (mapRun flags (Address.pageBase address) frame
        (pagesOf address size - 1)).run table := by
    rw [map, if_neg positive.ne', Action.liftM_eq_ofExcept,
      Word.add_of_lt stops, Action.run_bind_of_done (Action.run_ofExcept_ok _ _)]
    rfl
  obtain ⟨outcome, left, loops, counted, ends⟩ := loops_of_installs
    (Address.pageBase_pageBase address) (by rw [lastPage]; exact lastInside)
    lastFits (Nat.zero_add _)
    (table.installs_nothing (Address.pageBase address) frame flags)
    fun _ less => absurd less (Nat.not_lt_zero _)
  rw [Nat.zero_mul, Nat.add_zero, Nat.add_zero, lastPage] at loops
  rw [Nat.zero_mul, Nat.add_zero, Nat.add_zero, ← runs] at counted
  subst counted
  refine ⟨left, fun outcome now => ⟨loops.unique, ?_⟩, ends⟩
  rintro ⟨rfl, rfl⟩
  exact loops

/-- A run of two pages begins in the last page of a group, and the one table
that there may be is not that of the second page. -/
theorem map_ends_across_groups :
    ∃ left,
      (map 0x1ff001 0x80000000 0x1000 { read := true }).run (new (some 1)) =
        .failed .outOfMemory left ∧
      (new (some 1)).Ends 0x1ff000 0x80000000 2 { read := true }
        (.failed .outOfMemory left) left := by
  have positive : 0 < 0x1000 := by decide
  have inside : 0x1ff001 + 0x1000 ≤ addressLimit := by decide
  have fits : 0x80000000 + pageSize * pagesOf 0x1ff001 0x1000 < Word.limit := by
    decide
  obtain ⟨left, -, ends⟩ :=
    map_ends (new (some 1)) { read := true } positive inside fits
  have blocked : ¬(new (some 1)).Clears 0x1ff000 1 := fun clears =>
    absurd clears.admits (by decide)
  have unmapped (address : Nat) :
      ((new (some 1)).entryAt address).isValid = false := by
    rw [entryAt_of_get?_none (get?_new _ _), Entry.isValid_empty]
  refine ⟨left, ?_⟩
  generalize ran : (map 0x1ff001 0x80000000 0x1000 { read := true }).run
    (new (some 1)) = outcome at ends
  cases ends with
  | done clears _ => exact absurd (clears 1 (by decide)) blocked
  | refused inside clears refused installs =>
      exact ⟨rfl, .refused inside clears refused installs⟩
  | remapped _ _ isMapped _ _ =>
      rw [unmapped] at isMapped
      cases isMapped

end PageTable

end DemandPaging
