import DemandPaging.Proofs.Effects.Chances
import DemandPaging.Proofs.Replacement.Lineup
import Mathlib.Data.List.TakeWhile

/-!
# The search for a page that was not referenced

The second-chance policy looks at the pages in memory in the order in which
they stand in line.  A page that was not referenced leaves; one that was loses
its mark and goes to the end of the line, and the search goes on there.

Nothing in that bounds the number of looks.  It is bounded all the same: a page
at the end of the line has no mark, so the search ends at the first page without
one, or at the head of the line once every page was spared.  What it leaves is
known to the last bit (`Waits.searches`), and the choice of the policy is that
search (`select_scfifo_of_mapped`).
-/

namespace DemandPaging

variable {ledger newLedger : Ledger} {table newTable : PageTable}
  {victim : Victim} {front page : ResidentPage} {entry : Entry}
  {pages behind spared rest : List ResidentPage} {handle : Nat}

namespace Policy

/-- The search with nothing to bound it.  The page at the head of the line
leaves if it has no mark.  If it has one it loses it and is stamped anew, and
the search goes on. -/
inductive Searches :
    Ledger → PageTable → Victim → Ledger → PageTable → Prop where
  | takes {ledger : Ledger} {table : PageTable} {front : ResidentPage}
      {entry : Entry} (least : scfifo.least ledger = .ok front)
      (found : queuedEntry table front.address = .ok entry)
      (unmarked : entry.flags.accessed = false) :
      Searches ledger table { handle := front.handle } ledger table
  | spares {ledger clocked requeued newLedger : Ledger}
      {table newTable : PageTable} {front : ResidentPage} {entry : Entry}
      {now : Nat} {victim : Victim} (least : scfifo.least ledger = .ok front)
      (found : queuedEntry table front.address = .ok entry)
      (marked : entry.flags.accessed = true)
      (advanced : ledger.advanceClock = .ok (now, clocked))
      (queues : clocked.setRecency front.handle now = .ok requeued)
      (rest : Searches requeued
        (table.write front.address (entry.remove accessedFlag))
        victim newLedger newTable) :
      Searches ledger table
        { victim with spared := front.address :: victim.spared }
        newLedger newTable

/-- A bounded search that may spare as many pages as the unbounded one does
comes to the same. -/
theorem Searches.sweep
    (searches : Searches ledger table victim newLedger newTable)
    {chances : Nat} (enough : victim.spared.length ≤ chances) :
    sweep chances ledger table = .ok (victim, newLedger, newTable) := by
  induction searches generalizing chances with
  | takes least found unmarked =>
      cases chances with
      | zero => simp [Policy.sweep, least, found, bind, Except.bind, pure,
          Except.pure]
      | succ chances => simp [Policy.sweep, least, found, unmarked, bind,
          Except.bind, pure, Except.pure]
  | spares least found marked advanced queues _ ih =>
      cases chances with
      | zero => cases enough
      | succ chances =>
          have further := ih (Nat.le_of_succ_le_succ enough)
          simp [Policy.sweep, least, found, marked, advanced, queues, further,
            bind, Except.bind, pure, Except.pure]

end Policy

namespace PageTable

/-- Is the page that holds `address` marked as referenced? -/
def isReferenced (table : PageTable) (address : Nat) : Bool :=
  (table.entryAt address).flags.accessed

theorem isReferenced_of_get? {address : Nat}
    (found : table.get? address = some entry) :
    table.isReferenced address = entry.flags.accessed :=
  congrArg (fun entry : Entry => entry.flags.accessed) (entryAt_of_get? found)

/-- A mark that is taken off is gone at its page, and nowhere else. -/
theorem isReferenced_write_remove {address : Nat}
    (found : table.get? address = some entry) (other : Nat) :
    (table.write address (entry.remove Policy.accessedFlag)).isReferenced
        other =
      (table.isReferenced other &&
        Address.pageBase other != Address.pageBase address) := by
  rw [isReferenced, entryAt_write found]
  by_cases same : Address.pageBase other = Address.pageBase address
  · simp [same, Entry.remove, Flags.difference, Policy.accessedFlag]
  · simp [same, isReferenced]

end PageTable

/-- The page table has an entry for the page, under the address of its first
byte. -/
structure ResidentPage.IsMappedIn (page : ResidentPage)
    (table : PageTable) : Prop where
  aligned : Address.pageBase page.address = page.address
  lt_limit : page.address < addressLimit
  hasEntry : ∃ entry, table.get? page.address = some entry

instance (page : ResidentPage) (table : PageTable) :
    Decidable (page.IsMappedIn table) :=
  decidable_of_iff (Address.pageBase page.address = page.address ∧
      page.address < addressLimit ∧ (table.get? page.address).isSome = true)
    ⟨fun ⟨aligned, lt, isSome⟩ =>
      ⟨aligned, lt, Option.isSome_iff_exists.mp isSome⟩,
    fun ⟨aligned, lt, hasEntry⟩ =>
      ⟨aligned, lt, Option.isSome_iff_exists.mpr hasEntry⟩⟩

namespace ResidentPage

theorem IsMappedIn.write (mapped : page.IsMappedIn table) (address : Nat)
    (entry : Entry) : page.IsMappedIn (table.write address entry) := by
  refine ⟨mapped.aligned, mapped.lt_limit, ?_⟩
  obtain ⟨held, found⟩ := mapped.hasEntry
  rw [PageTable.get?_write]
  split
  · rename_i same
    rw [← table.get?_eq_of_pageNumber_eq same, found]
    exact ⟨entry, rfl⟩
  · exact ⟨held, found⟩

theorem IsMappedIn.queuedEntry (mapped : page.IsMappedIn table)
    (found : table.get? page.address = some entry) :
    Policy.queuedEntry table page.address = .ok entry := by
  rw [Policy.queuedEntry, PageTable.lookup_of_lt mapped.lt_limit, found]
  rfl

/-- The page with the stamp that it gets when it goes to the end of the
line. -/
def restamped (page : ResidentPage) (ledger : Ledger) : ResidentPage :=
  { page with recency := ledger.generation + 1 }

end ResidentPage

namespace Ledger

/-- The ledger once a page has gone to the end of the line. -/
def requeue (ledger : Ledger) (page : ResidentPage) : Ledger :=
  { ledger.put page.handle
      ⟨.resident page.address, ledger.generation + 1⟩ with
    generation := ledger.generation + 1 }

theorem setRecency_eq_requeue (member : page ∈ ledger.residents) :
    Ledger.setRecency { ledger with generation := ledger.generation + 1 }
        page.handle (ledger.generation + 1) =
      .ok (ledger.requeue page) :=
  setRecency_eq_ok_iff.mpr ⟨_, mem_residents_iff.mp member, rfl⟩

/-- The place of the page holds it with its new stamp, the others what they
held. -/
theorem getElem?_places_requeue (member : page ∈ ledger.residents)
    (other : Nat) :
    (ledger.requeue page).places[other]? =
      if page.handle = other then
        some ⟨.resident page.address, ledger.generation + 1⟩
      else ledger.places[other]? := by
  obtain ⟨inside, _⟩ :=
    Array.getElem?_eq_some_iff.mp (mem_residents_iff.mp member)
  refine (getElem?_places_put other).trans ?_
  by_cases here : page.handle = other
  · subst here
    rw [if_pos ⟨rfl, inside⟩, if_pos rfl]
  · rw [if_neg fun both => here both.1, if_neg here]

/-- In memory are the page with its new stamp and the pages elsewhere. -/
theorem mem_residents_requeue_iff (member : page ∈ ledger.residents)
    (resident : ResidentPage) :
    resident ∈ (ledger.requeue page).residents ↔
      resident = page.restamped ledger ∨
        resident ∈ ledger.residents ∧ resident.handle ≠ page.handle := by
  rw [mem_residents_iff, getElem?_places_requeue member, mem_residents_iff]
  by_cases here : page.handle = resident.handle
  · obtain ⟨handle, address, recency⟩ := resident
    subst here
    simp [ResidentPage.restamped, eq_comm]
  · have different : resident ≠ page.restamped ledger := by
      rintro rfl
      exact here rfl
    simp [here, different, Ne.symm here]

end Ledger

/-- The pages in memory stand in line as `pages`: all are mapped, each at its
own address, and no stamp is ahead of the clock. -/
structure Waits (ledger : Ledger) (table : PageTable)
    (pages : List ResidentPage) : Prop where
  mem_iff : ∀ page, page ∈ pages ↔ page ∈ ledger.residents
  inLine : pages.Pairwise ResidentPage.Precedes
  stamped : ∀ page ∈ pages, page.recency ≤ ledger.generation
  mapped : ∀ page ∈ pages, page.IsMappedIn table
  apart : pages.Pairwise fun first second => first.address ≠ second.address

namespace Waits

theorem handle_ne (waits : Waits ledger table (front :: behind))
    (member : page ∈ behind) : page.handle ≠ front.handle := by
  intro same
  obtain rfl := Ledger.eq_of_handle_eq
    ((waits.mem_iff page).mp (.tail _ member))
    ((waits.mem_iff front).mp (.head _)) same
  have precedes := List.rel_of_pairwise_cons waits.inLine member
  exact precedes.asymm precedes

/-- The mark of the first page is not that of a page behind it. -/
theorem isReferenced_behind (waits : Waits ledger table (front :: behind))
    (found : table.get? front.address = some entry)
    (member : page ∈ behind) :
    (table.write front.address
        (entry.remove Policy.accessedFlag)).isReferenced page.address =
      table.isReferenced page.address := by
  have different := List.rel_of_pairwise_cons waits.apart member
  rw [← (waits.mapped _ (.head _)).aligned,
    ← (waits.mapped _ (.tail _ member)).aligned] at different
  rw [PageTable.isReferenced_write_remove found]
  simp [Ne.symm different]

theorem requeue (waits : Waits ledger table (front :: behind))
    (entry : Entry) :
    Waits (ledger.requeue front) (table.write front.address entry)
      (behind ++ [front.restamped ledger]) := by
  have atFront := (waits.mem_iff front).mp (.head _)
  constructor
  · intro page
    rw [Ledger.mem_residents_requeue_iff atFront, List.mem_append,
      List.mem_singleton, or_comm, ← waits.mem_iff, List.mem_cons]
    refine or_congr_right ⟨fun member =>
      ⟨.inr member, waits.handle_ne member⟩, fun ⟨member, elsewhere⟩ =>
      member.resolve_left ?_⟩
    rintro rfl
    exact elsewhere rfl
  · refine List.pairwise_append.mpr
      ⟨(List.pairwise_cons.mp waits.inLine).2, List.pairwise_singleton _ _, ?_⟩
    intro page member last isLast
    rw [List.mem_singleton.mp isLast]
    exact .inl (Nat.lt_succ_of_le (waits.stamped page (.tail _ member)))
  · intro page member
    rcases List.mem_append.mp member with member | isLast
    · exact Nat.le_succ_of_le (waits.stamped page (.tail _ member))
    · rw [List.mem_singleton.mp isLast]
      exact Nat.le_refl _
  · intro page member
    rcases List.mem_append.mp member with member | isLast
    · exact (waits.mapped page (.tail _ member)).write _ _
    · have mapped := (waits.mapped front (.head _)).write front.address entry
      rw [List.mem_singleton.mp isLast]
      exact ⟨mapped.aligned, mapped.lt_limit, mapped.hasEntry⟩
  · refine List.pairwise_append.mpr
      ⟨(List.pairwise_cons.mp waits.apart).2, List.pairwise_singleton _ _, ?_⟩
    intro page member last isLast
    rw [List.mem_singleton.mp isLast]
    exact (List.rel_of_pairwise_cons waits.apart member).symm

end Waits

theorem afterChances_eq (pages : List Nat) (address : Nat) :
    afterChances pages address = fun entry =>
      if Address.pageBase address ∈ pages then
        { entry with flags := { entry.flags with accessed := false } }
      else entry := by
  funext entry
  simp [afterChances, Entry.remove, Flags.difference, Policy.accessedFlag]

/-- The pages `spared` got a second chance one after the other: they have the
next stamps of the clock in that order, their entries are not marked any more,
and nothing else is different. -/
structure GetChances (spared : List ResidentPage) (ledger : Ledger)
    (table : PageTable) (newLedger : Ledger) (newTable : PageTable) :
    Prop where
  stamped : ∀ (position : Nat) (page : ResidentPage),
    spared[position]? = some page → newLedger.places[page.handle]? =
      some ⟨.resident page.address, ledger.generation + position + 1⟩
  elsewhere : ∀ handle, (∀ page ∈ spared, page.handle ≠ handle) →
    newLedger.places[handle]? = ledger.places[handle]?
  ledger : newLedger = { ledger with
    places := newLedger.places
    generation := ledger.generation + spared.length }
  entry : ∀ address, newTable.get? address =
    (table.get? address).map fun entry =>
      if Address.pageBase address ∈ spared.map ResidentPage.address then
        { entry with flags := { entry.flags with accessed := false } }
      else entry
  budget : newTable.budget = table.budget

namespace GetChances

theorem nil (ledger : Ledger) (table : PageTable) :
    GetChances [] ledger table ledger table where
  stamped _ _ impossible := nomatch impossible
  elsewhere _ _ := rfl
  ledger := rfl
  entry address := by simp
  budget := rfl

/-- The first page in line gets a chance, and then others. -/
theorem cons (waits : Waits ledger table (front :: behind))
    (among : spared ⊆ behind)
    (found : table.get? front.address = some entry)
    (others : GetChances spared (ledger.requeue front)
      (table.write front.address (entry.remove Policy.accessedFlag))
      newLedger newTable) :
    GetChances (front :: spared) ledger table newLedger newTable := by
  have atFront := (waits.mem_iff front).mp (.head _)
  have aligned := (waits.mapped front (.head _)).aligned
  constructor
  · intro position page atPosition
    cases position with
    | zero =>
        cases atPosition
        rw [others.elsewhere _ fun other member =>
          waits.handle_ne (among member),
          Ledger.getElem?_places_requeue atFront, if_pos rfl]
    | succ position =>
        rw [others.stamped position page atPosition, Ledger.requeue,
          Nat.add_right_comm _ 1 position, Nat.add_assoc _ position 1]
  · intro handle unspared
    rw [others.elsewhere handle fun page member =>
        unspared page (.tail _ member),
      Ledger.getElem?_places_requeue atFront,
      if_neg (unspared front (.head _))]
  · rw [others.ledger, List.length_cons, Nat.add_comm spared.length 1,
      ← Nat.add_assoc]
    rfl
  · intro address
    have onlyOnce : front.address ∉ spared.map ResidentPage.address := by
      intro again
      obtain ⟨page, member, same⟩ := List.mem_map.mp again
      exact List.rel_of_pairwise_cons waits.apart (among member) same.symm
    have cleared := afterChances_cons aligned found onlyOnce address
    rw [afterChances_eq, afterChances_eq] at cleared
    exact (others.entry address).trans cleared
  · exact others.budget

end GetChances

/-- The search spares the marked pages at the head of the line, and takes the
page that is at the head of it then. -/
theorem Waits.searches (waits : Waits ledger table (spared ++ rest))
    (marked : ∀ page ∈ spared, table.isReferenced page.address = true)
    (unmarked : ∀ page ∈ rest.head?, table.isReferenced page.address = false)
    (first : (rest ++ spared).head?.map ResidentPage.handle = some handle)
    (fits : ledger.generation + spared.length < Word.limit) :
    ∃ newLedger newTable,
      Policy.Searches ledger table ⟨handle, spared.map ResidentPage.address⟩
        newLedger newTable ∧
      GetChances spared ledger table newLedger newTable := by
  -- Every page that is spared leaves the part of the line with marks.
  induction spared generalizing ledger table rest with
  | nil =>
      cases rest with
      | nil => cases first
      | cons page behind =>
          have mapped := waits.mapped page (.head _)
          obtain ⟨entry, found⟩ := mapped.hasEntry
          have clear := unmarked page rfl
          rw [PageTable.isReferenced_of_get? found] at clear
          cases first
          exact ⟨ledger, table,
            .takes (Ledger.least_of_pairwise waits.inLine waits.mem_iff)
              (mapped.queuedEntry found) clear, .nil ledger table⟩
  | cons front spared ih =>
      rw [List.cons_append] at waits
      have atFront := (waits.mem_iff front).mp (.head _)
      have mapped := waits.mapped front (.head _)
      obtain ⟨entry, found⟩ := mapped.hasEntry
      have isMarked := marked front (.head _)
      rw [PageTable.isReferenced_of_get? found] at isMarked
      rw [List.length_cons] at fits
      have next := waits.requeue (entry.remove Policy.accessedFlag)
      rw [List.append_assoc] at next
      obtain ⟨newLedger, newTable, searches, chances⟩ := ih next
        (fun page member => by
          rw [waits.isReferenced_behind found (List.mem_append_left _ member)]
          exact marked page (.tail _ member))
        (fun page isFirst => by
          cases rest with
          | nil =>
              cases isFirst
              rw [PageTable.isReferenced_write_remove found]
              simp [ResidentPage.restamped]
          | cons head tail =>
              cases isFirst
              rw [waits.isReferenced_behind found
                (List.mem_append_right _ (.head _))]
              exact unmarked _ rfl)
        (by
          cases rest with
          | nil => exact first
          | cons head tail => exact first)
        (by
          simp only [Ledger.requeue]
          omega)
      refine ⟨newLedger, newTable, ?_,
        .cons waits (List.subset_append_left _ _) found chances⟩
      exact .spares (Ledger.least_of_pairwise waits.inLine waits.mem_iff)
        (mapped.queuedEntry found) isMarked
        (Ledger.advanceClock_eq_ok_iff.mpr ⟨by omega, rfl, rfl⟩)
        (Ledger.setRecency_eq_requeue atFront) searches

/-- The search takes the first page in line without a mark, or the head of the
line if there is none, and spares the pages with marks before it. -/
theorem Waits.searches_line (waits : Waits ledger table pages)
    (nonempty : pages ≠ []) (isMarked : ResidentPage → Bool)
    (marks : ∀ page, isMarked page = table.isReferenced page.address)
    (fits : ledger.generation + pages.length < Word.limit) :
    ∃ head newLedger newTable,
      (pages.dropWhile isMarked ++ pages.takeWhile isMarked).head? =
        some head ∧
      Policy.Searches ledger table ⟨head.handle,
        (pages.takeWhile isMarked).map ResidentPage.address⟩
        newLedger newTable ∧
      GetChances (pages.takeWhile isMarked) ledger table newLedger
        newTable := by
  have cut : pages.takeWhile isMarked ++ pages.dropWhile isMarked = pages :=
    List.takeWhile_append_dropWhile
  have marked : ∀ page ∈ pages.takeWhile isMarked,
      table.isReferenced page.address = true :=
    fun page member => marks page ▸ List.mem_takeWhile_imp member
  have unmarked : ∀ page ∈ (pages.dropWhile isMarked).head?,
      table.isReferenced page.address = false := by
    intro page isFirst
    have clear := List.head?_dropWhile_not isMarked pages
    rw [show (pages.dropWhile isMarked).head? = some page from isFirst]
      at clear
    exact marks page ▸ clear
  have inLine : pages.dropWhile isMarked ++ pages.takeWhile isMarked ≠ [] := by
    intro isEmpty
    obtain ⟨noRest, noneSpared⟩ := List.append_eq_nil_iff.mp isEmpty
    rw [noRest, noneSpared] at cut
    exact nonempty cut.symm
  obtain ⟨head, atHead⟩ :=
    Option.isSome_iff_exists.mp (List.isSome_head?.mpr inLine)
  have spared : (pages.takeWhile isMarked).length ≤ pages.length :=
    (List.takeWhile_sublist isMarked).length_le
  obtain ⟨newLedger, newTable, searches, chances⟩ :=
    Waits.searches (cut.symm ▸ waits) marked unmarked
      (congrArg (Option.map ResidentPage.handle) atHead) (by omega)
  exact ⟨head, newLedger, newTable, atHead, searches, chances⟩

/-- The line of a ledger whose pages are mapped. -/
theorem waits_lineup
    (stamped : ∀ page ∈ ledger.residents, page.recency ≤ ledger.generation)
    (mapped : ∀ page ∈ ledger.residents, page.IsMappedIn table)
    (apart : (ledger.residents.map ResidentPage.address).Nodup) :
    Waits ledger table ledger.lineup where
  mem_iff _ := Ledger.mem_lineup_iff
  inLine := ledger.pairwise_lineup
  stamped page member := stamped page (Ledger.mem_lineup_iff.mp member)
  mapped page member := mapped page (Ledger.mem_lineup_iff.mp member)
  apart := List.pairwise_map.mp
    (((List.mergeSort_perm _ _).map _).nodup_iff.mpr apart)

/-- The line up to its first page without a mark, and the line from there. -/
theorem cut_at_unmarked (isMarked : ResidentPage → Bool) {position : Nat}
    (atPosition : pages[position]? = some page)
    (unmarked : isMarked page = false)
    (marked : ∀ earlier ∈ pages.take position, isMarked earlier = true) :
    pages.takeWhile isMarked = pages.take position ∧
      (pages.dropWhile isMarked).head? = some page := by
  obtain ⟨inside, rfl⟩ := List.getElem?_eq_some_iff.mp atPosition
  have cut : pages =
      pages.take position ++ pages[position] :: pages.drop (position + 1) := by
    rw [← List.drop_eq_getElem_cons inside, List.take_append_drop]
  have stops : ¬isMarked pages[position] = true := by
    rw [unmarked]
    exact Bool.false_ne_true
  constructor
  · rw [congrArg (List.takeWhile isMarked) cut,
      List.takeWhile_append_of_pos marked, List.takeWhile_cons_of_neg stops,
      List.append_nil]
  · rw [congrArg (List.dropWhile isMarked) cut,
      List.dropWhile_append_of_pos marked, List.dropWhile_cons_of_neg stops,
      List.head?_cons]

/-- Second-chance FIFO takes the first page in line that was not referenced,
and spares those before it; if every page was referenced it spares them all and
takes the head of the line. -/
theorem select_scfifo_of_mapped (nonempty : ledger.residents ≠ [])
    (stamped : ∀ page ∈ ledger.residents, page.recency ≤ ledger.generation)
    (mapped : ∀ page ∈ ledger.residents, page.IsMappedIn table)
    (apart : (ledger.residents.map ResidentPage.address).Nodup)
    (fits : ledger.generation + ledger.residents.length < Word.limit) :
    ∃ victim newLedger newTable,
      Policy.scfifo.select ledger table = .ok (victim, newLedger, newTable) ∧
      Policy.Searches ledger table victim newLedger newTable ∧
      (∀ (position : Nat) (page : ResidentPage),
        ledger.lineup[position]? = some page →
        table.isReferenced page.address = false →
        (∀ earlier ∈ ledger.lineup.take position,
          table.isReferenced earlier.address = true) →
        victim.handle = page.handle ∧ victim.spared.length = position) ∧
      ((∀ page ∈ ledger.residents,
          table.isReferenced page.address = true) →
        ledger.lineup.head?.map ResidentPage.handle = some victim.handle ∧
          victim.spared.length = ledger.residents.length) ∧
      victim.spared = (ledger.lineup.take victim.spared.length).map
        ResidentPage.address ∧
      GetChances (ledger.lineup.take victim.spared.length) ledger table
        newLedger newTable := by
  have waits := waits_lineup stamped mapped apart
  have members : ∀ page, page ∈ ledger.lineup → page ∈ ledger.residents :=
    fun page => Ledger.mem_lineup_iff.mp
  have length := ledger.length_lineup
  generalize ledger.lineup = line at waits members length ⊢
  let isMarked (page : ResidentPage) : Bool := table.isReferenced page.address
  have standing : line ≠ [] := by
    rintro rfl
    exact nonempty (List.eq_nil_of_length_eq_zero length.symm)
  obtain ⟨head, newLedger, newTable, atHead, searches, chances⟩ :=
    waits.searches_line standing isMarked (fun _ => rfl) (length ▸ fits)
  have sparedLength : ((line.takeWhile isMarked).map
      ResidentPage.address).length = (line.takeWhile isMarked).length :=
    List.length_map _
  have taken : line.take (line.takeWhile isMarked).length =
      line.takeWhile isMarked :=
    (List.prefix_iff_eq_take.mp (List.takeWhile_prefix isMarked)).symm
  refine ⟨_, newLedger, newTable, searches.sweep ?_, searches, ?_, ?_, ?_, ?_⟩
  · rw [sparedLength, ← length]
    exact (List.takeWhile_sublist isMarked).length_le
  · intro position page atPosition clear before
    obtain ⟨ahead, isNext⟩ :=
      cut_at_unmarked isMarked atPosition clear before
    obtain ⟨inside, _⟩ := List.getElem?_eq_some_iff.mp atPosition
    rw [List.head?_append, isNext] at atHead
    cases atHead
    refine ⟨rfl, sparedLength.trans ?_⟩
    rw [ahead, List.length_take, Nat.min_eq_left (Nat.le_of_lt inside)]
  · intro allMarked
    have all : line.takeWhile isMarked = line := List.takeWhile_eq_self_iff.mpr
      fun page member => allMarked page (members page member)
    have noneLeft : line.dropWhile isMarked = [] :=
      List.dropWhile_eq_nil_iff.mpr
        fun page member => allMarked page (members page member)
    rw [noneLeft, List.nil_append, all] at atHead
    rw [atHead, sparedLength, all, length]
    exact ⟨rfl, rfl⟩
  · rw [sparedLength, taken]
  · rw [sparedLength, taken]
    exact chances

/-- Three pages in memory, two of them stamped at the same time. -/
def tiedLedger : Ledger where
  places := #[⟨.resident 0x2000, 4⟩, ⟨.resident 0x0, 4⟩, Tracked.unused,
    ⟨.resident 0x1000, 2⟩]
  index := ∅
  maxResident := 3
  residentCount := 3
  swappedCount := 0
  generation := 6

/-- Their entries; the page that was stamped first and one of the other two
have marks. -/
def tiedTable : PageTable :=
  let leaf (frame : Nat) (accessed : Bool) : Entry :=
    Entry.point frame { valid := true, read := true, user := true, accessed }
  ((((PageTable.new none).addTable 0x0).write 0x0
    (leaf 0x80000000 false)).write 0x1000
    (leaf 0x80001000 true)).write 0x2000 (leaf 0x80002000 true)

/-- Of two pages stamped at the same time the one at the earlier place comes
first; here it has a mark, so the other one leaves. -/
theorem select_scfifo_tied :
    ∃ victim newLedger newTable,
      Policy.scfifo.select tiedLedger tiedTable =
        .ok (victim, newLedger, newTable) ∧
      victim.handle = 1 ∧ victim.spared = [0x1000, 0x2000] := by
  have line : tiedLedger.lineup =
      [⟨3, 0x1000, 2⟩, ⟨0, 0x2000, 4⟩, ⟨1, 0x0, 4⟩] := by
    have inMemory : tiedLedger.residents =
        [⟨0, 0x2000, 4⟩, ⟨1, 0x0, 4⟩, ⟨3, 0x1000, 2⟩] := by decide +kernel
    rw [Ledger.lineup, inMemory]
    simp [List.mergeSort]
  obtain ⟨victim, newLedger, newTable, selects, _, takesFirst, _, spared, _⟩ :=
    @select_scfifo_of_mapped tiedLedger tiedTable (by decide +kernel)
      (by decide +kernel) (by decide +kernel) (by decide +kernel)
      (by decide +kernel)
  rw [line] at takesFirst spared
  obtain ⟨isLast, length⟩ :=
    takesFirst 2 ⟨1, 0x0, 4⟩ rfl (by decide +kernel) (by decide +kernel)
  rw [length] at spared
  exact ⟨victim, newLedger, newTable, selects, isLast, spared⟩

end DemandPaging
