import DemandPaging.Ledger.Lemmas
import DemandPaging.Proofs.PageTable.Entries
import DemandPaging.Replacement

/-!
# The books of a replacement policy

A policy decides by the marks of references and by the ledger: its books.
Whatever happens to a space under paging shows there as a sequence of moves.  A
page is referenced, evicted, refused by swap, admitted, loaded from swap or
forgotten, or all pages in memory age.  A move says what became of the books
just as the operations say it, so what a policy makes of them can be told
without looking at operations again.
-/

namespace DemandPaging

/-- What a policy sees: the marks of references, by address, and the ledger. -/
structure Books where
  isMarked : Nat → Bool
  ledger : Ledger

namespace Books

/-- The books of a space with this page table and this ledger. -/
def of (table : PageTable) (ledger : Ledger) : Books :=
  ⟨fun address => (table.entryAt address).flags.accessed, ledger⟩

/-- The books with another mark for one page. -/
def mark (books : Books) (page : Nat) (isMarked : Bool) : Books :=
  { books with
    isMarked := fun address =>
      if Address.pageBase address = Address.pageBase page then isMarked
      else books.isMarked address }

variable {books before middle after : Books} {page address : Nat}

theorem isMarked_mark (isMarked : Bool) :
    (books.mark page isMarked).isMarked address =
      if Address.pageBase address = Address.pageBase page then isMarked
      else books.isMarked address :=
  rfl

/-- What happens to a page, or to all. -/
inductive Move where
  | refer (page : Nat)
  /-- The page moves to swap, once those in front of it were spared. -/
  | evict (spared : List Nat) (page : Nat)
  /-- The same page was to move to swap, which did not take it. -/
  | refuse (spared : List Nat) (page : Nat)
  /-- A new page is tracked. -/
  | enlist (page : Nat) (isMarked : Bool)
  /-- A page comes back from swap. -/
  | load (page : Nat)
  | forget (page : Nat)
  | age

/-- Pages are given a second chance, one after the other: each is the earliest
in memory, loses its mark and becomes the latest. -/
inductive Sweeps : List Nat → Books → Books → Prop where
  | nil {books : Books} : Sweeps [] books books
  | cons {books after : Books} {front : ResidentPage} {now : Nat}
      {clocked ledger : Ledger} {spared : List Nat}
      (least : Policy.scfifo.least books.ledger = .ok front)
      (marked : books.isMarked front.address = true)
      (advanced : books.ledger.advanceClock = .ok (now, clocked))
      (requeued : clocked.setRecency front.handle now = .ok ledger)
      (rest : Sweeps spared
        { books.mark front.address false with ledger } after) :
      Sweeps (front.address :: spared) books after

/-- The policy picks a page of least rank.  Under second-chance FIFO it spares
the pages in front first, and each of them at most once. -/
structure Picks (policy : Policy) (before : Books) (spared : List Nat)
    (front : ResidentPage) (after : Books) : Prop where
  sweeps : Sweeps spared before after
  spares : spared ≠ [] → policy = .scfifo
  least : policy.least after.ledger = .ok front
  unmarked : policy = .scfifo → after.isMarked front.address = false ∨
    spared.length = before.ledger.residents.length

/-- Pages age one after the other: the mark of each moves into its recency. -/
inductive Ages : List ResidentPage → Books → Books → Prop where
  | nil {books : Books} : Ages [] books books
  | cons {books after : Books} {page : ResidentPage}
      {pages : List ResidentPage} {ledger : Ledger}
      (aged : books.ledger.setRecency page.handle
        (Policy.aged page.recency (books.isMarked page.address)) = .ok ledger)
      (rest : Ages pages { books.mark page.address false with ledger } after) :
      Ages (page :: pages) books after

/-- Does a tick age the pages? -/
def isAging : Policy → Bool
  | .nfua | .lapa => true
  | .noPaging | .scfifo => false

/-- What a move does to the books. -/
inductive Step (policy : Policy) : Move → Books → Books → Prop where
  | refer {books : Books} {page : Nat}
      (aligned : Address.pageBase page = page) :
      Step policy (.refer page) books (books.mark page true)
  | evict {before middle : Books} {spared : List Nat} {front : ResidentPage}
      {slot : Nat} {ledger : Ledger}
      (picks : Picks policy before spared front middle)
      (moved : middle.ledger.markSwapped front.handle front.address slot =
        .ok ledger) :
      Step policy (.evict spared front.address) before { middle with ledger }
  | refuse {before after : Books} {spared : List Nat} {front : ResidentPage}
      (picks : Picks policy before spared front after) :
      Step policy (.refuse spared front.address) before after
  | enlist {books : Books} {page handle : Nat} {settled ledger : Ledger}
      (aligned : Address.pageBase page = page)
      (untracked : books.ledger.find? page = none)
      (settles : books.ledger.markResident handle page = .ok settled)
      (loaded : policy.onLoad settled handle = .ok ledger) :
      Step policy (.enlist page (books.isMarked page)) books
        { books with ledger }
  | load {books : Books} {page handle : Nat} {settled ledger : Ledger}
      (tracked : books.ledger.find? page ≠ none)
      (settles : books.ledger.markResident handle page = .ok settled)
      (loaded : policy.onLoad settled handle = .ok ledger) :
      Step policy (.load page) books { books with ledger }
  | forget {books : Books} {page handle : Nat} {tracked : Tracked}
      {ledger : Ledger} (found : books.ledger.find? page = some handle)
      (released : books.ledger.release handle = .ok (tracked, ledger)) :
      Step policy (.forget page) books { books.mark page false with ledger }
  | age {before after : Books} (isAging : isAging policy = true)
      (ages : Ages before.ledger.residents before after) :
      Step policy .age before after

/-- What moves do to the books one after the other.  Between them the marks of
pages that are not tracked may change. -/
inductive Steps (policy : Policy) : List Move → Books → Books → Prop where
  | nil {books : Books} : Steps policy [] books books
  | cons {move : Move} {moves : List Move} {before middle after : Books}
      (step : Step policy move before middle)
      (rest : Steps policy moves middle after) :
      Steps policy (move :: moves) before after
  | wipe {moves : List Move} {books after : Books} {page : Nat}
      (isMarked : Bool) (aligned : Address.pageBase page = page)
      (untracked : books.ledger.find? page = none)
      (rest : Steps policy moves (books.mark page isMarked) after) :
      Steps policy moves books after

variable {policy : Policy} {move : Move} {moves more : List Move}

namespace Steps

theorem of_step (step : Step policy move before after) :
    Steps policy [move] before after :=
  .cons step .nil

theorem append (first : Steps policy moves before middle)
    (second : Steps policy more middle after) :
    Steps policy (moves ++ more) before after := by
  induction first with
  | nil => exact second
  | cons step _ ih => exact .cons step (ih second)
  | wipe isMarked aligned untracked _ ih =>
      exact .wipe isMarked aligned untracked (ih second)

end Steps

variable {table : PageTable} {ledger : Ledger} {entry : Entry}

theorem of_update {change : Entry → Entry}
    (same : ∀ entry, (change entry).flags.accessed = entry.flags.accessed) :
    of (table.update address change) ledger = of table ledger := by
  have marks : ∀ other, ((table.update address change).entryAt
      other).flags.accessed = (table.entryAt other).flags.accessed := by
    intro other
    rw [PageTable.entryAt, PageTable.get?_update]
    split
    · rename_i here
      rw [PageTable.entryAt, table.get?_eq_of_pageNumber_eq here]
      cases table.get? address with
      | none => rfl
      | some entry => exact same entry
    · rfl
  rw [of, of, funext marks]

theorem of_clear : of (table.update address fun _ => Entry.empty) ledger =
    (of table ledger).mark address false := by
  have marks : ∀ other, ((table.update address fun _ =>
      Entry.empty).entryAt other).flags.accessed =
        ((of table ledger).mark address false).isMarked other := by
    intro other
    rw [PageTable.entryAt_update (.inr rfl), isMarked_mark]
    split <;> rfl
  rw [of, funext marks]
  rfl

theorem of_write (found : table.get? address = some entry) (new : Entry) :
    of (table.write address new) ledger =
      (of table ledger).mark address new.flags.accessed := by
  have marks : ∀ other, ((table.write address new).entryAt
      other).flags.accessed = ((of table ledger).mark address
        new.flags.accessed).isMarked other := by
    intro other
    rw [PageTable.entryAt_write found, isMarked_mark]
    split <;> rfl
  rw [of, funext marks]
  rfl

end Books

end DemandPaging
