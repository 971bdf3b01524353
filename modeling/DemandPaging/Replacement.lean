import DemandPaging.Ledger
import DemandPaging.PageTable
import DemandPaging.Replacement.Policy

/-!
# Choosing the page that leaves memory

Every policy ranks the resident pages of a ledger by their recency and evicts
the one of least rank; of equal ranks, the one at the earliest place.

The two aging policies read a recency as the history of references, the most
recent tick in the highest of its 64 bits.  NFUA ranks by the number itself,
LAPA by the count of set bits first.  Under second-chance FIFO a recency is
the time at which the page joined the queue, so the least is the front; a
front page that has been referenced goes to the back and loses its mark.
-/

namespace DemandPaging

/-- The page to evict, and the pages that were spared on the way to it. -/
structure Victim where
  handle : Nat
  /-- The addresses of the pages given a second chance, in order. -/
  spared : List Nat := []

namespace Policy

/-- The number of set bits of a 64-bit word. -/
def setBits (word : Nat) : Nat :=
  (List.range 64).countP word.testBit

/-- The rank of a recency; the least leaves first.  For LAPA the count of set
bits counts before any value of the word itself. -/
def rank : Policy → Nat → Nat
  | lapa, recency => setBits recency * Word.limit + recency
  | _, recency => recency

/-- The resident page of least rank, the earliest of equals. -/
def least (policy : Policy) (ledger : Ledger) : Except Fatal ResidentPage :=
  match ledger.residents.minOn? fun page => policy.rank page.recency with
  | some page => .ok page
  | none => .error .nothingResident

/-- A recency one tick older: the history moves down by one bit, and the last
tick's reference takes the highest. -/
def aged (recency : Nat) (wasAccessed : Bool) : Nat :=
  recency / 2 + if wasAccessed then 1 <<< 63 else 0

/-- The mark of a reference. -/
def accessedFlag : Flags := { accessed := true }

/-- Ages one resident page: its mark of reference moves from the page table
into its recency. -/
def agePage (page : ResidentPage) (ledger : Ledger) (table : PageTable) :
    Except Fatal (Ledger × PageTable) := do
  match ← table.lookup page.address with
  | none => throw (.agedWithoutEntry page.address)
  | some entry =>
    let ledger ← ledger.setRecency page.handle
      (aged page.recency entry.flags.accessed)
    return (ledger,
      table.write page.address (entry.remove accessedFlag))

/-- Ages resident pages one after the other. -/
def agePages : List ResidentPage → Ledger → PageTable →
    Except Fatal (Ledger × PageTable)
  | [], ledger, table => .ok (ledger, table)
  | page :: pages, ledger, table => do
    let (ledger, table) ← agePage page ledger table
    agePages pages ledger table

/-- A tick of the scheduler: the aging policies age every resident page.
Gives the number of pages aged, or nothing if the policy does not age. -/
def onTick (policy : Policy) (ledger : Ledger) (table : PageTable) :
    Except Fatal (Option Nat × Ledger × PageTable) := do
  match policy with
  | nfua | lapa =>
    let (aged, table) ← agePages ledger.residents ledger table
    return (some ledger.residents.length, aged, table)
  | noPaging | scfifo => return (none, ledger, table)

/-- Gives a page that just became resident its first recency: no history for
NFUA, a full one for LAPA, the time for second-chance FIFO. -/
def onLoad (policy : Policy) (ledger : Ledger) (handle : Nat) :
    Except Fatal Ledger := do
  match policy with
  | noPaging => return ledger
  | nfua => ledger.setRecency handle 0
  | lapa => ledger.setRecency handle (Word.limit - 1)
  | scfifo =>
    let (now, ledger) ← ledger.advanceClock
    ledger.setRecency handle now

/-- The entry of a page in the queue. -/
def queuedEntry (table : PageTable) (page : Nat) : Except Fatal Entry := do
  match ← table.lookup page with
  | none => throw (.queuedWithoutEntry page)
  | some entry => return entry

/-- Looks at the front of the queue.  A referenced page loses its mark, goes
to the back, and the next front is looked at.  Each look that spares a page
uses up a mark, so after as many of them as there are resident pages no mark
is left, and the front page leaves as it is. -/
def sweep : (chances : Nat) → Ledger → PageTable →
    Except Fatal (Victim × Ledger × PageTable)
  | 0, ledger, table => do
    let front ← least scfifo ledger
    let _ ← queuedEntry table front.address
    return ({ handle := front.handle }, ledger, table)
  | chances + 1, ledger, table => do
    let front ← least scfifo ledger
    let entry ← queuedEntry table front.address
    if entry.flags.accessed then
      let table := table.write front.address (entry.remove accessedFlag)
      let (now, ledger) ← ledger.advanceClock
      let ledger ← ledger.setRecency front.handle now
      let (victim, ledger, table) ← sweep chances ledger table
      return ({ victim with spared := front.address :: victim.spared },
        ledger, table)
    else
      return ({ handle := front.handle }, ledger, table)

/-- Chooses the resident page to evict. -/
def select (policy : Policy) (ledger : Ledger) (table : PageTable) :
    Except Fatal (Victim × Ledger × PageTable) := do
  match policy with
  | noPaging => throw .pagingDisabled
  | nfua | lapa =>
    let page ← policy.least ledger
    return ({ handle := page.handle }, ledger, table)
  | scfifo => sweep ledger.residents.length ledger table

end Policy

end DemandPaging
