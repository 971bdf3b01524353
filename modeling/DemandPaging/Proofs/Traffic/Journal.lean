import DemandPaging.AddressSpace.Basic
import DemandPaging.Proofs.Ledger.Swapped
import DemandPaging.Swap.Consistent

/-!
# What goes to swap and what comes from there

A journal has what happens to pages with regard to swap: a page is evicted or
brought back, a child takes over a page that is in swap, or a page is unmapped,
in swap or not.  It says which pages are in swap afterwards, and so how many
pages went each way: what went to swap is what came from there, what was
unmapped there and what is still there (`Replays.balance`).

A space keeps the journal in its statistics, as far as it evicts pages and
brings them back.
-/

namespace DemandPaging

/-- Something that happens to a page. -/
inductive Passage where
  /-- The page was evicted. -/
  | out (page : Nat)
  /-- The page was brought back. -/
  | back (page : Nat)
  /-- The page was taken over from a parent that had it in swap. -/
  | inherit (page : Nat)
  /-- The page was unmapped, from memory or from swap. -/
  | unmap (page : Nat)
  deriving DecidableEq

namespace Passage

def isOut : Passage → Bool
  | out _ => true
  | back _ | inherit _ | unmap _ => false

def isBack : Passage → Bool
  | back _ => true
  | out _ | inherit _ | unmap _ => false

def isInherit : Passage → Bool
  | inherit _ => true
  | out _ | back _ | unmap _ => false

/-- What happened to the pages that are in swap. -/
def Changes (before after : Finset Nat) : Passage → Prop
  | out page | inherit page => page ∉ before ∧ after = insert page before
  | back page => page ∈ before ∧ after = before.erase page
  | unmap page => after = before.erase page

/-- The pages in swap after that. -/
def after (pages : Finset Nat) : Passage → Finset Nat
  | out page | inherit page => insert page pages
  | back page | unmap page => pages.erase page

/-- Was a page unmapped that was in swap? -/
def isDropOf (pages : Finset Nat) : Passage → Bool
  | unmap page => decide (page ∈ pages)
  | out _ | back _ | inherit _ => false

theorem Changes.after_eq {passage : Passage} {before next : Finset Nat}
    (changes : passage.Changes before next) : passage.after before = next := by
  cases passage with
  | out page | inherit page | back page => exact changes.2.symm
  | unmap page => exact changes.symm

end Passage

/-- What happened, one after the other, leads from some pages in swap to
others. -/
inductive Replays : List Passage → Finset Nat → Finset Nat → Prop where
  | nil (pages : Finset Nat) : Replays [] pages pages
  | cons {passage : Passage} {journal : List Passage}
      {before middle after : Finset Nat}
      (changes : passage.Changes before middle)
      (replays : Replays journal middle after) :
      Replays (passage :: journal) before after

/-- The number of pages that were unmapped while they were in swap, of which
`pages` were there at the beginning. -/
def dropsIn (pages : Finset Nat) : List Passage → Nat
  | [] => 0
  | passage :: journal =>
    (passage.isDropOf pages).toNat + dropsIn (passage.after pages) journal

variable {journal more : List Passage} {before middle after : Finset Nat}

theorem Replays.append (first : Replays journal before middle)
    (second : Replays more middle after) :
    Replays (journal ++ more) before after := by
  induction first with
  | nil pages => exact second
  | cons changes _ ih => exact .cons changes (ih second)

theorem Replays.single {passage : Passage}
    (changes : passage.Changes before after) :
    Replays [passage] before after :=
  .cons changes (.nil after)

/-- What went to swap is what came from there, what was unmapped there and what
is there, not counting what was there before. -/
theorem Replays.balance (replays : Replays journal before after) :
    journal.countP Passage.isOut + journal.countP Passage.isInherit +
        before.card =
      journal.countP Passage.isBack + dropsIn before journal +
        after.card := by
  induction replays with
  | nil pages => rfl
  | @cons passage journal before middle after changes _ ih =>
      rw [dropsIn, changes.after_eq]
      simp only [List.countP_cons]
      cases passage with
      | out page | inherit page =>
          obtain ⟨absent, rfl⟩ := changes
          rw [Finset.card_insert_of_notMem absent] at ih
          simp only [Passage.isOut, Passage.isInherit, Passage.isBack,
            Passage.isDropOf, ↓reduceIte, Bool.false_eq_true, Bool.toNat_false]
          omega
      | back page =>
          obtain ⟨isThere, rfl⟩ := changes
          have fewer := Finset.card_erase_add_one isThere
          simp only [Passage.isOut, Passage.isInherit, Passage.isBack,
            Passage.isDropOf, ↓reduceIte, Bool.false_eq_true, Bool.toNat_false]
          omega
      | unmap page =>
          cases changes
          simp only [Passage.isOut, Passage.isInherit, Passage.isBack,
            Passage.isDropOf, ↓reduceIte, Bool.false_eq_true]
          by_cases isThere : page ∈ before
          · have fewer := Finset.card_erase_add_one isThere
            rw [decide_eq_true isThere, Bool.toNat_true]
            omega
          · rw [decide_eq_false isThere, Bool.toNat_false]
            rw [Finset.erase_eq_of_notMem isThere] at ih ⊢
            omega

theorem Replays.subset {journal : List Passage} {before after : Finset Nat}
    (replays : Replays journal before after)
    (outs : ∀ passage ∈ journal, passage.isOut = true) : before ⊆ after := by
  induction replays with
  | nil pages => exact Finset.Subset.refl pages
  | @cons passage journal before middle after changes _ ih =>
      have later := ih fun passage member => outs passage (.tail _ member)
      have isOut := outs passage (.head _)
      cases passage with
      | out page =>
          obtain ⟨_, rfl⟩ := changes
          exact (Finset.subset_insert page before).trans later
      | back _ | inherit _ | unmap _ => cases isOut

namespace AddressSpace

/-- A space under paging, the counters of which are right. -/
structure IsBooked (space : AddressSpace) : Prop where
  isPaging : space.isPaging = true
  ledger : space.ledger.IsConsistent
  swap : space.swap.IsConsistent

/-- The pages that a space has in swap. -/
def swappedPages (space : AddressSpace) : Finset Nat :=
  space.ledger.swappedPages

/-- All this happened to the pages of the space.  Of the slots that it has
claimed `spare` more than before belong to no page in swap. -/
structure Passes (before : AddressSpace) (journal : List Passage) (spare : Int)
    (after : AddressSpace) : Prop where
  isBooked : IsBooked after
  evictions : after.stats.evictions =
    before.stats.evictions + journal.countP Passage.isOut
  pageIns : after.stats.pageIns =
    before.stats.pageIns + journal.countP Passage.isBack
  replays : Replays journal before.swappedPages after.swappedPages
  slots : (after.swap.inUse : Int) - after.swappedPages.card =
    before.swap.inUse - before.swappedPages.card + spare

variable {origin first second : AddressSpace} {journal more : List Passage}
  {spare further : Int}

theorem Passes.refl (booked : IsBooked origin) : Passes origin [] 0 origin where
  isBooked := booked
  evictions := rfl
  pageIns := rfl
  replays := .nil _
  slots := (Int.add_zero _).symm

theorem Passes.trans (passes : Passes origin journal spare first)
    (next : Passes first more further second) :
    Passes origin (journal ++ more) (spare + further) second where
  isBooked := next.isBooked
  evictions := by
    rw [next.evictions, passes.evictions, List.countP_append, Nat.add_assoc]
  pageIns := by
    rw [next.pageIns, passes.pageIns, List.countP_append, Nat.add_assoc]
  replays := passes.replays.append next.replays
  slots := by
    rw [next.slots, passes.slots, Int.add_assoc]

theorem Passes.trans_nil (passes : Passes origin journal spare first)
    (next : Passes first [] further second) :
    Passes origin journal (spare + further) second := by
  have whole := passes.trans next
  rwa [List.append_nil] at whole

theorem Passes.congr (passes : Passes origin journal spare first)
    (same : spare = further) : Passes origin journal further first :=
  same ▸ passes

end AddressSpace

end DemandPaging
