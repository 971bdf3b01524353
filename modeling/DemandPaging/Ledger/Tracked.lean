import DemandPaging.Address

/-!
# Tracked pages

What a ledger knows of one page under paging: whether it is in memory or in
swap, and the value by which the replacement policy ranks it.  A page holds a
swap slot exactly while it is swapped out, so the slot is part of that state.
-/

namespace DemandPaging

/-- Where the contents of a tracked page are. -/
inductive Residence where
  /-- The place in the ledger is unused. -/
  | free
  /-- The page at `page` is in a frame. -/
  | resident (page : Nat)
  /-- The page at `page` is in the swap slot `slot`. -/
  | swapped (page : Nat) (slot : Nat)
  deriving DecidableEq

namespace Residence

/-- The address of the tracked page; an unused place holds address zero. -/
def address : Residence → Nat
  | free => 0
  | resident page => page
  | swapped page _ => page

def isFree : Residence → Bool
  | free => true
  | _ => false

def isResident : Residence → Bool
  | resident _ => true
  | _ => false

def isSwapped : Residence → Bool
  | swapped _ _ => true
  | _ => false

/-- The swap slot a page holds. -/
def slot? : Residence → Option Nat
  | swapped _ slot => some slot
  | _ => none

/-- How the state of a page is named in messages. -/
def describe : Residence → String
  | free => "Free"
  | resident _ => "Resident"
  | swapped _ _ => "SwappedOut"

end Residence

/-- One place of a ledger. -/
structure Tracked where
  residence : Residence := .free
  /-- The value by which the replacement policy ranks the page. -/
  recency : Nat := 0
  deriving DecidableEq

namespace Tracked

/-- A place that tracks no page. -/
def unused : Tracked := {}

def address (page : Tracked) : Nat := page.residence.address

def isFree (page : Tracked) : Bool := page.residence.isFree

def isResident (page : Tracked) : Bool := page.residence.isResident

def isSwapped (page : Tracked) : Bool := page.residence.isSwapped

end Tracked

end DemandPaging
