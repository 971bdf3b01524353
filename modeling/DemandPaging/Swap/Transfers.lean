/-!
# Transfers that a device completes

A device may be made to fail: it then completes a given number of further reads
and writes, and fails every transfer after them without moving data.
-/

namespace DemandPaging

/-- How many further transfers the failing devices complete; without a number
they do not fail. -/
structure Transfers where
  reads : Option Nat := none
  writes : Option Nat := none
  deriving DecidableEq

namespace Transfers

/-- One transfer less, or nothing if none is left. -/
def spend : Option Nat → Option (Option Nat)
  | none => some none
  | some 0 => none
  | some (left + 1) => some (some left)

/-- Counts a read; nothing if it fails. -/
def spendRead (transfers : Transfers) : Option Transfers :=
  (spend transfers.reads).map fun reads => { transfers with reads }

/-- Counts a write; nothing if it fails. -/
def spendWrite (transfers : Transfers) : Option Transfers :=
  (spend transfers.writes).map fun writes => { transfers with writes }

end Transfers

end DemandPaging
