import DemandPaging.Address

/-!
# Recoverable errors

What an operation reports when a resource runs out, a transfer fails or an
argument is refused.  The caller goes on from the state that the operation
left, which its own module describes.
-/

namespace DemandPaging

/-- A swap transfer that did not take place. -/
structure TransferError where
  /-- The byte of the swap file where the transfer would have begun. -/
  offset : Nat
  /-- The bytes it would have moved. -/
  length : Nat
  deriving DecidableEq

/-- The wording of a failed transfer. -/
def TransferError.message (error : TransferError) : String :=
  s!"swap transfer of {error.length} bytes at offset " ++
    s!"{Text.hexLiteral error.offset} failed"

/-- Why an operation was refused. -/
inductive PagingError where
  /-- No frame, or no page for a further table, is free. -/
  | outOfMemory
  /-- The tracked pages already fill the ledger of `limit` places. -/
  | tooManyPages (limit : Nat)
  | swapTransfer (error : TransferError)
  /-- The address is neither mapped nor paged out, or may not be used so. -/
  | badAddress (address : Nat)
  /-- No terminator stands within the first `limit` bytes of a string. -/
  | unterminated (limit : Nat)
  | invalidConfig (reason : String)
  deriving DecidableEq

namespace PagingError

/-- The wording of an error. -/
def message : PagingError → String
  | outOfMemory => "out of physical memory"
  | tooManyPages limit => s!"process page limit reached ({limit} pages)"
  | swapTransfer error => "swap i/o: " ++ error.message
  | badAddress address => "bad address " ++ Address.describeVirtual address
  | unterminated limit => s!"string not terminated within {limit} bytes"
  | invalidConfig reason => "invalid paging configuration: " ++ reason

/-- The number that user code sees for any error. -/
def errorNumber (_ : PagingError) : Int := -1

end PagingError

end DemandPaging
