import DemandPaging.AddressSpace.Basic

/-!
# The memory that user code sees

User code sees bytes and permissions; it does not see whether a page is in a
frame or in a swap slot.  The logical memory of an address space has for each
page its bytes, from wherever they are, and its permissions.
-/

namespace DemandPaging

/-- What user code sees of a page. -/
structure LogicalPage where
  bytes : List UInt8
  /-- The permissions; all other flags are clear. -/
  permissions : Flags
  deriving DecidableEq

/-- The permissions among some flags. -/
def Flags.permissions (flags : Flags) : Flags where
  read := flags.read
  write := flags.write
  exec := flags.exec
  user := flags.user

namespace AddressSpace

/-- The bytes in the frame at `frame`, if it is lent. -/
def frameBytes? (state : Hosted AddressSpace) (frame : Nat) :
    Option (List UInt8) :=
  match (state.host.pool state.focus.pool).read frame with
  | .ok contents => some contents.toList
  | .error _ => none

/-- The bytes in the swap slot `slot`, if the swap file has it. -/
def slotBytes? (space : AddressSpace) (slot : Nat) : Option (List UInt8) :=
  (space.swap.file.read (slot * pageSize) pageSize).toOption

/-- The swap slot that holds the page at `page`, if the ledger knows one. -/
def slotOf? (space : AddressSpace) (page : Nat) : Option Nat := do
  let handle ← space.ledger.find? page
  let tracked ← space.ledger.places[handle]?
  tracked.residence.slot?

/-- The bytes of a page whose entry is `entry`. -/
def bytesOf? (state : Hosted AddressSpace) (page : Nat) (entry : Entry) :
    Option (List UInt8) :=
  if entry.isValid then
    frameBytes? state entry.address
  else if entry.isPagedOut then
    (state.focus.slotOf? page).bind state.focus.slotBytes?
  else
    none

/-- The page that holds `address`, as user code sees it. -/
def logicalPage? (state : Hosted AddressSpace) (address : Nat) :
    Option LogicalPage := do
  let entry ← state.focus.table.get? address
  let bytes ← bytesOf? state (Address.pageBase address) entry
  return { bytes, permissions := entry.flags.permissions }

end AddressSpace

end DemandPaging
