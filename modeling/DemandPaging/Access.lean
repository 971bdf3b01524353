import DemandPaging.Entry.Flags

/-!
# Kinds of access

What the processor was doing when it faulted, and the permission it needed.
-/

namespace DemandPaging

/-- An access to user memory. -/
inductive Access where
  | load
  | store
  | instruction
  deriving DecidableEq

namespace Access

/-- The access behind a trap's cause code, if it is one of a page fault. -/
def ofCauseCode : Nat → Option Access
  | 12 => some instruction
  | 13 => some load
  | 15 => some store
  | _ => none

def name : Access → String
  | load => "Load"
  | store => "Store"
  | instruction => "Instruction"

/-- The permission an access needs. -/
def required : Access → Flags
  | load => { read := true }
  | store => { write := true }
  | instruction => { exec := true }

/-- May user code make this access through an entry with the flags `flags`? -/
def allowedBy (access : Access) (flags : Flags) : Bool :=
  flags.contains (access.required.union { user := true })

theorem allowedBy_load {flags : Flags} :
    load.allowedBy flags = true ↔ flags.user = true ∧ flags.read = true := by
  simp [allowedBy, required, Flags.contains_iff, Flags.union, and_comm]

theorem allowedBy_store {flags : Flags} :
    store.allowedBy flags = true ↔ flags.user = true ∧ flags.write = true := by
  simp [allowedBy, required, Flags.contains_iff, Flags.union, and_comm]

theorem allowedBy_instruction {flags : Flags} :
    instruction.allowedBy flags = true ↔
      flags.user = true ∧ flags.exec = true := by
  simp [allowedBy, required, Flags.contains_iff, Flags.union, and_comm]

end Access

end DemandPaging
