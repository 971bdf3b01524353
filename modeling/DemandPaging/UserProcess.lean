import DemandPaging.AddressSpace.Fork
import DemandPaging.PageFault
import DemandPaging.Pid
import DemandPaging.UserCopy

/-!
# Processes

A process has a pid, an address space, and a size: the number of bytes of user
memory from address zero on.  The operations here keep the size and the space
in step.  The processes of the operating system itself are never under paging.
-/

namespace DemandPaging

/-- The memory of one process. -/
structure UserProcess where
  pid : Nat
  /-- The bytes of user memory. -/
  size : Nat := 0
  space : AddressSpace

/-- An operation on a process. -/
abbrev ProcessAction (Result : Type) : Type :=
  Action (Hosted UserProcess) Result

namespace UserProcess

variable {Result : Type}

/-- How a process is shown for debugging. -/
def describe (process : UserProcess) : String :=
  "Process \x7b pid: Pid(" ++ toString process.pid ++ "), sz: " ++
    toString process.size ++ ", .. \x7d"

/-- Runs an operation on the address space. -/
def inSpace (action : SpaceAction Result) : ProcessAction Result :=
  Hosted.within UserProcess.space (fun space process => { process with space })
    action

/-- Sets the size. -/
def resize (size : Nat) : ProcessAction Unit :=
  Hosted.onFocus (Action.modify fun process => { process with size })

/-- The size. -/
def currentSize : ProcessAction Nat :=
  Action.read fun state => state.focus.size

/-- A process around an empty address space. -/
def ofSpace (pid : Nat) (space : AddressSpace) : Action Host UserProcess := do
  Action.modify fun host => host.report (.processMade pid space.isPaging)
  return { pid, space }

/-- A process with an empty address space. -/
def new (pid : Nat) (config : Config) (pool : Nat) : Action Host UserProcess := do
  let space ← AddressSpace.new config (!Pid.isOfSystem pid) pool
  ofSpace pid space

/-- Grows the memory by `change` bytes, or shrinks it if `change` is negative,
down to nothing at most.  Gives the size there was before. -/
def growBy (change : Int) : ProcessAction Nat := do
  let old ← currentSize
  if 0 < change then
    let target := old + change.toNat
    Action.failUnless (target < addressLimit) .outOfMemory
    resize (← inSpace (AddressSpace.grow old target { write := true }))
    return old
  else
    resize (← inSpace (AddressSpace.shrink old (old - change.natAbs)))
    return old

/-- Makes the first page of a process without memory, with the program `code`
at its beginning. -/
def firstPage (code : List UInt8) : ProcessAction Unit := do
  inSpace (AddressSpace.firstPage code)
  resize pageSize

/-- Adds zeroed pages from `low`, which must be in the page where the memory
ends, up to `high`.  Gives the new size. -/
def extendRange (low high : Nat) : ProcessAction Nat := do
  let size ← currentSize
  let boundary ← Word.roundUp low
  let stop ← Word.roundUp size
  Action.failUnless (boundary = stop) (.badAddress low)
  let grown ← inSpace (AddressSpace.grow size high { write := true })
  resize grown
  return grown

/-- Takes the pages away from `low` up to `high`, which must be in the page
where the memory ends.  Gives the new size. -/
def releaseRange (low high : Nat) : ProcessAction Nat := do
  let size ← currentSize
  let boundary ← Word.roundUp high
  let stop ← Word.roundUp size
  Action.failUnless (boundary = stop) (.badAddress high)
  let shrunk ← inSpace (AddressSpace.shrink size low)
  resize shrunk
  return shrunk

/-- Gives all memory and the page table back. -/
def exit : ProcessAction Unit := do
  let state ← Action.get
  resize 0
  inSpace (AddressSpace.tearDown state.focus.size)
  Hosted.report (.processExited state.focus.pid state.focus.size)

end UserProcess

/-- A fork of a process under way. -/
abbrev ProcessFork (Result : Type) : Type :=
  ForkAction UserProcess Result

namespace UserProcess

/-- The address spaces of a parent and its child. -/
def spaces (fork : Fork UserProcess) : Fork AddressSpace :=
  ⟨fork.parent.space, fork.child.space⟩

/-- A parent and its child with other address spaces. -/
def setSpaces (spaces : Fork AddressSpace) (fork : Fork UserProcess) :
    Fork UserProcess where
  parent := { fork.parent with space := spaces.parent }
  child := { fork.child with space := spaces.child }

/-- Copies the first `size` bytes of the parent into the child, which must be
without memory and takes that size. -/
def copyMemory (size : Nat) : ProcessFork Unit := do
  let fork ← Action.read Hosted.focus
  let wanted ← Word.roundUp size
  let available ← Word.roundUp fork.parent.size
  Action.failUnless (wanted ≤ available) (.badAddress size)
  Action.crashUnless (fork.child.size = 0) (.forkIntoOccupied fork.child.pid)
  Hosted.within spaces setSpaces (AddressSpace.forkCopy size)
  Fork.inChild (resize size)

/-- Copies the first `size` bytes of a process into another one without
memory. -/
def forkCopy (size : Nat) : ProcessFork Unit := do
  let fork ← Action.read Hosted.focus
  Action.crashUnless (fork.parent.pid ≠ fork.child.pid)
    (.forkIntoItself fork.parent.pid)
  copyMemory size

/-- Runs an operation that fills `child` from a process, and gives the child as
it then is. -/
def withChild (child : UserProcess) (fill : ProcessFork Unit) :
    ProcessAction UserProcess :=
  fun state =>
    match fill ⟨⟨state.focus, child⟩, state.host⟩ with
    | .done _ filled =>
      .done filled.focus.child ⟨filled.focus.parent, filled.host⟩
    | .failed error filled =>
      .failed error ⟨filled.focus.parent, filled.host⟩
    | .fatal cause => .fatal cause

/-- A new process with a copy of the memory.  It takes its frames from the
same pool. -/
def fork (pid : Nat) : ProcessAction UserProcess := do
  let parent ← Action.read Hosted.focus
  let child ←
    Hosted.onHost (UserProcess.new pid parent.space.config parent.space.pool)
  withChild child (copyMemory parent.size)

end UserProcess

end DemandPaging
