import DemandPaging.AddressSpace.Residency
import DemandPaging.Span

/-!
# Copies between the system and user memory

A copy goes page by page.  Each page is checked for what the copy needs, brought
in from swap if it is there, and marked as referenced, as user code's own
accesses would mark it.  A copy that fails has moved the bytes of the pages
before the one it failed on.
-/

namespace DemandPaging

namespace AddressSpace

/-- May a copy use a page with the flags `flags`? -/
def allowsCopy (flags : Flags) (isWrite : Bool) : Bool :=
  flags.user && (!isWrite || flags.write)

/-- The frame of the page that holds `address`, which is brought in from swap
if need be and marked as referenced. -/
def userPage (address : Nat) (isWrite : Bool) : SpaceAction Nat := do
  let page := Address.pageBase address
  Action.failUnless (page < addressLimit) (.badAddress address)
  let entry ← Action.orFail (.badAddress address) (← lookup page)
  Action.failUnless (allowsCopy entry.flags isWrite) (.badAddress address)
  Action.runIf entry.isPagedOut (pageIn page)
  let found ← look fun space => space.translate page
  let frame ← Action.orFail (.badAddress address) found
  onTable (Action.change fun table => table.touch page isWrite)
  return frame

/-- Writes bytes to user memory within one page. -/
def writeRun (run : Run) (bytes : List UInt8) : SpaceAction Unit := do
  let frame ← userPage run.address true
  let page ← readFrame frame
  let changed := page.overwrite (Address.pageOffset run.address) bytes
  writeFrame frame changed.toList

/-- The bytes of user memory in a run. -/
def readRun (run : Run) : SpaceAction (List UInt8) := do
  let frame ← userPage run.address false
  let page ← readFrame frame
  return page.slice (Address.pageOffset run.address) run.length

/-- Writes bytes to consecutive runs of user memory. -/
def writeRuns : List Run → List UInt8 → SpaceAction Unit
  | [], _ => return ()
  | run :: runs, bytes => do
    writeRun run (bytes.take run.length)
    writeRuns runs (bytes.drop run.length)

/-- Copies bytes to user memory from `address` on. -/
def copyOut (address : Nat) (bytes : List UInt8) : SpaceAction Unit :=
  writeRuns (Span.runs address bytes.length) bytes

end AddressSpace

/-- An address space and the buffer that is being filled from it. -/
structure UserRead where
  space : AddressSpace
  buffer : Array UInt8

/-- An operation that fills a buffer from an address space. -/
abbrev ReadAction (Result : Type) : Type :=
  Action (Hosted UserRead) Result

namespace UserRead

variable {Result : Type}

/-- Runs an operation on the space. -/
def inSpace (action : SpaceAction Result) : ReadAction Result :=
  Hosted.within UserRead.space (fun space state => { state with space }) action

/-- Puts bytes into the buffer from its place `offset` on. -/
def fill (offset : Nat) (bytes : List UInt8) : ReadAction Unit :=
  Hosted.onFocus (Action.modify fun state =>
    { state with buffer := Bytes.overwrite state.buffer offset bytes })

/-- Fills the buffer from its place `offset` on with consecutive runs of user
memory. -/
def fillRuns : (offset : Nat) → List Run → ReadAction Unit
  | _, [] => return ()
  | offset, run :: runs => do
    fill offset (← inSpace (AddressSpace.readRun run))
    fillRuns (offset + run.length) runs

/-- Fills the whole buffer from user memory at `address`. -/
def copyIn (address : Nat) : ReadAction Unit := do
  let state ← Action.read Hosted.focus
  fillRuns 0 (Span.runs address state.buffer.size)

/-- Fills the buffer as far as the first zero byte, which is copied too; gives
its place, if there is one in the runs. -/
def fillString : (offset : Nat) → List Run → ReadAction (Option Nat)
  | _, [] => return none
  | offset, run :: runs => do
    let bytes ← inSpace (AddressSpace.readRun run)
    match bytes.findIdx? (· == 0) with
    | some last =>
      fill offset (bytes.take (last + 1))
      return some (offset + last)
    | none =>
      fill offset bytes
      fillString (offset + run.length) runs

/-- Copies the string at `address`, with the zero that ends it, into the
buffer; gives its length without the zero. -/
def copyInString (address : Nat) : ReadAction Nat := do
  let state ← Action.read Hosted.focus
  let room := state.buffer.size
  let length ← fillString 0 (Span.runs address room)
  Action.orFail (.unterminated room) length

end UserRead

end DemandPaging
