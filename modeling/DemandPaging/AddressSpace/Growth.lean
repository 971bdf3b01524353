import DemandPaging.AddressSpace.Residency
import DemandPaging.AddressSpace.Unmapping

/-!
# Growing and shrinking

The user memory of a process is a run of pages from address zero on.  Growing
adds zeroed pages at its end, one after the other; if one cannot be had, those
already added are taken away again.  Shrinking takes pages away from its end.
-/

namespace DemandPaging

namespace AddressSpace

/-- Takes back a page that was mapped but is not tracked. -/
def withdraw (page frame : Nat) : SpaceAction Unit := do
  updateEntry page fun _ => Entry.empty
  releaseFrame frame

/-- Maps the page at `page` to a frame that nothing else holds.  On failure the
frame goes back. -/
def place (page frame : Nat) (flags : Flags) : SpaceAction Unit :=
  (onTable (PageTable.map page frame pageSize flags)).onFailure fun _ =>
    releaseFrame frame

/-- Maps the page at `page` to a frame that nothing else holds, and enrolls it.
On failure the frame goes back and no trace of the page is left. -/
def install (page frame : Nat) (flags : Flags) : SpaceAction Unit := do
  place page frame flags
  (enroll page).onFailure fun _ => withdraw page frame

/-- Adds the page at `page`: it begins with `contents`, and the rest of it is
zero. -/
def addPage (page : Nat) (contents : List UInt8) (flags : Flags) :
    SpaceAction Unit := do
  let frame ← takeFrame
  onFrames (Action.change fun pool => pool.clear frame)
  writeFrame frame contents
  install page frame flags

/-- Shrinks the memory from `old` bytes to `new`, and gives the size it has
then; without effect if it is not larger. -/
def shrink (old new : Nat) : SpaceAction Nat := do
  if old ≤ new then
    return old
  else
    let stop ← Word.roundUp new
    let oldStop ← Word.roundUp old
    Action.runIf (stop < oldStop)
      (unmap stop ((oldStop - stop) / pageSize) true)
    return new

/-- Adds `count` zeroed pages, the first at `page`.  On failure the memory
shrinks from there to `old` bytes. -/
def addRun (flags : Flags) (old page : Nat) : (count : Nat) → SpaceAction Unit
  | 0 => return ()
  | count + 1 => do
    (addPage page [] flags).onFailure fun _ => do
      let _ ← shrink page old
    addRun flags old (page + pageSize) count

/-- Grows the memory from `old` bytes to `new`, and gives the size it has then;
without effect if it is larger.  User code may read the new pages, and do with
them what `permissions` adds. -/
def grow (old new : Nat) (permissions : Flags) : SpaceAction Nat := do
  if new < old then
    return old
  else
    let start ← Word.roundUp old
    addRun (permissions.union { read := true, user := true }) old start
      ((new - start + (pageSize - 1)) / pageSize)
    return new

/-- Makes the first page, with the program `code` at its beginning. -/
def firstPage (code : List UInt8) : SpaceAction Unit := do
  Action.crashUnless (code.length < pageSize) .firstPageTooLong
  addPage 0 code { read := true, write := true, exec := true, user := true }

/-- Withdraws the page that holds `address` from user code. -/
def clearUser (address : Nat) : SpaceAction Unit := do
  let _ ← Action.orCrash (.clearWithoutEntry address) (← lookup address)
  updateEntry address fun entry => entry.remove { user := true }

end AddressSpace

end DemandPaging
