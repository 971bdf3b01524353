import DemandPaging.AddressSpace.Growth

/-!
# Copies for a child

A fork copies the pages of a parent's memory into an empty child.  A page in a
frame gets a frame of its own with the same contents; frames and swap slots are
never shared.

If both spaces are under paging they have the same places and slots, and each
page keeps the place, the state, the recency and the slot that it has in the
parent.  In any other case the child gets every page in a frame and enrolls it
itself, as it does with new pages.
-/

namespace DemandPaging

/-- A parent and the child that receives a copy of its memory. -/
structure Fork (Member : Type) where
  parent : Member
  child : Member

/-- An operation on a parent and its child. -/
abbrev ForkAction (Member Result : Type) : Type :=
  Action (Hosted (Fork Member)) Result

namespace Fork

variable {Member Result : Type}

/-- Runs an operation on the parent. -/
def inParent (action : Action (Hosted Member) Result) :
    ForkAction Member Result :=
  Hosted.within Fork.parent (fun parent fork => { fork with parent }) action

/-- Runs an operation on the child. -/
def inChild (action : Action (Hosted Member) Result) :
    ForkAction Member Result :=
  Hosted.within Fork.child (fun child fork => { fork with child }) action

end Fork

/-- A fork of an address space under way. -/
abbrev SpaceFork (Result : Type) : Type :=
  ForkAction AddressSpace Result

namespace AddressSpace

open Fork

/-- The contents of a swap slot of the parent. -/
def loadFromParent (slot : Nat) : SpaceFork (List UInt8) :=
  inParent (onDevice (SwapDevice.load slot))

/-- Makes an entry with the flags `flags` for a page in swap. -/
def markPagedOut (page : Nat) (flags : Flags) : SpaceAction Unit := do
  let entry ← onTable (Action.step fun table => table.walk page true)
  let _ ← Action.orFail .outOfMemory entry
  updateEntry page fun _ => Entry.point 0 flags

/-- Claims the slot `slot` for a page, stores `contents` in it and makes the
entry of the page.  On failure the slot goes back. -/
def receiveSlot (page slot : Nat) (contents : List UInt8) (flags : Flags) :
    SpaceAction Unit := do
  onSlots (Action.change fun swap => swap.claimAt slot)
  (onDevice (SwapDevice.store slot contents)).onFailure fun _ =>
    releaseSlot slot
  (markPagedOut page flags).onFailure fun _ => releaseSlot slot

/-- Copies a page that is in the parent's slot `slot` to the child's slot of
the same number. -/
def copySlot (page slot : Nat) (flags : Flags) : SpaceFork Unit := do
  let contents ← loadFromParent slot
  inChild (receiveSlot page slot contents flags)

/-- Copies a page that is in the parent's frame `source` to a new frame of the
child. -/
def copyFrame (page source : Nat) (flags : Flags) : SpaceFork Unit := do
  let frame ← inChild takeFrame
  let contents ← inParent (readFrame source)
  inChild do
    writeFrame frame contents.toList
    place page frame flags

/-- Copies a page to a child with the same places and slots. -/
def adoptPage (page : Nat) (entry : Entry) (handle : Nat) (tracked : Tracked) :
    SpaceFork Unit := do
  if entry.isPagedOut then
    let slot ← Action.orCrash (.forkWithoutSlot page) tracked.residence.slot?
    copySlot page slot entry.flags
  else
    copyFrame page entry.address entry.flags
  inChild (onLedger (Action.change fun ledger => ledger.adopt handle tracked))

/-- What a page of the parent holds, wherever it is. -/
def readParent (page : Nat) (entry : Entry) (tracked : Option Tracked) :
    SpaceFork (List UInt8) := do
  if entry.isPagedOut then
    let slot ← Action.orCrash (.forkWithoutSlot page)
      (tracked.bind fun tracked => tracked.residence.slot?)
    loadFromParent slot
  else
    let contents ← inParent (readFrame entry.address)
    return contents.toList

/-- Copies a page to a frame of a child that enrolls it itself. -/
def enrollPage (page : Nat) (entry : Entry) (tracked : Option Tracked) :
    SpaceFork Unit := do
  let frame ← inChild takeFrame
  let contents ←
    (readParent page entry tracked).onFailure fun _ =>
      inChild (releaseFrame frame)
  inChild do
    writeFrame frame contents
    install page frame
      { entry.flags with pagedOut := false, valid := true }

/-- Copies a page that the parent tracks. -/
def copyTracked (page : Nat) (entry : Entry) : SpaceFork Unit := do
  let fork ← Action.read Hosted.focus
  let handle ←
    Action.orCrash (.forkNotTracked page) (fork.parent.ledger.find? page)
  let tracked ← fork.parent.ledger.get handle
  if fork.child.isPaging then
    adoptPage page entry handle tracked
  else
    enrollPage page entry (some tracked)

/-- Copies the page at `page`, which the parent must have. -/
def copyPage (page : Nat) : SpaceFork Unit := do
  let entry ←
    Action.orCrash (.forkWithoutEntry page) (← inParent (lookup page))
  Action.crashUnless entry.isPresent (.forkNotPresent page)
  Action.crashUnless (!(entry.isValid && entry.isPagedOut)) (.forkBoth page)
  if ← inParent (look isPaging) then
    copyTracked page entry
  else
    enrollPage page entry none

/-- Copies `count` pages, the first at `page`.  On failure every page below
the one that failed is taken from the child. -/
def copyRun (page : Nat) : (count : Nat) → SpaceFork Unit
  | 0 => return ()
  | count + 1 => do
    (copyPage page).onFailure fun _ =>
      inChild (unmap 0 (page / pageSize) true)
    copyRun (page + pageSize) count

/-- Do the two spaces have the same limits? -/
def sameLimits (fork : Fork AddressSpace) : Bool :=
  fork.parent.config.maxResident == fork.child.config.maxResident &&
    fork.parent.config.maxSwap == fork.child.config.maxSwap

/-- Are both spaces under paging? -/
def bothPaging (fork : Fork AddressSpace) : Bool :=
  fork.parent.isPaging && fork.child.isPaging

/-- Copies the first `size` bytes of the parent into the child.  If both are
under paging, the child's clock is set to the parent's. -/
def forkCopy (size : Nat) : SpaceFork Unit := do
  let fork ← Action.read Hosted.focus
  Action.crashUnless (!bothPaging fork || sameLimits fork) .forkLimitsDiffer
  copyRun 0 ((size + (pageSize - 1)) / pageSize)
  Action.runIf (bothPaging fork) do
    let generation ← inParent (look fun space => space.ledger.generation)
    inChild (onLedger (Action.modify fun ledger => { ledger with generation }))

end AddressSpace

end DemandPaging
