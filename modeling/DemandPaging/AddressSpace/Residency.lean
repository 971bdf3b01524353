import DemandPaging.AddressSpace.Basic

/-!
# Pages in memory and in swap

How pages under paging come to be tracked, leave memory and come back.  At
most `maxResident` pages are in memory: where one more is to be, the policy
chooses another to leave first.

A page comes back into the place it had in the ledger.  If every swap slot is
taken at that moment, the page that leaves goes to the very slot that is being
given up, whose contents are by then in a frame.
-/

namespace DemandPaging

namespace AddressSpace

variable {Result : Type}

/-- Runs a transfer.  If it fails, `undo` runs, and the failure is counted and
reported. -/
def transfer (action : Action SwapDevice Result) (undo : SpaceAction Unit)
    (failure : TransferError → Event) : SpaceAction Result :=
  (onDevice action).onFailure fun error => do
    undo
    count fun stats => { stats with swapErrors := stats.swapErrors + 1 }
    match error with
    | .swapTransfer error => Hosted.report (failure error)
    | _ => pure ()

/-- Claims the lowest free swap slot. -/
def claimSlot : SpaceAction Nat := do
  let slot ← onSlots (Action.step fun swap => .ok swap.claim)
  Action.orCrash .swapFull slot

/-- The slot that a page leaves to: the one at hand, or a newly claimed one. -/
def targetSlot : (spare : Option Nat) → SpaceAction Nat
  | some slot => pure slot
  | none => claimSlot

/-- Lets the policy choose the page that leaves memory. -/
def selectVictim : SpaceAction Nat := do
  let victim ← onPolicy Policy.select
  Hosted.reportAll (victim.spared.map Event.spared)
  count fun stats => { stats with
    secondChances := stats.secondChances + victim.spared.length }
  return victim.handle

/-- Moves the policy's victim to swap: to the slot `spare`, whose contents are
no longer needed, or to a newly claimed one.  Gives the handle of the page that
left.  A failed transfer leaves the victim where it was. -/
def evictInto (spare : Option Nat) : SpaceAction Nat := do
  let slot ← targetSlot spare
  let handle ← selectVictim
  let victim ← onLedger (Action.inspect fun ledger => ledger.get handle)
  let page := victim.address
  let entry ← Action.orCrash (.victimEntry page none) (← lookup page)
  Action.crashUnless (entry.isValid && !entry.isPagedOut)
    (.victimEntry page (some entry))
  let contents ← readFrame entry.address
  transfer (SwapDevice.store slot contents.toList)
    (Action.runIf spare.isNone (releaseSlot slot))
    (Event.evictionFailed page slot)
  updateEntry page fun entry => Entry.pagedOut entry.flags
  releaseFrame entry.address
  onLedger (Action.change fun ledger => ledger.markSwapped handle page slot)
  count fun stats => { stats with evictions := stats.evictions + 1 }
  Hosted.report (.evicted page slot)
  return handle

/-- Moves the policy's victim to a newly claimed slot. -/
def evict : SpaceAction Nat :=
  evictInto none

/-- Makes a page resident at the place `handle` and gives it its first
recency. -/
def settleResident (handle page : Nat) : SpaceAction Unit := do
  onLedger (Action.change fun ledger => ledger.markResident handle page)
  let policy ← look fun space => space.config.policy
  onLedger (Action.change fun ledger => policy.onLoad ledger handle)

/-- Starts to track a page that was just mapped, with another page evicted
first if memory is full. -/
def track (address : Nat) : SpaceAction Unit := do
  let entry ← Action.orCrash (.enrollUnmapped address) (← lookup address)
  Action.crashUnless entry.isValid (.enrollUnmapped address)
  let ledger ← look AddressSpace.ledger
  Action.failUnless (!ledger.isFull) (.tooManyPages ledger.capacity)
  Action.runIf ledger.isResidentFull do
    let _ ← evict
  let handle ← onLedger (Action.read Ledger.reserve)
  settleResident (← Action.orCrash (.enrollWithoutPlace address) handle) address
  updateEntry address fun entry =>
    (entry.remove { pagedOut := true }).insert { valid := true }

/-- Tracks a page that was just mapped, if the space is under paging. -/
def enroll (address : Nat) : SpaceAction Unit := do
  Action.runIf (← look isPaging) (track address)

/-- Makes room in memory for the page that is coming back from the slot `slot`,
and gives the slot up or hands it to the page that leaves. -/
def makeRoom (slot : Nat) : SpaceAction Unit := do
  let isFull ← look fun space => space.ledger.isResidentFull
  let isHandedOver ← look fun space => isFull && space.swap.freeSlots == 0
  Action.runIf isFull do
    let _ ← evictInto (if isHandedOver then some slot else none)
  Action.runIf (!isHandedOver) (releaseSlot slot)

/-- Brings the page at `page` back from the slot `slot` to its place
`handle`. -/
def pageInFrom (handle slot page : Nat) : SpaceAction Unit := do
  let frame ← takeFrame
  let contents ← transfer (SwapDevice.load slot) (releaseFrame frame)
    (Event.pageInFailed page slot)
  writeFrame frame contents
  (makeRoom slot).onFailure fun _ => releaseFrame frame
  updateEntry page fun entry => Entry.resident frame entry.flags
  settleResident handle page
  count fun stats => { stats with pageIns := stats.pageIns + 1 }
  Hosted.report (.pagedIn page slot)

/-- Brings the page at `page`, which is in swap, back to its place. -/
def pageInSwapped (page : Nat) : SpaceAction Unit := do
  let ledger ← look AddressSpace.ledger
  let handle ← Action.orCrash (.pageInNotSwapped page) (ledger.find? page)
  let tracked ← ledger.get handle
  let slot ←
    Action.orCrash (.pageInNotSwapped page) tracked.residence.slot?
  pageInFrom handle slot page

/-- Brings the page that holds `address` back into memory.  A page in memory
is left alone; an address that is in neither memory nor swap is bad. -/
def pageIn (address : Nat) : SpaceAction Unit := do
  let page := Address.pageBase address
  Action.failUnless (page < addressLimit) (.badAddress page)
  let entry ← Action.orFail (.badAddress page) (← lookup page)
  match entry.isValid, entry.isPagedOut with
  | true, true => Action.crash (.pageInBoth page)
  | true, false => return ()
  | false, false => Action.fail (.badAddress page)
  | false, true => pageInSwapped page

/-- Lets the policy age the resident pages.  Gives the number of pages that
were aged. -/
def age : SpaceAction Nat := do
  count fun stats => { stats with ticks := stats.ticks + 1 }
  match ← onPolicy Policy.onTick with
  | none => return 0
  | some aged =>
    Hosted.report (.aged aged)
    return aged

/-- A tick of the scheduler, which a space that is not under paging does not
notice.  Gives the number of pages that were aged. -/
def tick : SpaceAction Nat := do
  if ← look isPaging then age else return 0

end AddressSpace

end DemandPaging
