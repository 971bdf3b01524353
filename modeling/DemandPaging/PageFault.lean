import DemandPaging.AddressSpace.Residency

/-!
# Page faults

A fault on a page in swap brings the page back, if user code may make the
access at all.  A fault on a page in memory that allows the access comes from
a stale translation, and the access is made again.  Every other fault is an
error of the process.
-/

namespace DemandPaging

/-- How a fault was resolved. -/
inductive Resolution where
  /-- The page was brought in from swap. -/
  | pagedIn
  /-- The page was there; the access is made again. -/
  | retry
  deriving DecidableEq

/-- The name of a resolution. -/
def Resolution.name : Resolution → String
  | pagedIn => "PagedIn"
  | retry => "Retry"

namespace AddressSpace

/-- Refuses an access. -/
def denyAccess {Result : Type} (address : Nat) (access : Access) :
    SpaceAction Result := do
  Hosted.report (.denied access address)
  Action.fail (.badAddress address)

/-- Resolves a fault of an access to `address`. -/
def resolveFault (address : Nat) (access : Access) :
    SpaceAction Resolution := do
  count fun stats => { stats with faults := stats.faults + 1 }
  let page := Address.pageBase address
  Action.failUnless (page < addressLimit) (.badAddress address)
  match ← lookup page with
  | none => denyAccess address access
  | some entry =>
    if !entry.isPresent || !access.allowedBy entry.flags then
      denyAccess address access
    else if entry.isPagedOut then
      pageIn page
      return .pagedIn
    else
      Hosted.report (.spurious access address)
      return .retry

end AddressSpace

end DemandPaging
