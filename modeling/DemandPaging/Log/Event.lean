import DemandPaging.Access
import DemandPaging.Config
import DemandPaging.FramePool
import DemandPaging.Log.Console

/-!
# Events

What the system reports of its work, as data.  Each kind of event has a level,
a target that names the part of the system it comes from, and a wording.
-/

namespace DemandPaging

/-- Something that happened and may be logged. -/
inductive Event where
  | framePoolMade (frames : Nat)
  | started
  | spaceMade (config : Config) (isPaging : Bool)
  | processMade (pid : Nat) (isPaging : Bool)
  | processExited (pid bytes : Nat)
  /-- A page went to a swap slot. -/
  | evicted (page slot : Nat)
  | evictionFailed (page slot : Nat) (error : TransferError)
  /-- A page came from a swap slot. -/
  | pagedIn (page slot : Nat)
  | pageInFailed (page slot : Nat) (error : TransferError)
  /-- A referenced page was spared by the second-chance policy. -/
  | spared (page : Nat)
  /-- The references of resident pages aged by a tick. -/
  | aged (count : Nat)
  /-- An access was denied. -/
  | denied (access : Access) (address : Nat)
  /-- An access faulted though it was permitted and the page was there. -/
  | spurious (access : Access) (address : Nat)
  deriving DecidableEq

namespace Event

/-- The name of this system in its own log. -/
def systemName : String := "swapvm"

/-- The version of this system in its own log. -/
def systemVersion : String := "0.1.0"

def level : Event → Level
  | framePoolMade _ => .info
  | started => .info
  | spaceMade _ _ => .debug
  | processMade _ _ => .debug
  | processExited _ _ => .debug
  | evicted _ _ => .debug
  | evictionFailed _ _ _ => .warn
  | pagedIn _ _ => .debug
  | pageInFailed _ _ _ => .warn
  | spared _ => .trace
  | aged _ => .trace
  | denied _ _ => .debug
  | spurious _ _ => .trace

def target : Event → String
  | framePoolMade _ => systemName ++ "::vm::frame"
  | started => systemName
  | spaceMade _ _ => systemName ++ "::vm::space"
  | processMade _ _ => systemName ++ "::proc"
  | processExited _ _ => systemName ++ "::proc"
  | evicted _ _ => systemName ++ "::vm::space"
  | evictionFailed _ _ _ => systemName ++ "::vm::space"
  | pagedIn _ _ => systemName ++ "::vm::space"
  | pageInFailed _ _ _ => systemName ++ "::vm::space"
  | spared _ => systemName ++ "::vm::policy"
  | aged _ => systemName ++ "::vm::policy"
  | denied _ _ => systemName ++ "::vm::fault"
  | spurious _ _ => systemName ++ "::vm::fault"

open Text in
/-- The wording of an event. -/
def message : Event → String
  | framePoolMade frames =>
    s!"frame pool: {frames} frames at {hexLiteral FramePool.base}"
  | started =>
    s!"{systemName} {systemVersion}: default policy " ++
      s!"{Policy.standard.name}, {Config.standardResident} resident / " ++
      s!"{Config.standardTotal} total pages per process"
  | spaceMade config isPaging =>
    s!"address space: policy {config.policy.name} paging={isPaging} " ++
      s!"resident<={config.maxResident} swap<={config.maxSwap}"
  | processMade pid isPaging => s!"pid {pid}: paging {isPaging}"
  | processExited pid bytes => s!"pid {pid}: exited, {bytes} bytes released"
  | evicted page slot => s!"evict: {hexLiteral page} -> swap slot {slot}"
  | evictionFailed page slot error =>
    s!"evict: writing {hexLiteral page} to slot {slot} failed: " ++
      error.message
  | pagedIn page slot => s!"fault_in: {hexLiteral page} <- swap slot {slot}"
  | pageInFailed page slot error =>
    s!"fault_in: reading {hexLiteral page} from slot {slot} failed: " ++
      error.message
  | spared page => s!"scfifo: second chance for {hexLiteral page}"
  | aged count => s!"aged {count} resident pages"
  | denied access address =>
    s!"segfault: {access.name} at {hexLiteral address}"
  | spurious access address =>
    s!"spurious {access.name} fault at {hexLiteral address}"

end Event

/-- Logs an event, if the threshold lets it through. -/
def Console.report (console : Console) (threshold : Option Level)
    (event : Event) : Console :=
  console.log threshold event.level event.target [event.message]

end DemandPaging
