import DemandPaging.Action
import DemandPaging.Log.Event
import DemandPaging.Swap.Transfers

/-!
# What address spaces share

A host has the frame pools from which address spaces take their frames, the
transfers that failing swap devices still complete, and the events reported so
far.  Everything else about an address space is its own.  Operations therefore
run on a thing together with its host, and one that works on a part of the
thing reaches all of the host (`Hosted.within`).
-/

namespace DemandPaging

/-- The resources that address spaces share. -/
structure Host where
  /-- The frame pools, each named by its number. -/
  pools : Array FramePool
  transfers : Transfers := {}
  /-- What was reported, in order. -/
  events : Array Event := #[]

namespace Host

/-- The frame pool with the number `number`; an empty one if there is none. -/
def pool (host : Host) (number : Nat) : FramePool :=
  host.pools[number]?.getD (FramePool.new 0)

/-- The host with another frame pool under the number `number`. -/
def setPool (host : Host) (number : Nat) (pool : FramePool) : Host :=
  { host with pools := host.pools.setIfInBounds number pool }

/-- The host after an event. -/
def report (host : Host) (event : Event) : Host :=
  { host with events := host.events.push event }

theorem pool_setPool (host : Host) (number other : Nat) (pool : FramePool) :
    (host.setPool number pool).pool other =
      if number = other ∧ other < host.pools.size then pool
      else host.pool other := by
  simp only [Host.pool, setPool, Array.getElem?_setIfInBounds]
  by_cases same : number = other
  · subst same
    by_cases inside : number < host.pools.size <;> simp [inside]
  · simp [same]

@[simp]
theorem pool_report (host : Host) (event : Event) (number : Nat) :
    (host.report event).pool number = host.pool number :=
  rfl

end Host

/-- A thing together with the host that serves it. -/
structure Hosted (Focus : Type) where
  focus : Focus
  host : Host

namespace Hosted

variable {Whole Part Result : Type}

/-- Runs an operation on a part of a thing and on the host. -/
def within (part : Whole → Part) (replace : Part → Whole → Whole)
    (action : Action (Hosted Part) Result) : Action (Hosted Whole) Result :=
  Action.zoom (fun whole => ⟨part whole.focus, whole.host⟩)
    (fun changed whole => ⟨replace changed.focus whole.focus, changed.host⟩)
    action

/-- Runs an operation on the host alone. -/
def onHost (action : Action Host Result) : Action (Hosted Whole) Result :=
  Action.zoom Hosted.host (fun host whole => { whole with host }) action

/-- Runs an operation on a thing alone. -/
def onFocus (action : Action Whole Result) : Action (Hosted Whole) Result :=
  Action.zoom Hosted.focus (fun focus whole => { whole with focus }) action

/-- Reports an event. -/
def report (event : Event) : Action (Hosted Whole) Unit :=
  Action.modify fun whole => { whole with host := whole.host.report event }

/-- Reports events in order. -/
def reportAll : List Event → Action (Hosted Whole) Unit
  | [] => pure ()
  | event :: events => do
    report event
    reportAll events

end Hosted

end DemandPaging
