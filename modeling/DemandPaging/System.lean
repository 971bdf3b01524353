import DemandPaging.Log.Event

/-!
# Bringing the system up

A system has at most one logger, which is the first one installed, and at most
one frame pool, which is the first one made.  Events reach the console only if
the console is that logger.
-/

namespace DemandPaging

/-- Who receives the log. -/
inductive Logger where
  | console
  | foreign
  deriving DecidableEq

/-- The state of a system as a whole. -/
structure System where
  logger : Option Logger := none
  /-- The threshold of the log; without one it is off. -/
  threshold : Option Level := none
  console : Console := {}
  framePool : Option FramePool := none

namespace System

/-- Installs a logger other than the console.  Says whether it became the
logger. -/
def installForeign (system : System) : Bool × System :=
  match system.logger with
  | none => (true, { system with logger := some .foreign })
  | some _ => (false, system)

/-- Installs the console and sets the threshold.  Says whether the console is
the logger. -/
def installConsole (system : System) (threshold : Option Level) :
    Bool × System :=
  let logger := system.logger.getD .console
  (decide (logger = .console),
    { system with logger := some logger, threshold })

/-- Reports an event to the logger. -/
def report (system : System) (event : Event) : System :=
  if system.logger = some .console then
    { system with
      console := system.console.report system.threshold event }
  else
    system

/-- The system's frame pool, which is made with `frames` frames if there is
none. -/
def makeFramePool (system : System) (frames : Nat) : FramePool × System :=
  match system.framePool with
  | some pool => (pool, system)
  | none =>
    let pool := FramePool.new frames
    (pool,
      { system.report (.framePoolMade frames) with framePool := some pool })

/-- The system's frame pool. -/
def getFramePool (system : System) : Except Fatal FramePool :=
  match system.framePool with
  | some pool => .ok pool
  | none => .error .noFramePool

/-- Brings up the log and the frame pool. -/
def start (system : System) (frames : Nat) (threshold : Option Level) :
    FramePool × System :=
  let (_, system) := system.installConsole threshold
  let (pool, system) := system.makeFramePool frames
  (pool, system.report .started)

end System

end DemandPaging
