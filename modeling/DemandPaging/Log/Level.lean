/-!
# Log levels

How grave a log record is, and which records a threshold lets through.
-/

namespace DemandPaging

/-- The gravity of a log record. -/
inductive Level where
  | error
  | warn
  | info
  | debug
  | trace
  deriving DecidableEq

namespace Level

/-- The place of a level, the gravest first. -/
def rank : Level → Nat
  | error => 1
  | warn => 2
  | info => 3
  | debug => 4
  | trace => 5

def name : Level → String
  | error => "ERROR"
  | warn => "WARN"
  | info => "INFO"
  | debug => "DEBUG"
  | trace => "TRACE"

/-- Does a threshold let records of this level through?  Without a threshold
logging is off. -/
def passes (level : Level) (threshold : Option Level) : Bool :=
  match threshold with
  | some least => level.rank ≤ least.rank
  | none => false

end Level

end DemandPaging
