/-!
# Process identifiers
-/

namespace DemandPaging

namespace Pid

/-- The highest pid of the operating system's own processes. -/
def lastOfSystem : Nat := 2

/-- Does the process belong to the operating system itself?  Its memory is
never paged. -/
def isOfSystem (pid : Nat) : Bool :=
  pid ≤ lastOfSystem

end Pid

end DemandPaging
