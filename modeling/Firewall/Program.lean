/-!
# The program

The name and version that the program gives itself in what it writes.
-/

namespace Firewall.Program

/-- The name of the program. -/
def name : String := "melt"

/-- The version of the program. -/
def version : String := "1.0.0"

end Firewall.Program
