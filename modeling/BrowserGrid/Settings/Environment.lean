/-!
# The environment of a process

The variables that a process was started with, and the home folder of the account that it runs
under, which counts when no variable names one.
-/

namespace BrowserGrid

/-- The environment of a process. -/
structure Environment where
  /-- The variables. -/
  entries : List (String × String) := []
  /-- The home folder of the account. -/
  accountHome : Option String := none
  deriving DecidableEq, Inhabited

namespace Environment

/-- The value of a variable. -/
def get? (e : Environment) (name : String) : Option String :=
  (e.entries.find? (·.1 = name)).map (·.2)

/-- The value of a variable that is not empty. -/
def filled? (e : Environment) (name : String) : Option String := (e.get? name).filter (!·.isEmpty)

/-- The home folder. -/
def home? (e : Environment) : Option String := (e.filled? "HOME").or e.accountHome

end Environment

end BrowserGrid
