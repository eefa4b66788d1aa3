/-!
# Set-up errors
-/

namespace Parley

/-- Why settings could not be read or logging could not be set up. -/
inductive SetupError where
  | configuration (reason : String)
  | logging (reason : String)
deriving DecidableEq, Repr

/-- The text of an error. -/
def SetupError.text : SetupError → String
  | configuration reason => "Configuration error: " ++ reason
  | logging reason => "Logging setup failed: " ++ reason

end Parley
