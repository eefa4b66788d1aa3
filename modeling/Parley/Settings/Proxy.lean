import Parley.Text.Blank

/-!
# Proxy settings

Which manager a proxy speaks to, and through which actor and entry point.
-/

namespace Parley

/-- The settings of a proxy. -/
structure ProxySettings where
  managerId : String := ""
  actorName : String := "AgentQuery"
  entryPoint : String := "Query"
deriving DecidableEq, Repr, Inhabited

namespace ProxySettings

/-- The text holds nothing but white space. -/
def isVacant (s : String) : Bool := Text.trim s == ""

/-- None of the three may be vacant; the first that is gives the error. -/
def validate (p : ProxySettings) : Except String Unit :=
  if isVacant p.managerId then .error "Manager id cannot be empty"
  else if isVacant p.actorName then .error "Actor name cannot be empty"
  else if isVacant p.entryPoint then .error "Entry point cannot be empty"
  else .ok ()

end ProxySettings

end Parley
