import Parley.Settings.Error
import Parley.Settings.Logging
import Parley.Settings.Proxy

/-!
# Settings
-/

namespace Parley

/-- The settings of a proxy and of logging. -/
structure Settings where
  proxy : ProxySettings := {}
  logging : LogSettings := {}
deriving DecidableEq

instance : Inhabited Settings := ⟨{}⟩

/-- A section of the settings that is not valid, and why. -/
inductive Invalid where
  | proxy (reason : String)
  | logging (reason : String)
deriving DecidableEq, Repr

/-- The text of an invalid section. -/
def Invalid.text : Invalid → String
  | proxy reason => "Proxy: " ++ reason
  | logging reason => "Logging: " ++ reason

namespace Settings

/-- The sections that are not valid. -/
def invalid (s : Settings) : List Invalid :=
  (match s.proxy.validate with
    | .ok () => []
    | .error reason => [.proxy reason])
  ++ match s.logging.validate with
    | .ok () => []
    | .error reason => [.logging reason]

/-- The settings if all sections are valid. -/
def checked (s : Settings) : Except SetupError Settings :=
  match s.invalid with
  | [] => .ok s
  | wrong =>
    .error (.configuration
      ("Configuration validation failed:\n" ++ String.intercalate "\n" (wrong.map Invalid.text)))

end Settings

end Parley
