import Parley.Log.Level
import Parley.Record

/-!
# Logging settings

At which level, in which format and to which place log lines are written. The settings hold texts as
they were given; `LogSettings.validate` tells whether they make sense.
-/

namespace Parley

namespace Log

/-- The format of log lines. -/
inductive Format where
  | text
  | json
deriving DecidableEq, Repr

/-- Where log lines go. -/
inductive Output where
  | stdout
  | stderr
  | file
deriving DecidableEq, Repr

/-- Reads the name of a format. -/
def Format.parse (s : String) : Except String Format :=
  if s = "text" then .ok text
  else if s = "json" then .ok json
  else .error ("Invalid log format: " ++ s ++ " (must be 'json' or 'text')")

/-- Reads the name of an output. -/
def Output.parse (s : String) : Except String Output :=
  if s = "stdout" then .ok stdout
  else if s = "stderr" then .ok stderr
  else if s = "file" then .ok file
  else .error ("Invalid log output: " ++ s ++ " (must be 'stdout', 'stderr', or 'file')")

end Log

/-- The settings of logging. -/
structure LogSettings where
  level : String := "info"
  format : String := "text"
  output : String := "stderr"
  file : String := "agent-bridge.log"
  color : Bool := true
  /-- Levels for parts of the program. -/
  modules : Record String := .empty
deriving DecidableEq

instance : Inhabited LogSettings := ⟨{}⟩

/-- Format, output and level must be known, and are checked in this order. The levels in `modules`
are not looked at. -/
def LogSettings.validate (s : LogSettings) : Except String Unit := do
  let _ ← Log.Format.parse s.format
  let _ ← Log.Output.parse s.output
  if s.level = "off" ∨ (Log.Level.parse? s.level).isSome then return ()
  else throw ("Invalid log level: " ++ s.level)

end Parley
