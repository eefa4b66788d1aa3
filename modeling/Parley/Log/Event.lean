import Parley.Log.Level

/-!
# Log events

What happens is reported as events: a level, the part of the program it comes from, a message, and
named details. An event may stand inside spans, which name the activity that it belongs to.
-/

namespace Parley.Log

/-- The value of a detail. -/
inductive Detail where
  /-- A text, which stands in quotes in a line of text. -/
  | quoted (s : String)
  /-- A text that stands as it is. -/
  | plain (s : String)
  | int (n : Int)
deriving DecidableEq, Repr

/-- The bare text of a detail. -/
def Detail.text : Detail → String
  | quoted s => s
  | plain s => s
  | int n => toString n

/-- An activity that events can stand in. -/
structure Span where
  level : Level
  target : String
  name : String
  fields : List (String × Detail)
deriving DecidableEq, Repr

/-- A log event. -/
structure Event where
  level : Level
  /-- The part of the program that reports it. -/
  target : String
  message : String
  fields : List (String × Detail)
  /-- The activities that it stands in, the outermost first. -/
  spans : List Span := []
deriving DecidableEq, Repr

end Parley.Log
