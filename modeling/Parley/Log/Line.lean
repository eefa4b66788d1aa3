import Parley.Json
import Parley.Log.Event
import Parley.Text.Quoted

/-!
# Log lines

An event as a line: plain text, text with terminal colours, or a JSON object. Lines of text give the
time, the level, the spans around the event, the part of the program, the message, and the details.
The time is a text that the caller supplies.
-/

namespace Parley.Log

/-- Terminal styles. -/
inductive Style where
  | bold
  | dim
  | italic
  | level (l : Level)
deriving DecidableEq, Repr

/-- The terminal's number for a style. -/
def Style.code : Style → Nat
  | bold => 1
  | dim => 2
  | italic => 3
  | level .error => 31
  | level .warn => 33
  | level .info => 32
  | level .debug => 34
  | level .trace => 35

/-- A piece of a line in a style; without colours a piece stands as it is. -/
def paint (color : Bool) (style : Style) (s : String) : String :=
  if color then "\x1b[" ++ toString style.code ++ "m" ++ s ++ "\x1b[0m" else s

/-- The value of a detail in a line of text. -/
def Detail.shown : Detail → String
  | quoted s => Text.quoted s
  | plain s => s
  | int n => toString n

/-- A named detail in a line of text. -/
def shownField (color : Bool) (f : String × Detail) : String :=
  paint color .italic f.1 ++ paint color .dim "=" ++ f.2.shown

/-- A span in a line of text. -/
def Span.shown (color : Bool) (s : Span) : String :=
  let fields := String.intercalate " " (s.fields.map (shownField color))
  paint color .bold s.name
    ++ (if s.fields = [] then ""
        else paint color .bold "\x7b" ++ fields ++ paint color .bold "\x7d")
    ++ paint color .dim ":"

/-- Level names are right-aligned in a column of five. -/
def Level.column (l : Level) : String :=
  String.ofList (List.replicate (5 - l.label.length) ' ') ++ l.label

/-- The line of text for an event. -/
def Event.textLine (color : Bool) (time : String) (e : Event) : String :=
  paint color .dim time ++ " " ++ paint color (.level e.level) e.level.column ++ " "
    ++ (if e.spans = [] then "" else String.join (e.spans.map (Span.shown color)) ++ " ")
    ++ paint color .dim e.target ++ paint color .dim ":" ++ " "
    ++ String.intercalate " " (e.message :: e.fields.map (shownField color))

/-- A detail in a JSON line. -/
def Detail.toJson : Detail → Json
  | quoted s => .string s
  | plain s => .string s
  | int n => .int n

/-- A span in a JSON line. -/
def Span.toJson (s : Span) : Json :=
  .object ((s.fields.map fun f => (f.1, f.2.toJson)) ++ [("name", .string s.name)])

/-- The JSON line for an event. The innermost span stands alone once more. -/
def Event.toJson (time : String) (e : Event) : Json :=
  .object
    ([("timestamp", .string time),
      ("level", .string e.level.label),
      ("fields",
        .object (("message", .string e.message) :: e.fields.map fun f => (f.1, f.2.toJson))),
      ("target", .string e.target)]
    ++ match e.spans.getLast? with
      | some innermost =>
        [("span", innermost.toJson), ("spans", .array (e.spans.map Span.toJson))]
      | none => [])

end Parley.Log
