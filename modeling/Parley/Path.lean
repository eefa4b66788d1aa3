import Parley.Text.Quoted

/-!
# Paths into values

Where inside a value something was found: a struct field, an item of an array, or an entry of a
record, outermost first.
-/

namespace Parley

/-- One step from a value to a part of it. -/
inductive Segment where
  | field (name : String)
  | index (n : Nat)
  | key (key : String)
deriving DecidableEq, Repr

/-- The steps from a value to one of its parts. -/
abbrev Path := List Segment

/-- A field is written after a dot, an item in brackets, and the key of an entry in brackets and
quotes. -/
def Segment.text : Segment → String
  | field name => "." ++ name
  | index n => "[" ++ toString n ++ "]"
  | key k => "[" ++ Text.quoted k ++ "]"

/-- The text of a path; the value itself is `$`. -/
def Path.text (p : Path) : String := "$" ++ String.join (p.map Segment.text)

end Parley
