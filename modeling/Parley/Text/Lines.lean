/-!
# Lines

The lines of a text. A line ends with a line feed, and a carriage return before it belongs to the
end.
-/

namespace Parley.Text

/-- The characters without a carriage return at the end. -/
def withoutReturn (cs : List Char) : List Char :=
  if cs.getLast? = some '\r' then cs.dropLast else cs

/-- The lines of a text after which a line feed stands. -/
def lines (s : String) : List String :=
  (s.splitOn "\n").map fun line => String.ofList (withoutReturn line.toList)

end Parley.Text
