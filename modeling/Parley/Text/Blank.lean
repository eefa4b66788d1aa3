import Parley.Text.Ranges

/-!
# White space

The characters with the White_Space property, and texts without them at their ends.
-/

namespace Parley.Text

/-- White space. -/
def blankRanges : Ranges :=
  [(0x09, 0x0d), (0x20, 0x20), (0x85, 0x85), (0xa0, 0xa0), (0x1680, 0x1680), (0x2000, 0x200a),
   (0x2028, 0x2029), (0x202f, 0x202f), (0x205f, 0x205f), (0x3000, 0x3000)]

/-- The character is white space. -/
def isBlank (c : Char) : Bool := blankRanges.has c

/-- The characters between the white space at both ends. -/
def trimList (cs : List Char) : List Char :=
  ((cs.dropWhile isBlank).reverse.dropWhile isBlank).reverse

/-- The text between the white space at both ends. -/
def trim (s : String) : String := String.ofList (trimList s.toList)

end Parley.Text
