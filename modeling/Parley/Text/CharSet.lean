import Parley.Text.Ranges

/-!
# Sets of characters

Sets of characters, put together from ranges, and the sets that have names.
-/

namespace Parley.Text

/-- A set of characters. -/
inductive CharSet where
  | within (rs : Ranges)
  | outside (a : CharSet)
  | either (a b : CharSet)
  | both (a b : CharSet)
deriving DecidableEq, Repr

namespace CharSet

/-- The character is in the set. -/
def has : CharSet → Char → Bool
  | within rs, c => rs.has c
  | outside a, c => !a.has c
  | either a b, c => a.has c || b.has c
  | both a b, c => a.has c && b.has c

/-- The set of no character. -/
def none : CharSet := within []

/-- The set of the characters from the first one to the last one. -/
def range (first last : Char) : CharSet := within [(first.toNat, last.toNat)]

/-- The set of one character. -/
def just (c : Char) : CharSet := range c c

/-- The characters of the first set that are not in the second. -/
def without (a b : CharSet) : CharSet := both a (outside b)

/-- The characters that are in one of the sets but not in the other. -/
def oneOf (a b : CharSet) : CharSet := either (a.without b) (b.without a)

/-- The sets of ASCII characters that have names. -/
def ofName? (name : String) : Option CharSet :=
  (ranges.lookup name).map within
where
  /-- The ranges of each named set. -/
  ranges : List (String × Ranges) :=
    [("alnum", [(0x30, 0x39), (0x41, 0x5a), (0x61, 0x7a)]),
     ("alpha", [(0x41, 0x5a), (0x61, 0x7a)]),
     ("ascii", [(0x00, 0x7f)]),
     ("blank", [(0x09, 0x09), (0x20, 0x20)]),
     ("cntrl", [(0x00, 0x1f), (0x7f, 0x7f)]),
     ("digit", [(0x30, 0x39)]),
     ("graph", [(0x21, 0x7e)]),
     ("lower", [(0x61, 0x7a)]),
     ("print", [(0x20, 0x7e)]),
     ("punct", [(0x21, 0x2f), (0x3a, 0x40), (0x5b, 0x60), (0x7b, 0x7e)]),
     ("space", [(0x09, 0x0d), (0x20, 0x20)]),
     ("upper", [(0x41, 0x5a)]),
     ("word", [(0x30, 0x39), (0x41, 0x5a), (0x5f, 0x5f), (0x61, 0x7a)]),
     ("xdigit", [(0x30, 0x39), (0x41, 0x46), (0x61, 0x66)])]

end CharSet

end Parley.Text
