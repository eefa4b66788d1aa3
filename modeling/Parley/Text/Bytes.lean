/-!
# Byte order

Texts ordered by the bytes of their UTF-8 encodings, the first difference deciding.
-/

namespace Parley.Text

/-- The UTF-8 encoding of a text. -/
def bytes (s : String) : List UInt8 := s.toByteArray.data.toList

/-- The encoding of `a` comes before that of `b`. -/
def before (a b : String) : Bool := decide (bytes a < bytes b)

end Parley.Text
