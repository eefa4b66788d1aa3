import Parley.Record
import Parley.Value

/-!
# Shapes

A `Shape` describes a type of values that cross to the agent: primitives, binary objects and literal
texts, closed under optionals, lists, records, structs and unions. `Shape.Val` is the type that a
shape describes: a struct is the product of its fields and a union the sum of its candidates.
-/

namespace Parley

/-- The integer types that travel as numbers. -/
inductive IntKind where
  | uint32
  | int64
  | uint64
deriving DecidableEq, Repr

namespace IntKind

/-- The words of an integer type. -/
abbrev Word : IntKind → Type
  | uint32 => UInt32
  | int64 => Int64
  | uint64 => UInt64

/-- The integer that a word stands for. -/
def toInt : (k : IntKind) → k.Word → Int
  | uint32, n => n.toNat
  | int64, n => n.toInt
  | uint64, n => n.toNat

/-- The word that stands for an integer in the range of the type. -/
def ofInt : (k : IntKind) → Int → k.Word
  | uint32, n => UInt32.ofNat n.toNat
  | int64, n => Int64.ofInt n
  | uint64, n => UInt64.ofNat n.toNat

/-- The name of the type. -/
def label : IntKind → String
  | uint32 => "u32"
  | int64 => "i64"
  | uint64 => "u64"

/-- The largest integer up to which every integer is a double of its own. -/
def maxSafe : Int := 0x1fffffffffffff

/-- The least integer of the type that may travel. -/
def least : IntKind → Int
  | int64 => -maxSafe
  | _ => 0

/-- The greatest integer of the type that may travel. -/
def greatest : IntKind → Int
  | uint32 => 0xffffffff
  | _ => maxSafe

/-- The integer may travel as one of this type. -/
def inRange (k : IntKind) (n : Int) : Bool := k.least ≤ n && n ≤ k.greatest

end IntKind

/-- A field has a name of its own and the name of the property that it travels as. -/
structure Label where
  name : String
  wire : String
deriving DecidableEq, Repr

/-- A description of a type of values. -/
inductive Shape where
  | bool
  | number
  | string
  | int (kind : IntKind)
  /-- The explicit null. -/
  | null
  /-- No content: whatever stands there is ignored. -/
  | unit
  | blob (kind : BlobKind)
  /-- One text only. -/
  | literal (text : String)
  /-- Present or undefined. -/
  | option (content : Shape)
  | list (item : Shape)
  | record (entry : Shape)
  | struct (name : String) (fields : List (Label × Shape))
  /-- Candidates in the order in which they are tried. -/
  | union (name : String) (variants : List (String × Shape))

namespace Shape

mutual

/-- The type that a shape describes. A binary shape does not fix the kind of the binary object that
it is given to send; what it reads has the declared kind. -/
def Val : Shape → Type
  | bool => Bool
  | number => Double
  | string => String
  | int kind => kind.Word
  | null => Unit
  | unit => Unit
  | blob _ => Blob
  | literal _ => Unit
  | option content => Option content.Val
  | list item => List item.Val
  | record entry => Record entry.Val
  | struct _ fields => FieldVals fields
  | union _ variants => VariantVal variants

/-- One value for each field. -/
def FieldVals : List (Label × Shape) → Type
  | [] => Unit
  | (_, s) :: fs => s.Val × FieldVals fs

/-- A value of one of the candidates. -/
def VariantVal : List (String × Shape) → Type
  | [] => Empty
  | (_, s) :: vs => s.Val ⊕ VariantVal vs

end

end Shape

end Parley
