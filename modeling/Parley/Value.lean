import Parley.Entries
import Parley.Json

/-!
# Dynamic values

The values that cross to the agent: what a script could hold, with numbers split into small integers
and doubles the way script engines store them, and with binary objects that nobody looks into.

* `Value.number` is the normal form of a number: a small integer where that loses nothing.
* `Value.same` compares values the way a program does; it is not reflexive at a not-a-number.
* `Value.toJson` renders a value for inspection.
* `Value.WellFormed` says that no object holds a key twice. Every operation here keeps it.
-/

namespace Parley

/-- A raw byte buffer, or a typed view over one. -/
inductive BlobKind where
  | buffer
  | view
deriving DecidableEq, Repr

/-- A binary object. -/
structure Blob where
  kind : BlobKind
  bytes : List UInt8
deriving DecidableEq

/-- The name of a kind in a rendered value. -/
def BlobKind.label : BlobKind → String
  | .buffer => "buffer"
  | .view => "view"

/-- The number of bytes. -/
def Blob.size (b : Blob) : Nat := b.bytes.length

/-- The text of a binary object shows its kind and size, never its bytes. -/
def Blob.text (b : Blob) : String :=
  let kind := match b.kind with
    | .buffer => "Buffer"
    | .view => "View"
  "OpaqueBinary \x7b kind: " ++ kind ++ ", byte_length: " ++ toString b.size ++ " \x7d"

/-- A dynamic value. -/
inductive Value where
  | undefined
  | null
  | bool (b : Bool)
  | int (n : Int32)
  | double (d : Double)
  | string (s : String)
  | array (items : List Value)
  | object (entries : List (String × Value))
  | blob (b : Blob)
deriving Inhabited

namespace Value

/-- The undefined value. -/
def isUndefined : Value → Bool
  | undefined => true
  | _ => false

/-! ### Numbers -/

/-- The normal form of a number: doubles that equal a 32-bit integer become that integer, except
minus zero, which would lose its sign. -/
def number (d : Double) : Value :=
  match d.toInt? with
  | some n =>
    if -0x80000000 ≤ n ∧ n < 0x80000000 ∧ d ≠ Double.negativeZero then int (Int32.ofInt n)
    else double d
  | none => double d

/-- The number that a value holds, in whichever representation. -/
def number? : Value → Option Double
  | int n => some (Double.ofInt n.toInt)
  | double d => some d
  | _ => none

/-! ### Equality -/

mutual

/-- Equality as a program sees it: integers and doubles are different, doubles are compared as
numbers, and the order of properties counts. -/
def same : Value → Value → Bool
  | undefined, undefined => true
  | null, null => true
  | bool a, bool b => a == b
  | int a, int b => a == b
  | double a, double b => a.same b
  | string a, string b => a == b
  | array a, array b => sameItems a b
  | object a, object b => sameEntries a b
  | blob a, blob b => a == b
  | _, _ => false

def sameItems : List Value → List Value → Bool
  | [], [] => true
  | a :: as, b :: bs => same a b && sameItems as bs
  | _, _ => false

def sameEntries : List (String × Value) → List (String × Value) → Bool
  | [], [] => true
  | (k, a) :: as, (l, b) :: bs => k == l && same a b && sameEntries as bs
  | _, _ => false

end

/-! ### Rendering -/

mutual

/-- A rendering for inspection. Undefined properties are dropped and other undefined values become
null, as do numbers that are not finite; binary objects show their kind and size only. Properties
are ordered by the bytes of their keys. -/
def toJson : Value → Json
  | undefined => .null
  | null => .null
  | bool b => .bool b
  | int n => .int n.toInt
  | double d => if d.isFinite then .double d else .null
  | string s => .string s
  | array items => .array (itemsToJson items)
  | object entries => .object (entriesToJson entries)
  | blob b => .object [("binary", .string b.kind.label), ("byteLength", .int b.size)]

def itemsToJson : List Value → List Json
  | [] => []
  | v :: vs => toJson v :: itemsToJson vs

def entriesToJson : List (String × Value) → List (String × Json)
  | [] => []
  | (k, v) :: es =>
    if v.isUndefined then entriesToJson es else Json.insertSorted k (toJson v) (entriesToJson es)

end

/-! ### Objects without repeated keys -/

mutual

/-- No object, at any depth, holds a key twice. -/
def WellFormed : Value → Prop
  | array items => WellFormedItems items
  | object entries => (Entries.keys entries).Nodup ∧ WellFormedEntries entries
  | _ => True

def WellFormedItems : List Value → Prop
  | [] => True
  | v :: vs => WellFormed v ∧ WellFormedItems vs

def WellFormedEntries : List (String × Value) → Prop
  | [] => True
  | (_, v) :: es => WellFormed v ∧ WellFormedEntries es

end

end Value

end Parley
