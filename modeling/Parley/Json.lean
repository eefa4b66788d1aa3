import Parley.Decimal.Layout
import Parley.Text.Bytes

/-!
# JSON

JSON documents as trees, and their compact text. Integers and doubles are kept apart: an integer is
written with its digits alone, a double so that it cannot be taken for an integer.
-/

namespace Parley

/-- A JSON document. -/
inductive Json where
  | null
  | bool (b : Bool)
  | int (n : Int)
  | double (d : Double)
  | string (s : String)
  | array (items : List Json)
  | object (entries : List (String × Json))
deriving Inhabited

namespace Json

/-- Adds an entry to entries that are ordered by the bytes of their keys. An entry that stands
there already stays. -/
def insertSorted (key : String) (j : Json) : List (String × Json) → List (String × Json)
  | [] => [(key, j)]
  | (k, i) :: es =>
    if k = key then (k, i) :: es
    else if Text.before key k then (key, j) :: (k, i) :: es
    else (k, i) :: insertSorted key j es

/-- A hexadecimal digit in lower case. -/
def hexDigit (n : Nat) : Char := Nat.digitChar n

/-- One character inside a JSON string: only what the format demands is escaped. -/
def escape (c : Char) : List Char :=
  if c = '"' then ['\\', '"']
  else if c = '\\' then ['\\', '\\']
  else if c = '\x08' then ['\\', 'b']
  else if c = '\x0c' then ['\\', 'f']
  else if c = '\n' then ['\\', 'n']
  else if c = '\r' then ['\\', 'r']
  else if c = '\t' then ['\\', 't']
  else if c.toNat < 32 then ['\\', 'u', '0', '0', hexDigit (c.toNat / 16), hexDigit (c.toNat % 16)]
  else [c]

/-- A JSON string. -/
def quote (s : String) : String := String.ofList ('"' :: s.toList.flatMap escape ++ ['"'])

mutual

/-- The compact text of a document. A double that is not finite has no JSON text of its own and is
written as `null`. -/
def text : Json → String
  | null => "null"
  | bool b => if b then "true" else "false"
  | int n => toString n
  | double d => if d.isFinite then Layout.json.write d else "null"
  | string s => quote s
  | array items => "[" ++ String.intercalate "," (itemTexts items) ++ "]"
  | object entries => "\x7b" ++ String.intercalate "," (entryTexts entries) ++ "\x7d"

def itemTexts : List Json → List String
  | [] => []
  | j :: js => text j :: itemTexts js

def entryTexts : List (String × Json) → List String
  | [] => []
  | (k, j) :: es => (quote k ++ ":" ++ text j) :: entryTexts es

end

end Json

end Parley
