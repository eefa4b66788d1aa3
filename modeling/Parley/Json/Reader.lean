import Parley.Json.Number
import Parley.Text.Hex

/-!
# Reading JSON

`Json.parse` reads a document, or says what is wrong with it. The functions take fuel, one unit for
each step; twice the length of the text is always enough, since at least every other step reads a
character. Those that read values also take the number of brackets that may still be opened.
-/

namespace Parley.Json

/-- Skips white space. -/
def skipSpace (cs : List Char) : List Char :=
  cs.dropWhile fun c => c = ' ' || c = '\t' || c = '\n' || c = '\r'

/-! ### Strings -/

/-- Reads four hexadecimal digits. -/
def readUnit (cs : List Char) : Except Fault (Nat × List Char) :=
  match Text.hexPrefix? 4 cs with
  | some found => .ok found
  | none =>
    if byteCount cs < 4 then .error (.before .endInString [])
    else .error ⟨.invalidEscape, byteCount cs - 4⟩

/-- Skips one given character inside an escape. -/
def skipInside (mark : Char) : List Char → Except Fault (List Char)
  | [] => .error (.before .endInString [])
  | c :: cs => if c = mark then .ok cs else .error (.at .brokenPair (c :: cs))

/-- Reads the number of a character. Characters beyond the sixteen-bit range are written as two
halves, the second with an escape of its own. -/
def readNumbered (cs : List Char) : Except Fault (Char × List Char) := do
  let (n, cs) ← readUnit cs
  if 0xdc00 ≤ n ∧ n < 0xe000 then .error (.before .lonelyHalf cs)
  else if 0xd800 ≤ n ∧ n < 0xdc00 then
    let (low, cs) ← readUnit (← skipInside 'u' (← skipInside '\\' cs))
    if 0xdc00 ≤ low ∧ low < 0xe000 then
      return (Char.ofNat (0x10000 + (n - 0xd800) * 0x400 + (low - 0xdc00)), cs)
    else .error (.before .lonelyHalf cs)
  else return (Char.ofNat n, cs)

/-- Reads the rest of an escape after its backslash. -/
def readEscape : List Char → Except Fault (Char × List Char)
  | '"' :: cs => .ok ('"', cs)
  | '\\' :: cs => .ok ('\\', cs)
  | '/' :: cs => .ok ('/', cs)
  | 'b' :: cs => .ok ('\x08', cs)
  | 'f' :: cs => .ok ('\x0c', cs)
  | 'n' :: cs => .ok ('\n', cs)
  | 'r' :: cs => .ok ('\r', cs)
  | 't' :: cs => .ok ('\t', cs)
  | 'u' :: cs => readNumbered cs
  | [] => .error (.before .endInString [])
  | cs => .error (.at .invalidEscape cs)

/-- Reads a string after its opening quote. -/
def readString : Nat → List Char → Except Fault (List Char × List Char)
  | 0, _ => .error (.before .endInString [])
  | _ + 1, [] => .error (.before .endInString [])
  | fuel + 1, c :: cs => do
    if c = '"' then return ([], cs)
    let (c, cs) ←
      if c = '\\' then readEscape cs
      else if c.toNat < 32 then .error (.before .controlCharacter cs)
      else .ok (c, cs)
    let (s, cs) ← readString fuel cs
    return (c :: s, cs)

/-! ### Values -/

/-- Reads the rest of a word that stands for a value. -/
def readWord (j : Json) : List Char → List Char → Except Fault (Json × List Char)
  | [], cs => .ok (j, cs)
  | _ :: _, [] => .error (.before .endInValue [])
  | w :: ws, c :: cs => if c = w then readWord j ws cs else .error (.at .wordWanted (c :: cs))

mutual

/-- Reads a value. -/
def readValue : Nat → Nat → List Char → Except Fault (Json × List Char)
  | 0, _, cs => .error (.at .valueWanted cs)
  | fuel + 1, depth, cs =>
    match skipSpace cs, depth with
    | [], _ => .error (.at .endInValue [])
    | 'n' :: cs, _ => readWord null ['u', 'l', 'l'] cs
    | 't' :: cs, _ => readWord (bool true) ['r', 'u', 'e'] cs
    | 'f' :: cs, _ => readWord (bool false) ['a', 'l', 's', 'e'] cs
    | '"' :: cs, _ => (readString fuel cs).map fun (s, cs) => (string (String.ofList s), cs)
    | '-' :: cs, _ => readNumber true cs
    | '[' :: cs, 0 | '\x7b' :: cs, 0 => .error (.at .tooDeep ('[' :: cs))
    | '[' :: cs, depth + 1 =>
      match skipSpace cs with
      | ']' :: cs => .ok (array [], cs)
      | [] => .error (.at .endInArray [])
      | cs => (readItems fuel depth cs).map fun (items, cs) => (array items, cs)
    | '\x7b' :: cs, depth + 1 =>
      match skipSpace cs with
      | '\x7d' :: cs => .ok (object [], cs)
      | [] => .error (.at .endInObject [])
      | cs => (readEntries fuel depth cs).map fun (entries, cs) => (object entries, cs)
    | c :: cs, _ =>
      if c.isDigit then readNumber false (c :: cs) else .error (.at .valueWanted (c :: cs))

/-- Reads the items of an array, of which there is at least one, and the closing bracket. -/
def readItems : Nat → Nat → List Char → Except Fault (List Json × List Char)
  | 0, _, cs => .error (.at .valueWanted cs)
  | fuel + 1, depth, cs => do
    let (item, cs) ← readValue fuel depth cs
    match skipSpace cs with
    | ']' :: cs => return ([item], cs)
    | ',' :: cs =>
      match skipSpace cs with
      | ']' :: cs => .error (.at .trailingComma (']' :: cs))
      | cs =>
        let (items, cs) ← readItems fuel depth cs
        return (item :: items, cs)
    | [] => .error (.at .endInArray [])
    | cs => .error (.at .itemEndWanted cs)

/-- Reads the entries of an object, of which there is at least one, and the closing brace. -/
def readEntries : Nat → Nat → List Char → Except Fault (List (String × Json) × List Char)
  | 0, _, cs => .error (.at .keyWanted cs)
  | fuel + 1, depth, cs =>
    match cs with
    | [] => .error (.at .endInValue [])
    | '"' :: cs => do
      let (key, cs) ← readString fuel cs
      match skipSpace cs with
      | [] => .error (.at .endInObject [])
      | ':' :: cs =>
        let (value, cs) ← readValue fuel depth cs
        let entry := (String.ofList key, value)
        match skipSpace cs with
        | '\x7d' :: cs => return ([entry], cs)
        | ',' :: cs =>
          match skipSpace cs with
          | '\x7d' :: cs => .error (.at .trailingComma ('\x7d' :: cs))
          | cs =>
            let (entries, cs) ← readEntries fuel depth cs
            return (entry :: entries, cs)
        | [] => .error (.at .endInObject [])
        | cs => .error (.at .entryEndWanted cs)
      | cs => .error (.at .colonWanted cs)
    | cs => .error (.at .keyWanted cs)

end

/-- How many brackets may be open at once. -/
def maxDepth : Nat := 127

/-- Reads a document. -/
def parse (s : String) : Except Fault Json := do
  let cs := s.toList
  let (j, rest) ← readValue (2 * cs.length + 2) maxDepth cs
  match skipSpace rest with
  | [] => return j
  | rest => .error (.at .trailingCharacters rest)

end Parley.Json
