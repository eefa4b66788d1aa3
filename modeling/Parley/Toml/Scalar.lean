import Parley.Json
import Parley.Text.Hex

/-!
# TOML: keys and scalars

The lexical level of TOML: blanks and comments, strings in their four forms, keys, and numbers. Data
is given as JSON trees, which hold the same kinds of scalars. Functions that read give what they
read and the characters after it.
-/

namespace Parley.Toml

/-! ### Blanks, comments and ends of lines -/

/-- Skips blanks within a line. -/
def skipBlanks (cs : List Char) : List Char := cs.dropWhile fun c => c = ' ' || c = '\t'

/-- A control character that may not stand in strings or comments. -/
def isForbidden (c : Char) : Bool := (c.toNat < 32 && c ≠ '\t') || c.toNat = 127

/-- Skips blanks and a comment, up to the end of the line. -/
def skipComment (cs : List Char) : Option (List Char) :=
  match skipBlanks cs with
  | '#' :: cs =>
    let ends (c : Char) : Bool := c = '\n' || c = '\r'
    if (cs.takeWhile (!ends ·)).any isForbidden then none else some (cs.dropWhile (!ends ·))
  | cs => some cs

/-- Skips one end of line. -/
def newline? : List Char → Option (List Char)
  | '\n' :: cs => some cs
  | '\r' :: '\n' :: cs => some cs
  | _ => none

/-- Skips what may follow a statement: a comment and the end of the line or of the text. -/
def endLine (cs : List Char) : Option (List Char) := do
  let cs ← skipComment cs
  if cs = [] then return [] else newline? cs

/-- Skips blanks, comments and ends of lines. -/
def skipLines : Nat → List Char → Option (List Char)
  | 0, cs => some cs
  | fuel + 1, cs => do
    let cs ← skipComment cs
    match newline? cs with
    | some cs => skipLines fuel cs
    | none => return cs

/-! ### Strings -/

/-- Reads the rest of an escape after its backslash. -/
def readEscape : List Char → Option (Char × List Char)
  | 'b' :: cs => some ('\x08', cs)
  | 't' :: cs => some ('\t', cs)
  | 'n' :: cs => some ('\n', cs)
  | 'f' :: cs => some ('\x0c', cs)
  | 'r' :: cs => some ('\r', cs)
  | '"' :: cs => some ('"', cs)
  | '\\' :: cs => some ('\\', cs)
  | 'u' :: cs => numbered 4 cs
  | 'U' :: cs => numbered 8 cs
  | _ => none
where
  /-- Reads a character given by its number. -/
  numbered (width : Nat) (cs : List Char) : Option (Char × List Char) := do
    let (n, cs) ← Text.hexPrefix? width cs
    let c ← Text.charOfNat? n
    return (c, cs)

/-- Reads a basic string after its opening quote. -/
def readBasic : Nat → List Char → Option (List Char × List Char)
  | 0, _ => none
  | _ + 1, [] => none
  | fuel + 1, c :: cs =>
    if c = '"' then some ([], cs)
    else do
      let (c, cs) ← if c = '\\' then readEscape cs else if isForbidden c then none else some (c, cs)
      let (s, cs) ← readBasic fuel cs
      return (c :: s, cs)

/-- Reads a literal string after its opening quote. -/
def readLiteral (cs : List Char) : Option (List Char × List Char) :=
  let s := cs.takeWhile (· ≠ '\'')
  match cs.dropWhile (· ≠ '\'') with
  | _ :: rest => if s.any isForbidden then none else some (s, rest)
  | [] => none

/-- The end of a string of several lines: three quotes. One or two more before them belong to the
string; quotes beyond those stand after it. -/
def closing? (quote : Char) (cs : List Char) : Option (List Char × List Char) :=
  let quotes := cs.takeWhile (· = quote)
  if quotes.length < 3 then none
  else
    let inner := min 2 (quotes.length - 3)
    some (quotes.take inner, cs.drop (inner + 3))

/-- Skips blanks and ends of lines. -/
def skipGap : List Char → List Char
  | ' ' :: cs | '\t' :: cs | '\n' :: cs => skipGap cs
  | '\r' :: '\n' :: cs => skipGap cs
  | cs => cs

/-- Reads the rest of a string of several lines. With escapes, a backslash at the end of a line
joins it with the next text that is not blank. -/
def readLines (quote : Char) (escapes : Bool) : Nat → List Char → Option (List Char × List Char)
  | 0, _ => none
  | fuel + 1, cs =>
    match closing? quote cs with
    | some found => some found
    | none =>
      match cs with
      | [] => none
      | c :: cs =>
        if escapes ∧ c = '\\' then
          if (newline? (skipBlanks cs)).isSome then readLines quote escapes fuel (skipGap cs)
          else do
            let (c, cs) ← readEscape cs
            let (s, cs) ← readLines quote escapes fuel cs
            return (c :: s, cs)
        else
          match newline? (c :: cs) with
          | some cs => do
            let (s, cs) ← readLines quote escapes fuel cs
            return ('\n' :: s, cs)
          | none =>
            if isForbidden c then none
            else do
              let (s, cs) ← readLines quote escapes fuel cs
              return (c :: s, cs)

/-- Reads a string of any form. An end of line right after three opening quotes does not count. -/
def readString (fuel : Nat) : List Char → Option (List Char × List Char)
  | '"' :: '"' :: '"' :: cs => readLines '"' true fuel ((newline? cs).getD cs)
  | '\'' :: '\'' :: '\'' :: cs => readLines '\'' false fuel ((newline? cs).getD cs)
  | '"' :: cs => readBasic fuel cs
  | '\'' :: cs => readLiteral cs
  | _ => none

/-! ### Keys -/

/-- A character of a bare key. -/
def isBare (c : Char) : Bool := c.isAlphanum || c = '_' || c = '-'

/-- Reads one key. -/
def readKey (fuel : Nat) : List Char → Option (String × List Char)
  | '"' :: cs => (readBasic fuel cs).map fun (s, cs) => (String.ofList s, cs)
  | '\'' :: cs => (readLiteral cs).map fun (s, cs) => (String.ofList s, cs)
  | cs =>
    let s := cs.takeWhile isBare
    if s = [] then none else some (String.ofList s, cs.dropWhile isBare)

/-- How many keys may stand in one dotted key, and how many brackets may be open around a value. -/
def maxDepth : Nat := 79

/-- Reads keys with dots between them: the ones before the last, and the last. -/
def readKeyList : Nat → List Char → Option ((List String × String) × List Char)
  | 0, _ => none
  | fuel + 1, cs => do
    let (key, cs) ← readKey fuel (skipBlanks cs)
    match skipBlanks cs with
    | '.' :: cs =>
      let ((before, last), cs) ← readKeyList fuel cs
      return ((key :: before, last), cs)
    | cs => return (([], key), cs)

/-- Reads a dotted key, which may not have too many parts. -/
def readKeys (fuel : Nat) (cs : List Char) : Option ((List String × String) × List Char) :=
  (readKeyList fuel cs).filter fun ((before, _), _) => before.length < maxDepth

/-! ### Numbers -/

/-- Digits in which single underscores may stand between two digits. -/
def plainDigits? (isDigit : Char → Bool) : List Char → Option (List Char)
  | [] => none
  | [c] => if isDigit c then some [c] else none
  | c :: '_' :: cs => if isDigit c then (plainDigits? isDigit cs).map (c :: ·) else none
  | c :: cs => if isDigit c then (plainDigits? isDigit cs).map (c :: ·) else none

/-- Decimal digits without a leading zero, unless the zero stands alone. -/
def wholeDigits? (cs : List Char) : Option (List Char) := do
  let ds ← plainDigits? Char.isDigit cs
  if ds.head? = some '0' ∧ ds.length ≠ 1 then none else return ds

/-- A sign, if there is one, and the characters after it. -/
def splitSign : List Char → Option Bool × List Char
  | '+' :: cs => (some false, cs)
  | '-' :: cs => (some true, cs)
  | cs => (none, cs)

/-- The number that digits in a base stand for. -/
def ofDigits (base : Nat) (ds : List Char) : Nat :=
  ds.foldl (fun n c => base * n + (Text.hexDigit? c).getD 0) 0

/-- The integer that a word stands for, within sixty-four bits. -/
def int? (word : List Char) : Option Int := do
  let (sign, cs) := splitSign word
  let n : Int ← match cs with
    | '0' :: 'x' :: ds => unsigned sign 16 (plainDigits? (fun c => (Text.hexDigit? c).isSome) ds)
    | '0' :: 'o' :: ds => unsigned sign 8 (plainDigits? (fun c => '0' ≤ c ∧ c ≤ '7') ds)
    | '0' :: 'b' :: ds => unsigned sign 2 (plainDigits? (fun c => c = '0' || c = '1') ds)
    | ds => (wholeDigits? ds).map fun ds =>
      if sign = some true then -(ofDigits 10 ds : Int) else ofDigits 10 ds
  if -0x8000000000000000 ≤ n ∧ n < 0x8000000000000000 then return n else none
where
  /-- Numbers in other bases than ten have no sign. -/
  unsigned (sign : Option Bool) (base : Nat) (ds : Option (List Char)) : Option Int :=
    if sign.isSome then none else ds.map fun ds => (ofDigits base ds : Int)

/-- The double that a word stands for. A number too large for a double is refused, unless it has a
minus sign. -/
def double? (word : List Char) : Option Double := do
  let (sign, cs) := splitSign word
  let negative := sign = some true
  let signed (bits : Nat) : Double :=
    ⟨UInt64.ofNat (bits + if negative then 0x8000000000000000 else 0)⟩
  if cs = "inf".toList then return signed 0x7ff0000000000000
  if cs = "nan".toList then return signed 0x7ff8000000000000
  let isMark (c : Char) : Bool := c = '.' || c = 'e' || c = 'E'
  let whole ← wholeDigits? (cs.takeWhile (!isMark ·))
  let (fraction, cs) ← match cs.dropWhile (!isMark ·) with
    | '.' :: cs =>
      (plainDigits? Char.isDigit (cs.takeWhile (!isMark ·))).map (·, cs.dropWhile (!isMark ·))
    | [] => none
    | cs => some ([], cs)
  let exponent : Int ← match cs with
    | [] => some 0
    | c :: cs =>
      if c = '.' then none
      else
        let (sign, ds) := splitSign cs
        (plainDigits? Char.isDigit ds).map fun ds =>
          if sign = some true then -(ofDigits 10 ds : Int) else ofDigits 10 ds
  let d := Double.ofDecimal negative (ofDigits 10 (whole ++ fraction)) (exponent - fraction.length)
  if d.isFinite ∨ negative then return d else none

/-- The truth value or number that a word stands for. -/
def scalar? (word : List Char) : Option Json :=
  if word = "true".toList then some (.bool true)
  else if word = "false".toList then some (.bool false)
  else
    match int? word with
    | some n => some (.int n)
    | none => (double? word).map .double

end Parley.Toml
