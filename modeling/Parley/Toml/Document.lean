import Parley.Toml.Moment
import Parley.Toml.Scalar
import Parley.Toml.Table

/-!
# TOML documents

`Toml.parse?` reads a document: tables with headers, arrays of tables, dotted and inline tables,
strings, integers, floating-point numbers, truth values, dates and times, arrays and comments. The
functions take fuel, one unit for each step; those that read values also take the number of brackets
that may still be opened.
-/

namespace Parley.Toml

mutual

/-- Reads a value. A date or a time is a text. -/
def readValue : Nat → Nat → List Char → Option (Json × List Char)
  | 0, _, _ => none
  | fuel + 1, depth, cs =>
    match cs, depth with
    | '"' :: _, _ | '\'' :: _, _ =>
      (readString fuel cs).map fun (s, cs) => (.string (String.ofList s), cs)
    | '[' :: cs, depth + 1 => (readItems fuel depth cs).map fun (items, cs) => (.array items, cs)
    | '\x7b' :: cs, depth + 1 =>
      match skipBlanks cs with
      | '\x7d' :: cs => some (.object [], cs)
      | cs => (readPairs fuel depth cs []).map fun (t, cs) => (.object (entriesToJson t), cs)
    | cs, _ =>
      match Moment.read? cs with
      | some (m, cs) => some (.string m.text, cs)
      | none =>
        let isWord (c : Char) : Bool := isBare c || c = '+' || c = '.'
        (scalar? (cs.takeWhile isWord)).map (·, cs.dropWhile isWord)

/-- Reads the items of an array and the closing bracket. A comma may follow the last item. -/
def readItems : Nat → Nat → List Char → Option (List Json × List Char)
  | 0, _, _ => none
  | fuel + 1, depth, cs => do
    match ← skipLines fuel cs with
    | ']' :: cs => return ([], cs)
    | cs =>
      let (item, cs) ← readValue fuel depth cs
      match ← skipLines fuel cs with
      | ',' :: cs =>
        let (items, cs) ← readItems fuel depth cs
        return (item :: items, cs)
      | ']' :: cs => return ([item], cs)
      | _ => none

/-- Reads the pairs of an inline table, of which there is at least one, and the closing brace. -/
def readPairs : Nat → Nat → List Char → Table → Option (Table × List Char)
  | 0, _, _, _ => none
  | fuel + 1, depth, cs, t => do
    let ((before, last), cs) ← readKeys fuel cs
    match cs with
    | '=' :: cs =>
      let (j, cs) ← readValue fuel depth (skipBlanks cs)
      let t ← Table.define? j last before t
      match skipBlanks cs with
      | ',' :: cs => readPairs fuel depth cs t
      | '\x7d' :: cs => return (t, cs)
      | _ => none
    | _ => none

end

/-- Reads the statements of a document. `here` is the path of the header that the statements stand
under. -/
def readStatements : Nat → List Char → List String → Table → Option Table
  | 0, _, _, _ => none
  | fuel + 1, cs, here, t => do
    match ← skipLines fuel cs with
    | [] => return t
    | '[' :: '[' :: cs =>
      let ((before, last), cs) ← readKeys fuel cs
      match cs with
      | ']' :: ']' :: cs =>
        let t ← Table.atPath (Table.openNext? last) before t
        readStatements fuel (← endLine cs) (before ++ [last]) t
      | _ => none
    | '[' :: cs =>
      let ((before, last), cs) ← readKeys fuel cs
      match cs with
      | ']' :: cs =>
        let t ← Table.atPath (Table.open? last) before t
        readStatements fuel (← endLine cs) (before ++ [last]) t
      | _ => none
    | cs =>
      let ((before, last), cs) ← readKeys fuel cs
      match cs with
      | '=' :: cs =>
        let (j, cs) ← readValue fuel maxDepth (skipBlanks cs)
        let t ← Table.atPath (Table.define? j last before) here t
        readStatements fuel (← endLine cs) here t
      | _ => none

/-- Reads a document into the entries of its outermost table. A byte order mark may stand first. -/
def parse? (s : String) : Option (List (String × Json)) := do
  let cs := match s.toList with
    | '\ufeff' :: cs => cs
    | cs => cs
  let t ← readStatements (2 * cs.length + 2) cs [] []
  return entriesToJson t

end Parley.Toml
