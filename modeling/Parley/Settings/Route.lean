/-!
# Routes through settings

A key such as `logging.modules` or `hosts[2].name` leads through a settings tree by names and
positions. `Route.parse?` reads such keys.
-/

namespace Parley.Settings

/-- One step into a settings tree. A negative position counts from the end. -/
inductive Step where
  | name (name : String)
  | item (position : Int)
deriving DecidableEq, Repr

/-- The steps from a tree to one of its parts. -/
abbrev Route := List Step

namespace Route

/-- A character of a name. -/
def isNameChar (c : Char) : Bool := c.isAlphanum || c = ' ' || c = '_' || c = '-'

/-- Reads a name. -/
def readName (cs : List Char) : Option (String × List Char) :=
  let name := cs.takeWhile isNameChar
  if name = [] then none else some (String.ofList name, cs.dropWhile isNameChar)

/-- Reads a position and the closing bracket. Spaces may stand around the number. -/
def readPosition (cs : List Char) : Option (Int × List Char) := do
  let isSpace (c : Char) : Bool := c = ' ' || c = '\t'
  let (negative, cs) := match cs.dropWhile isSpace with
    | '-' :: cs => (true, cs)
    | cs => (false, cs)
  let ds := cs.takeWhile Char.isDigit
  let n : Nat := ds.foldl (fun n c => 10 * n + (c.toNat - '0'.toNat)) 0
  if ds = [] ∨ 0x8000000000000000 ≤ n then none
  match (cs.dropWhile Char.isDigit).dropWhile isSpace with
  | ']' :: cs => return (if negative then -(n : Int) else n, cs)
  | _ => none

/-- Reads the steps after the first. -/
def readSteps : Nat → List Char → Option Route
  | _, [] => some []
  | 0, _ => none
  | fuel + 1, '.' :: cs => do
    let (name, cs) ← readName cs
    return .name name :: (← readSteps fuel cs)
  | fuel + 1, '[' :: cs => do
    let (position, cs) ← readPosition cs
    return .item position :: (← readSteps fuel cs)
  | _ + 1, _ => none

/-- Reads a key: a name, then names after dots and positions in brackets. -/
def parse? (key : String) : Option Route := do
  let cs := key.toList
  let (name, rest) ← readName cs
  return .name name :: (← readSteps cs.length rest)

/-- The route of a key. One that cannot be read is a name as a whole. -/
def ofKey (key : String) : Route := (parse? key).getD [.name key]

end Route

end Parley.Settings
