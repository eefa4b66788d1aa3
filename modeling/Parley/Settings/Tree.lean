import Parley.Entries
import Parley.Json
import Parley.Settings.Route
import Parley.Text.Case

/-!
# Settings trees

What the sources of settings say, as trees whose nodes remember their source. Names count in lower
case, however they are written.

Trees are merged name by name (`Tree.onto`, `Tree.addAll`): a later tree decides what it mentions,
and leaves everything else as it is.
-/

namespace Parley.Settings

/-- A settings value without parts. -/
inductive Scalar where
  | nil
  | bool (b : Bool)
  | int (n : Int)
  | double (d : Double)
  | string (s : String)
deriving DecidableEq, Repr

/-- A settings tree. The origin of a node is the source that gave it; a table that arises by merging
has none. -/
inductive Tree where
  | scalar (origin : Option String) (s : Scalar)
  | list (origin : Option String) (items : List Tree)
  | table (origin : Option String) (entries : List (String × Tree))

instance : Inhabited Tree := ⟨.table none []⟩

namespace Tree

/-- The node that stands where nothing has been said. -/
def nil : Tree := .scalar none .nil

/-- The table without entries. -/
def empty : Tree := .table none []

/-- Where a node comes from. -/
def origin : Tree → Option String
  | scalar origin _ => origin
  | list origin _ => origin
  | table origin _ => origin

/-! ### From documents -/

/-- The integer can be written with sixty-four bits. -/
def fits (n : Int) : Bool := -0x8000000000000000 ≤ n && n < 0x8000000000000000

mutual

/-- The tree of a document from a source. Integers beyond sixty-four bits become doubles, and of
entries with the same key the last one counts. -/
def ofJson (source : Option String) : Json → Tree
  | .null => scalar source .nil
  | .bool b => scalar source (.bool b)
  | .int n => scalar source (if fits n then .int n else .double (.ofInt n))
  | .double d => scalar source (.double d)
  | .string s => scalar source (.string s)
  | .array items => list source (ofItems source items)
  | .object entries => table source (Entries.ofList (ofEntries source entries))

def ofItems (source : Option String) : List Json → List Tree
  | [] => []
  | j :: js => ofJson source j :: ofItems source js

def ofEntries (source : Option String) : List (String × Json) → List (String × Tree)
  | [] => []
  | (k, j) :: es => (k, ofJson source j) :: ofEntries source es

end

/-! ### Parts -/

/-- The entry of a table under a name. -/
def get? : Tree → String → Option Tree
  | table _ entries, name => Entries.get? entries (Text.lower name)
  | _, _ => none

/-- Sets the entry under a name. A node that is no table gives way to one. -/
def put : Tree → String → Tree → Tree
  | table origin entries, name, t => table origin (Entries.insert entries (Text.lower name) t)
  | _, name, t => table none [(Text.lower name, t)]

/-- The name that was just set has the new entry, in whatever case it is asked for. -/
theorem get?_put_self (t : Tree) {name name' : String} (h : Text.lower name' = Text.lower name)
    (u : Tree) : (t.put name u).get? name' = some u := by
  cases t with
  | table origin entries => simp [put, get?, h, Entries.get?_insert_self]
  | scalar origin s => simp [put, get?, h, Entries.get?]
  | list origin items => simp [put, get?, h, Entries.get?]

/-- The items of a list; other nodes have none. -/
def items : Tree → List Tree
  | list _ items => items
  | _ => []

/-- The place of a position among items; a negative one is counted from the end. -/
def place (items : List Tree) (position : Int) : Nat :=
  if 0 ≤ position then position.toNat else items.length - position.natAbs

/-- The item at a position. -/
def item? (t : Tree) (position : Int) : Option Tree := t.items[place t.items position]?

/-- Sets the item at a position, with nodes that say nothing before it where items are missing. A
node that is no list gives way to one. -/
def putItem (t : Tree) (position : Int) (u : Tree) : Tree :=
  let n := place t.items position
  let origin := match t with
    | list origin _ => origin
    | _ => none
  list origin ((t.items ++ List.replicate (n + 1 - t.items.length) nil).set n u)

/-! ### Merging -/

mutual

/-- What stands in a place after a tree has been merged into it. Anything but a table replaces what
was there. -/
def onto (before : Option Tree) : Tree → Tree
  | table _ entries => addAll (before.getD empty) entries
  | scalar origin s => scalar origin s
  | list origin items => list origin items

/-- Merges entries into a tree one after the other. -/
def addAll (t : Tree) : List (String × Tree) → Tree
  | [] => t
  | (name, u) :: es => addAll (t.put name (onto (t.get? name) u)) es

end

/-- Merges a tree into the place that a route leads to. Nodes on the way are made where there are
none, and give way where they are of the wrong kind. -/
def assign (u : Tree) : Route → Tree → Tree
  | [], _ => u
  | [.name name], t => t.put name (onto (t.get? name) u)
  | .name name :: route, t => t.put name (assign u route ((t.get? name).getD nil))
  | .item position :: route, t => t.putItem position (assign u route ((t.item? position).getD nil))

end Tree

end Parley.Settings
