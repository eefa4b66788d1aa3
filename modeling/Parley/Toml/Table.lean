import Parley.Entries
import Parley.Json

/-!
# TOML: tables under construction

A TOML text defines its tables piece by piece, and no piece may be defined twice. A table therefore
remembers how it came about: from a header of its own, on the way to a header further in, or from a
dotted key.
-/

namespace Parley.Toml

/-- How a table came about. -/
inductive Origin where
  | header
  /-- It stands above a table with a header. -/
  | implied
  | dotted
deriving DecidableEq, Repr

/-- A value, a table, or an array of tables, while the text is being read. -/
inductive Node where
  | value (j : Json)
  | table (origin : Origin) (entries : List (String × Node))
  | tables (items : List (List (String × Node)))

/-- The entries of a table. -/
abbrev Table := List (String × Node)

namespace Table

/-- Applies `f` to the table that a path of headers leads to. Tables on the way are made where there
are none; an array of tables leads on into its last table. -/
def atPath (f : Table → Option Table) : List String → Table → Option Table
  | [], t => f t
  | k :: ks, t =>
    match Entries.get? t k with
    | none => do
      let sub ← atPath f ks []
      return Entries.insert t k (.table .implied sub)
    | some (.table origin sub) => do
      let sub ← atPath f ks sub
      return Entries.insert t k (.table origin sub)
    | some (.tables items) => do
      let last ← items.getLast?
      let last ← atPath f ks last
      return Entries.insert t k (.tables (items.dropLast ++ [last]))
    | some (.value _) => none

/-- Opens a table by its header. It may not have been opened before, but tables inside it may. -/
def open? (k : String) (t : Table) : Option Table :=
  match Entries.get? t k with
  | none => some (Entries.insert t k (.table .header []))
  | some (.table .implied sub) => some (Entries.insert t k (.table .header sub))
  | _ => none

/-- Opens one more table of an array of tables. -/
def openNext? (k : String) (t : Table) : Option Table :=
  match Entries.get? t k with
  | none => some (Entries.insert t k (.tables [[]]))
  | some (.tables items) => some (Entries.insert t k (.tables (items ++ [[]])))
  | _ => none

/-- Defines a key, perhaps a dotted one. Dotted keys add to tables that dotted keys have made, and
to no others, though they may lead through tables above headers and through the last table of an
array. -/
def define? (j : Json) (last : String) : List String → Table → Option Table
  | [], t => if (Entries.get? t last).isSome then none else some (Entries.insert t last (.value j))
  | k :: ks, t =>
    match Entries.get? t k with
    | none => do
      let sub ← define? j last ks []
      return Entries.insert t k (.table .dotted sub)
    | some (.table .dotted sub) => do
      let sub ← define? j last ks sub
      return Entries.insert t k (.table .dotted sub)
    | some (.table .implied sub) => do
      if ks = [] then none
      let sub ← define? j last ks sub
      return Entries.insert t k (.table .implied sub)
    | some (.tables items) => do
      if ks = [] then none
      let sub ← define? j last ks (← items.getLast?)
      return Entries.insert t k (.tables (items.dropLast ++ [sub]))
    | _ => none

end Table

mutual

/-- The finished value. -/
def Node.toJson : Node → Json
  | .value j => j
  | .table _ entries => .object (entriesToJson entries)
  | .tables items => .array (tablesToJson items)

def entriesToJson : List (String × Node) → List (String × Json)
  | [] => []
  | (k, n) :: es => (k, n.toJson) :: entriesToJson es

def tablesToJson : List (List (String × Node)) → List Json
  | [] => []
  | t :: ts => .object (entriesToJson t) :: tablesToJson ts

end

end Parley.Toml
