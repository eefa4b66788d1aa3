import Parley.Path
import Parley.Settings.Basic
import Parley.Settings.Tree

/-!
# Reading settings off trees

`Settings.read` takes settings from a tree in one of two manners. The strict manner takes texts for
texts and truth values for truth values. The lenient manner takes any scalar for a text, and numbers
and some words for truth values.

In both, a part that is not there has its usual value, a part that is not known does not count, and
a list may stand for a section, whose parts then come in their order.
-/

namespace Parley

namespace Settings

/-! ### Misfits -/

/-- Why a tree holds no settings: something else was found than what was wanted. -/
inductive Misfit where
  /-- A single value is of the wrong kind. -/
  | value (found wanted : String) (path : Path) (origin : Option String)
  /-- A group of values is of the wrong kind. -/
  | group (found wanted : String)
deriving DecidableEq, Repr

/-- The key that a path amounts to: names with dots between them, positions in brackets. -/
def keyText : Path → String
  | [] => ""
  | .index n :: path => "[" ++ toString n ++ "]" ++ keyText path
  | .field name :: path | .key name :: path =>
    let rest := keyText path
    if rest = "" ∨ rest.toList.head? = some '[' then name ++ rest else name ++ "." ++ rest

/-- The text of a misfit. -/
def Misfit.text : Misfit → String
  | value found wanted path origin =>
    "invalid type: " ++ found ++ ", expected " ++ wanted ++ " for key \x60" ++ keyText path
      ++ "\x60" ++ (match origin with
        | some source => " in " ++ source
        | none => "")
  | group found wanted => "invalid type: " ++ found ++ ", expected " ++ wanted

/-- How a double is shown where something else was wanted: never without a decimal point. -/
def pointedText (d : Double) : String :=
  let s := d.text
  if d.isFinite ∧ !(s.toList.contains '.') then s ++ ".0" else s

/-- How a scalar is shown where something else was wanted. -/
def Scalar.found : Scalar → String
  | nil => "unit value"
  | bool b => "boolean \x60" ++ (if b then "true" else "false") ++ "\x60"
  | int n => "integer \x60" ++ toString n ++ "\x60"
  | double d => "floating point \x60" ++ pointedText d ++ "\x60"
  | string s => "string " ++ Text.quoted s

/-- How a tree is shown where something else was wanted. -/
def Tree.found : Tree → String
  | scalar _ s => s.found
  | list _ _ => "sequence"
  | table _ _ => "map"

/-! ### Manners of reading -/

/-- A way of reading. A value that is wrong is described for the error. -/
structure Manner where
  text : Tree → Except String String
  flag : Tree → Except String Bool
  /-- A list that stands for a section may have more items than the section has parts. -/
  surplus : Bool

/-- Texts are texts and truth values are truth values. -/
def Manner.strict : Manner where
  text
    | .scalar _ (.string s) => .ok s
    | t => .error t.found
  flag
    | .scalar _ (.bool b) => .ok b
    | t => .error t.found
  surplus := false

/-- The truth value that a word stands for, in any case. -/
def wordFlag? (s : String) : Option Bool :=
  if ["1", "true", "on", "yes"].contains (Text.lower s) then some true
  else if ["0", "false", "off", "no"].contains (Text.lower s) then some false
  else none

/-- Every scalar but the empty one is a text; numbers other than zero are true. -/
def Manner.lenient : Manner where
  text
    | .scalar _ (.string s) => .ok s
    | .scalar _ (.int n) => .ok (toString n)
    | .scalar _ (.double d) => .ok d.text
    | .scalar _ (.bool b) => .ok (if b then "true" else "false")
    | t => .error t.found
  flag
    | .scalar _ (.bool b) => .ok b
    | .scalar _ (.int n) => .ok (decide (n ≠ 0))
    | .scalar _ (.double d) => .ok (!d.same ⟨0⟩)
    | .scalar _ (.string s) =>
      match wordFlag? s with
      | some b => .ok b
      | none => .error ("string " ++ Text.quoted (Text.lower s))
    | t => .error t.found
  surplus := true

/-! ### Reading -/

/-- A part of a tree, and the way to it. -/
structure Part where
  path : Path
  tree : Tree

/-- Reads a text. -/
def readText (m : Manner) (p : Part) : Except Misfit String :=
  (m.text p.tree).mapError fun found => .value found "a string" p.path p.tree.origin

/-- Reads a truth value. -/
def readFlag (m : Manner) (p : Part) : Except Misfit Bool :=
  (m.flag p.tree).mapError fun found => .value found "a boolean" p.path p.tree.origin

/-- The parts of a section that are there, under their names. -/
def readSection (m : Manner) (wanted : String) (names : List String) (p : Part) :
    Except Misfit (List (String × Part)) :=
  match p.tree with
  | .table _ entries => .ok (entries.map fun (k, t) => (k, ⟨p.path ++ [.field k], t⟩))
  | .list _ items =>
    if items.length ≤ names.length ∨ m.surplus then
      .ok ((names.zip items).zipIdx.map fun ((k, t), n) => (k, ⟨p.path ++ [.index n], t⟩))
    else .error (.group "sequence" wanted)
  | t => .error (.group t.found wanted)

/-- Reads a part of a section, which has its usual value if it is not there. -/
def readPart {α : Type} (read : Part → Except Misfit α) (usual : α) (parts : List (String × Part))
    (name : String) : Except Misfit α :=
  match Entries.get? parts name with
  | some p => read p
  | none => .ok usual

/-- Reads a table of texts. -/
def readTexts (m : Manner) (p : Part) : Except Misfit (Record String) :=
  match p.tree with
  | .table _ entries => do
    let pairs ← entries.mapM fun (k, t) => do
      let s ← readText m ⟨p.path ++ [.field k], t⟩
      return (k, s)
    return Record.ofList pairs
  | t => .error (.group t.found "a map")

end Settings

open Settings

/-- Reads the settings of a proxy. -/
def ProxySettings.read (m : Manner) (p : Part) : Except Misfit ProxySettings := do
  let usual : ProxySettings := {}
  let parts ← readSection m "struct ProxyConfig" ["manager_id", "actor_name", "entry_point"] p
  let managerId ← readPart (readText m) usual.managerId parts "manager_id"
  let actorName ← readPart (readText m) usual.actorName parts "actor_name"
  let entryPoint ← readPart (readText m) usual.entryPoint parts "entry_point"
  return { managerId, actorName, entryPoint }

/-- Reads the settings of logging. -/
def LogSettings.read (m : Manner) (p : Part) : Except Misfit LogSettings := do
  let usual : LogSettings := {}
  let parts ← readSection m "struct LoggingConfig"
    ["level", "format", "output", "file", "color", "modules"] p
  let level ← readPart (readText m) usual.level parts "level"
  let format ← readPart (readText m) usual.format parts "format"
  let output ← readPart (readText m) usual.output parts "output"
  let file ← readPart (readText m) usual.file parts "file"
  let color ← readPart (readFlag m) usual.color parts "color"
  let modules ← readPart (readTexts m) usual.modules parts "modules"
  return { level, format, output, file, color, modules }

/-- Reads settings. -/
def Settings.read (m : Manner) (t : Tree) : Except Misfit Settings := do
  let usual : Settings := {}
  let parts ← readSection m "struct BridgeConfig" ["proxy", "logging"] ⟨[], t⟩
  let proxy ← readPart (ProxySettings.read m) usual.proxy parts "proxy"
  let logging ← readPart (LogSettings.read m) usual.logging parts "logging"
  return { proxy, logging }

end Parley
