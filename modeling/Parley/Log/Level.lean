import Parley.Text.Case

/-!
# Log levels

How much an event matters, and how much must matter to be let through. A `Threshold` is a level, or
none at all when everything is off.

Both are read from texts: a level by its name in any case or by its rank from 1 to 5, a threshold
also by the name `off` or the rank 0.
-/

namespace Parley.Log

/-- How much an event matters, the most important first. -/
inductive Level where
  | error
  | warn
  | info
  | debug
  | trace
deriving DecidableEq, Repr

namespace Level

/-- The rank of a level; the more an event matters, the lower its rank. -/
def rank : Level → Nat
  | error => 1
  | warn => 2
  | info => 3
  | debug => 4
  | trace => 5

/-- The name of a level in log lines. -/
def label : Level → String
  | error => "ERROR"
  | warn => "WARN"
  | info => "INFO"
  | debug => "DEBUG"
  | trace => "TRACE"

/-- All levels. -/
def all : List Level := [error, warn, info, debug, trace]

end Level

/-- The least important level that is let through; none when nothing is. -/
abbrev Threshold := Option Level

/-- The threshold lets the level through. -/
def Threshold.admits (t : Threshold) (l : Level) : Bool := t.any fun least => l.rank ≤ least.rank

/-- A number written with decimal digits, perhaps after a plus sign. -/
def digits? (s : String) : Option Nat :=
  let ds := match s.toList with
    | '+' :: ds => ds
    | ds => ds
  if ds ≠ [] ∧ ds.all Char.isDigit then
    some (ds.foldl (fun n c => 10 * n + (c.toNat - '0'.toNat)) 0)
  else none

/-- The level with a rank or a name. -/
def Level.parse? (s : String) : Option Level :=
  match digits? s with
  | some n => all.find? (·.rank = n)
  | none => all.find? fun l => Text.lowerAscii l.label = Text.lowerAscii s

/-- The threshold with a rank or a name; the empty text stands for errors only. -/
def Threshold.parse? (s : String) : Option Threshold :=
  if s = "" then some (some .error)
  else if digits? s = some 0 ∨ Text.lowerAscii s = "off" then some none
  else (Level.parse? s).map some

end Parley.Log
