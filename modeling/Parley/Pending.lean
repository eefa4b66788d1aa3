import Parley.Failure
import Parley.Log.Event

/-!
# Pending results

A pending result settles once. It waits on a cell that somebody else fills, or on a reply that it
reads itself; once its outcome has been handed out it is spent, and every later attempt gives the
failure of an abandoned query.

It can be asked in two ways: `Pending.tryTake` looks whether the outcome is there, and
`Pending.poll` drives it as a future. Both see the same states.
-/

namespace Parley

/-- A cell that is filled at most once. Its filler may also give up. -/
inductive Cell (α : Type) where
  | empty
  | full (a : α)
  /-- Nobody will fill it. -/
  | closed
deriving DecidableEq, Repr

/-- An answer of a future. -/
inductive Poll (α : Type) where
  | ready (a : α)
  | pending
deriving DecidableEq, Repr

/-- Why nothing can be taken out of a cell. -/
inductive Cell.Absence where
  | notYet
  | never
deriving DecidableEq, Repr

namespace Cell

variable {α : Type}

/-- Takes out what is there. -/
def tryTake : Cell α → Except Absence α
  | full a => .ok a
  | empty => .error .notYet
  | closed => .error .never

/-- The cell as a future: it is ready once filled or given up. -/
def poll : Cell α → Poll (Option α)
  | full a => .ready (some a)
  | empty => .pending
  | closed => .ready none

end Cell

/-- A result that settles once, over replies of type `ρ`. -/
inductive Pending (ρ α : Type) where
  /-- Somebody else settles it through a cell. -/
  | channel (cell : Cell (Outcome α))
  /-- It reads a reply itself. -/
  | reply (r : ρ)
  /-- Its outcome has been handed out. -/
  | taken

namespace Pending

variable {ρ α : Type}

/-- A result that is settled from the start. -/
def ready (o : Outcome α) : Pending ρ α := channel (.full o)

/-- A result that has failed from the start. -/
def failed (f : Failure) : Pending ρ α := ready (.error f)

/-- The text of a result names what it waits on. -/
def text (p : Pending ρ α) : String :=
  let source := match p with
    | channel _ => "channel"
    | reply _ => "reply"
    | taken => "taken"
  "PendingResult \x7b source: \"" ++ source ++ "\" \x7d"

/-- The result of one attempt on a pending result. -/
structure Attempt (ρ α β : Type) where
  result : β
  after : Pending ρ α
  events : List Log.Event := []

/-- Takes the outcome if it is there. A reply is given one chance through `advance`. -/
def tryTake (advance : ρ → Option (Outcome α × List Log.Event)) (p : Pending ρ α) :
    Attempt ρ α (Option (Outcome α)) :=
  match p with
  | channel cell =>
    match cell.tryTake with
    | .ok o => { result := some o, after := taken }
    | .error .notYet => { result := none, after := channel cell }
    | .error .never => { result := some (.error .abandoned), after := taken }
  | reply r =>
    match advance r with
    | some (o, events) => { result := some o, after := taken, events }
    | none => { result := none, after := reply r }
  | taken => { result := some (.error .abandoned), after := taken }

/-- Drives the result once as a future. -/
def poll (advance : ρ → Option (Outcome α × List Log.Event)) (p : Pending ρ α) :
    Attempt ρ α (Poll (Outcome α)) :=
  match p with
  | channel cell =>
    match cell.poll with
    | .ready o => { result := .ready (o.getD (.error .abandoned)), after := taken }
    | .pending => { result := .pending, after := p }
  | reply r =>
    match advance r with
    | some (o, events) => { result := .ready o, after := taken, events }
    | none => { result := .pending, after := p }
  | taken => { result := .ready (.error .abandoned), after := p }

end Pending

end Parley
