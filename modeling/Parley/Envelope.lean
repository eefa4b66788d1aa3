import Parley.Contract

/-!
# Envelopes

The one object that a request consists of: who is asked (`managerId`), what for (`group`, `method`),
on whose behalf (`context`), and with which arguments (`args`, left out where there are none).
-/

namespace Parley

/-- Whom a request goes to and what it asks for. -/
structure Address where
  managerId : String
  group : String
  method : String
deriving DecidableEq, Repr

namespace Address

variable (V : Type) [Host V]

/-- Builds the envelope of a request. Context and arguments are encoded before anything else, so a
fault in one of them comes before any refusal by the host; such faults are placed under `context` or
`args`. Arguments that encode to undefined count as none. -/
def envelope (a : Address) (context : Payload) (args : Option Payload) : Except EncodeError V := do
  let context ← (context.encode V).mapError (EncodeError.under (.field "context"))
  let args ← args.mapM fun p => (p.encode V).mapError (EncodeError.under (.field "args"))
  let e ← (Host.set Host.emptyObject "managerId" (Host.ofString a.managerId : V)).mapError .ofHost
  let e ← (Host.set e "group" (Host.ofString a.group)).mapError .ofHost
  let e ← (Host.set e "method" (Host.ofString a.method)).mapError .ofHost
  let e ← place "context" context e
  match args with
  | some x => if Host.isUndefined x then return e else place "args" x e
  | none => return e
where
  /-- Sets a part; a refusal is placed under its key. -/
  place (key : String) (x e : V) : Except EncodeError V :=
    (Host.set e key x).mapError fun h => (EncodeError.ofHost h).under (.field key)

end Address

end Parley
