import Parley.Shape.Codec

/-!
# Contracts

What a request sends or expects: something of a given shape, or something that no host takes. The
latter stands for a payload type whose values have no dynamic form at all.
-/

namespace Parley

/-- A type of payloads. -/
inductive Contract where
  | shaped (s : Shape)
  /-- No value looks like it, and every host refuses it for the given reason. -/
  | barred (name reason : String)

namespace Contract

/-- The type of the payloads. -/
abbrev Val : Contract → Type
  | shaped s => s.Val
  | barred _ _ => Unit

/-- What messages call the payloads. -/
def expected : Contract → String
  | shaped s => s.expected
  | barred name _ => name

variable {V : Type} [Host V]

/-- The value looks like such a payload. -/
def probe : Contract → V → Bool
  | shaped s, v => s.probe v
  | barred _ _, _ => false

/-- Reads a payload. -/
def decode : (c : Contract) → V → Except DecodeError c.Val
  | shaped s, v => s.decode v
  | barred name _, v => .error (Codec.mismatch name v)

variable (V) in
/-- Builds the dynamic value of a payload. -/
def encode : (c : Contract) → c.Val → Except EncodeError V
  | shaped s, x => s.encode V x
  | barred _ reason, _ => .error (.ofHost (.rejected reason))

end Contract

/-- A payload together with its contract. -/
structure Payload where
  contract : Contract
  value : contract.Val

namespace Payload

/-- A value of a shape. -/
def of (s : Shape) (x : s.Val) : Payload := ⟨.shaped s, x⟩

/-- Builds the dynamic value. -/
def encode (V : Type) [Host V] (p : Payload) : Except EncodeError V := p.contract.encode V p.value

end Payload

end Parley
