import Parley.Decimal.Layout
import Parley.Path

/-!
# Codec errors

Why a value could not be read as, or written from, something of a given shape. Every error carries
the path at which it arose; each level that it passes through puts its own step in front
(`DecodeError.under`, `EncodeError.under`).
-/

namespace Parley

/-- Why a value has not the expected shape. -/
inductive DecodeFault where
  /-- A value of another type stands there. -/
  | mismatch (expected found : String)
  /-- The object has no such property. -/
  | missingField
  /-- Another text than the literal one, or no text at all. -/
  | literal (expected found : String)
  /-- No candidate of a union takes the value. -/
  | noVariant (union found : String)
  /-- A number that is no integer. -/
  | notInteger (value : Double)
  /-- An integer outside the range of its type. -/
  | outOfRange (value : Double) (target : String)
deriving DecidableEq, Repr

/-- The wording of a decoding fault. -/
def DecodeFault.text : DecodeFault → String
  | mismatch expected found => "expected " ++ expected ++ ", found " ++ found
  | missingField => "missing required field"
  | literal expected found => "expected literal " ++ Text.quoted expected ++ ", found " ++ found
  | noVariant union found => "no variant of " ++ union ++ " accepts " ++ found
  | notInteger value => "expected an integer, found " ++ value.text
  | outOfRange value target => value.text ++ " is out of range for " ++ target

/-- A decoding fault and the place of its cause. -/
structure DecodeError where
  path : Path
  fault : DecodeFault
deriving DecidableEq, Repr

namespace DecodeError

/-- A fault of the value itself. -/
def here (fault : DecodeFault) : DecodeError := ⟨[], fault⟩

/-- The same error, seen from a value that holds the faulty one under the segment `s`. -/
def under (s : Segment) (e : DecodeError) : DecodeError := { e with path := s :: e.path }

/-- The error of an absent field. -/
def missing (name : String) : DecodeError := (here .missingField).under (.field name)

/-- The text of an error. -/
def text (e : DecodeError) : String := e.fault.text ++ " at " ++ Path.text e.path

end DecodeError

/-- Why a host did not set a property. -/
inductive HostError where
  /-- The target holds no properties. -/
  | notAnObject (key target : String)
  /-- The host does not take the value. -/
  | rejected (reason : String)
deriving DecidableEq, Repr

/-- The wording of a host error. -/
def HostError.text : HostError → String
  | notAnObject key target => "cannot set property " ++ Text.quoted key ++ " on " ++ target
  | rejected reason => "host rejected value: " ++ reason

/-- Why something has no dynamic value. -/
inductive EncodeFault where
  | host (error : HostError)
  /-- An integer that a double cannot hold exactly. -/
  | unrepresentable (value target : String)
  /-- A present optional that would read as an absent one. -/
  | ambiguousOptional
deriving DecidableEq, Repr

/-- The wording of an encoding fault. -/
def EncodeFault.text : EncodeFault → String
  | host error => error.text
  | unrepresentable value target =>
    value ++ " is not exactly representable as a number (" ++ target ++ ")"
  | ambiguousOptional => "present optional value encodes to undefined"

/-- An encoding fault and the place of its cause. -/
structure EncodeError where
  path : Path
  fault : EncodeFault
deriving DecidableEq, Repr

namespace EncodeError

/-- A fault of the value itself. -/
def here (fault : EncodeFault) : EncodeError := ⟨[], fault⟩

/-- A host error at the value itself. -/
def ofHost (e : HostError) : EncodeError := here (.host e)

/-- The same error, seen from a value that holds the faulty one under the segment `s`. -/
def under (s : Segment) (e : EncodeError) : EncodeError := { e with path := s :: e.path }

/-- The text of an error. -/
def text (e : EncodeError) : String :=
  "encode failed at " ++ Path.text e.path ++ ": " ++ e.fault.text

end EncodeError

end Parley
