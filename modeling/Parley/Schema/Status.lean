import Parley.Schema.Identity

/-!
# Agent status
-/

namespace Parley.Schema

open Shape (field)

def agentState : Shape := .union "AgentState"
  [("Ready", .literal "ready"), ("Locked", .literal "locked"), ("Updating", .literal "updating")]

/-- A text, or the explicit null. -/
def nullableString : Shape := .union "NullableString"
  [("Text", .string), ("Null", .null)]

/-- The text, if there is one. -/
def NullableString.text? (s : nullableString.Val) : Option String :=
  match (s : String ⊕ (Unit ⊕ Empty)) with
  | .inl text => some text
  | .inr _ => none

def agentStatus : Shape := .struct "AgentStatus"
  [field "state" "state" agentState,
   field "version" "version" .string,
   field "locked_until" "lockedUntil" (.option .number),
   field "last_error" "lastError" nullableString]

end Parley.Schema
