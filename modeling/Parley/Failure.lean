import Parley.Error

/-!
# Failures

What a query can come to other than its result. A failure has a code and perhaps a message; one code
means that the operation was aborted, every other that the state did not allow it.
-/

namespace Parley

/-- A query's failure. -/
structure Failure where
  code : Int64
  message : Option String
deriving DecidableEq, Repr

/-- Aborted by the other side, or not possible in the present state. -/
inductive FailureKind where
  | abort
  | invalidState
deriving DecidableEq, Repr

namespace Failure

/-- The code of a rejection that names none. -/
def unknownCode : Int64 := 0

/-- The code of failures that arise on this side. -/
def invalidStateCode : Int64 := 11

/-- The code of an abort. -/
def abortCode : Int64 := 20

/-- What stands in for a message that is absent. -/
def defaultMessage : String := "Unknown error"

/-- A failure that arises on this side. -/
def invalidState (message : String) : Failure := ⟨invalidStateCode, some message⟩

/-- An abort. -/
def abort (message : String) : Failure := ⟨abortCode, some message⟩

/-- The query was refused since its proxy is disabled. -/
def disabled : Failure := invalidState "Agent proxy is disabled"

/-- The request has no dynamic value. -/
def encoding (e : EncodeError) : Failure := invalidState ("Failed to encode request: " ++ e.text)

/-- The reply has not the expected shape. -/
def decoding (e : DecodeError) : Failure := invalidState ("Failed to decode response: " ++ e.text)

/-- Nobody is left who could settle the query, or its outcome was handed out before. -/
def abandoned : Failure := invalidState "Query abandoned before it settled"

/-- The kind of a failure hangs on its code alone. -/
def kind (f : Failure) : FailureKind := if f.code = abortCode then .abort else .invalidState

/-- The text of a failure. -/
def text (f : Failure) : String :=
  "agent query failed (code " ++ toString f.code.toInt ++ "): "
    ++ f.message.getD defaultMessage

end Failure

/-- A failure as callers see it: its kind and a message that is never empty. -/
structure AgentError where
  kind : FailureKind
  message : String
deriving DecidableEq, Repr

namespace AgentError

/-- Forgets the code; an absent or empty message becomes the default one. -/
def ofFailure (f : Failure) : AgentError :=
  ⟨f.kind, (f.message.filter (· ≠ "")).getD Failure.defaultMessage⟩

/-- The text of an error. -/
def text (e : AgentError) : String :=
  match e.kind with
  | .abort => "Operation aborted: " ++ e.message
  | .invalidState => "Invalid state: " ++ e.message

end AgentError

/-- What a query comes to. -/
abbrev Outcome (α : Type) := Except Failure α

end Parley
