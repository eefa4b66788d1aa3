import Parley.Value

/-!
# The recording transport

A stand-in for the channel to the agent. It keeps every request that it is handed, and answers with
replies that were queued for it, in order; once the queue is empty, with a standing reply. Look-ups
of the agent's actor are counted, also those that fail.
-/

namespace Parley

/-- Why a request cannot be handed over. -/
inductive TransportError where
  | actorUnavailable (actor : String)
  | channelClosed (reason : String)
deriving DecidableEq, Repr

/-- The text of an error. -/
def TransportError.text : TransportError → String
  | actorUnavailable actor => "Agent actor unavailable: " ++ actor
  | channelClosed reason => "Channel closed: " ++ reason

/-- How the agent settles a query: it resolves with a payload or rejects with one. -/
abbrev Settlement := Except Value Value

/-- A reply as it is bound to a query. -/
inductive Reply where
  | settled (s : Settlement)
  /-- It will be settled through the deferred handle with this number. -/
  | deferred (handle : Nat)
  | never

/-- The settlement of a reply, if it has one by now. `deferred` tells the settlements of the
deferred handles. -/
def Reply.settlement? (deferred : Nat → Option Settlement) : Reply → Option Settlement
  | settled s => some s
  | .deferred handle => deferred handle
  | never => none

/-- A request that was handed over. -/
structure Sent where
  actor : String
  entryPoint : String
  envelope : Value

/-- The state of the recording transport. -/
structure Transport where
  available : Bool := true
  lookups : Nat := 0
  /-- The requests, the first one first. -/
  sent : List Sent := []
  /-- The replies for the next requests. -/
  queue : List Reply := []
  /-- The reply for requests that find the queue empty. -/
  standing : Option Settlement := none

namespace Transport

/-- Looks up an actor. -/
def lookup (t : Transport) (actor : String) : Except TransportError Unit × Transport :=
  (if t.available then .ok () else .error (.actorUnavailable actor),
   { t with lookups := t.lookups + 1 })

/-- The reply that the next request will be bound to. -/
def nextReply (t : Transport) : Reply :=
  match t.queue with
  | r :: _ => r
  | [] =>
    match t.standing with
    | some s => .settled s
    | none => .never

/-- Hands a request over and binds the next reply to it. -/
def send (t : Transport) (s : Sent) : Reply × Transport :=
  (t.nextReply, { t with sent := t.sent ++ [s], queue := t.queue.tail })

end Transport

end Parley
