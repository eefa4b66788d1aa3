import Parley.Contract
import Parley.Failure
import Parley.Log.Event
import Parley.Schema.Challenge

/-!
# Replies

What becomes of an agent's reply: a rejection is classified, and a payload is handed on as it is or
read by the contract of its query. A response to a challenge must also be of the paired kind.
-/

namespace Parley

/-- The parts of the program that report events. -/
def Log.proxyTarget : String := "agent_bridge::proxy"

@[inherit_doc Log.proxyTarget]
def Log.replyTarget : String := "agent_bridge::proxy::translate"

@[inherit_doc Log.proxyTarget]
def Log.operationTarget : String := "agent_bridge::ops"

/-- The failure that a rejection stands for. Its code is the integer in the property `result`, its
message the text in the property `message`; either may be missing. -/
def Failure.ofRejection {V : Type} [Host V] (payload : V) : Failure where
  code :=
    ((Host.get? payload "result").bind fun v => (Shape.decode (.int .int64) v).toOption).getD
      Failure.unknownCode
  message := (Host.get? payload "message").bind fun v => (Shape.decode .string v).toOption

/-- Reads a payload by a contract, and reports when that fails. -/
def Contract.receive {V : Type} [Host V] (c : Contract) (payload : V) :
    Outcome c.Val × List Log.Event :=
  match c.decode payload with
  | .ok x => (.ok x, [])
  | .error e =>
    (.error (.decoding e),
     [{ level := .warn
        target := Log.replyTarget
        message := "Agent response did not match the expected shape"
        fields := [("expected", .quoted c.expected), ("error", .plain e.text)] }])

/-- What a query hands out: the payload as it came, or what it was read as. -/
inductive Answer where
  | raw (v : Value)
  | read (c : Contract) (x : c.Val)

/-- What is done with the payload of a resolved query. -/
inductive Reading where
  /-- It is handed on. -/
  | raw
  /-- It is read by a contract. -/
  | typed (c : Contract)
  /-- It is read as a response to a challenge of the given kind. -/
  | challenge (kind : Schema.ChallengeKind)

/-- The failure of a response that belongs to another kind of challenge. -/
def Failure.wrongResponse (expected found : Schema.ChallengeKind) : Failure :=
  .invalidState ("Expected a " ++ expected.responseType ++ " response to a " ++ expected.text
    ++ " challenge, got " ++ found.responseType)

namespace Reading

/-- Checks that a response is of the paired kind, and reports when it is not. -/
def pair (expected : Schema.ChallengeKind) (r : Schema.challengeResponse.Val) :
    Outcome Answer × List Log.Event :=
  let found := Schema.ChallengeResponse.kind r
  if found = expected then (.ok (.read (.shaped Schema.challengeResponse) r), [])
  else
    (.error (.wrongResponse expected found),
     [{ level := .warn
        target := Log.operationTarget
        message := "Challenge answered with the wrong response kind"
        fields := [("expected", .quoted expected.responseType),
                   ("found", .quoted found.responseType)] }])

/-- The outcome of a query that was resolved with a payload. -/
def resolve (r : Reading) (payload : Value) : Outcome Answer × List Log.Event :=
  match r with
  | raw => (.ok (.raw payload), [])
  | typed c =>
    let (o, events) := c.receive payload
    (o.map (Answer.read c), events)
  | challenge kind =>
    match (Contract.shaped Schema.challengeResponse).receive payload with
    | (.ok r, _) => pair kind r
    | (.error f, events) => (.error f, events)

/-- The outcome of a query that was settled: resolved or rejected. -/
def settle (r : Reading) : Except Value Value → Outcome Answer × List Log.Event
  | .ok payload => r.resolve payload
  | .error payload =>
    let f := Failure.ofRejection payload
    (.error f,
     [{ level := .debug
        target := Log.proxyTarget
        message := "Agent query rejected"
        fields := [("code", .int f.code.toInt)] }])

end Reading

end Parley
