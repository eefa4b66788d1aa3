import Parley.Schema.Signing

/-!
# The challenge protocol

Messages with which a web application challenges the agent, and the responses to them. Every message
and every response names its type in a literal property `type`, so that the two unions can be told
apart and their candidates among themselves, even where the rest of two layouts is the same. Each
kind of challenge has exactly one kind of response.
-/

namespace Parley.Schema

open Shape (field)

/-- The literal property that tells the candidates apart. -/
def typeTag (name : String) : Label × Shape := field "kind" "type" (.literal name)

/-! ### Kinds -/

inductive ChallengeKind where
  | hello
  | ping
  | signRequest
  | keyRotation
  | attestation
  | nonceRequest
  | capabilityQuery
  | sessionResume
  | close
deriving DecidableEq, Repr

namespace ChallengeKind

/-- The type name of a challenge of this kind. -/
def requestType : ChallengeKind → String
  | hello => "hello"
  | ping => "ping"
  | signRequest => "signRequest"
  | keyRotation => "keyRotation"
  | attestation => "attestation"
  | nonceRequest => "nonceRequest"
  | capabilityQuery => "capabilityQuery"
  | sessionResume => "sessionResume"
  | close => "close"

/-- The type name of a response to a challenge of this kind. -/
def responseType : ChallengeKind → String
  | hello => "helloResponse"
  | ping => "pong"
  | signRequest => "signResponse"
  | keyRotation => "keyRotationAck"
  | attestation => "attestationResponse"
  | nonceRequest => "nonceResponse"
  | capabilityQuery => "capabilityResponse"
  | sessionResume => "sessionResumed"
  | close => "closeAck"

/-- A kind is shown by the type name of its challenges. -/
def text (k : ChallengeKind) : String := k.requestType

end ChallengeKind

/-! ### Messages -/

def helloMessage : Shape := .struct "HelloMessage"
  [typeTag "hello",
   field "nonce" "nonce" .string,
   field "client_version" "clientVersion" .string]

def pingMessage : Shape := .struct "PingMessage"
  [typeTag "ping",
   field "sequence" "sequence" (.int .uint32)]

def signRequestMessage : Shape := .struct "SignRequestMessage"
  [typeTag "signRequest",
   field "request_id" "requestId" .string,
   field "payload" "payload" bufferSource]

def keyRotationMessage : Shape := .struct "KeyRotationMessage"
  [typeTag "keyRotation",
   field "previous_key" "previousKey" .string,
   field "next_key" "nextKey" .string]

def attestationMessage : Shape := .struct "AttestationMessage"
  [typeTag "attestation",
   field "challenge" "challenge" .string]

def nonceRequestMessage : Shape := .struct "NonceRequestMessage"
  [typeTag "nonceRequest",
   field "length" "length" (.int .uint32)]

def capabilityQueryMessage : Shape := .struct "CapabilityQueryMessage"
  [typeTag "capabilityQuery",
   field "capabilities" "capabilities" (.list .string)]

def sessionResumeMessage : Shape := .struct "SessionResumeMessage"
  [typeTag "sessionResume",
   field "session_id" "sessionId" .string,
   field "resume_token" "resumeToken" .string]

def closeMessage : Shape := .struct "CloseMessage"
  [typeTag "close",
   field "reason" "reason" (.option .string)]

/-! ### Responses -/

def helloResponse : Shape := .struct "HelloResponse"
  [typeTag "helloResponse",
   field "nonce" "nonce" .string,
   field "agent_version" "agentVersion" .string]

def pongResponse : Shape := .struct "PongResponse"
  [typeTag "pong",
   field "sequence" "sequence" (.int .uint32)]

def signResponse : Shape := .struct "SignResponse"
  [typeTag "signResponse",
   field "request_id" "requestId" .string,
   field "signature" "signature" (.blob .buffer)]

def keyRotationAck : Shape := .struct "KeyRotationAck"
  [typeTag "keyRotationAck",
   field "accepted" "accepted" .bool]

def attestationResponse : Shape := .struct "AttestationResponse"
  [typeTag "attestationResponse",
   field "attestation" "attestation" .string,
   field "certificate_chain" "certificateChain" (.list .string)]

def nonceResponse : Shape := .struct "NonceResponse"
  [typeTag "nonceResponse",
   field "nonce" "nonce" .string]

def capabilityResponse : Shape := .struct "CapabilityResponse"
  [typeTag "capabilityResponse",
   field "supported" "supported" (.record .bool)]

def sessionResumed : Shape := .struct "SessionResumed"
  [typeTag "sessionResumed",
   field "session_id" "sessionId" .string,
   field "expires_at" "expiresAt" (.option .number)]

def closeAck : Shape := .struct "CloseAck"
  [typeTag "closeAck"]

/-! ### Pairing -/

namespace ChallengeKind

/-- All kinds, in the order in which the unions try them. -/
def all : List ChallengeKind :=
  [hello, ping, signRequest, keyRotation, attestation, nonceRequest, capabilityQuery,
   sessionResume, close]

/-- The candidate for challenges of this kind. -/
def message : ChallengeKind → String × Shape
  | hello => ("Hello", helloMessage)
  | ping => ("Ping", pingMessage)
  | signRequest => ("SignRequest", signRequestMessage)
  | keyRotation => ("KeyRotation", keyRotationMessage)
  | attestation => ("Attestation", attestationMessage)
  | nonceRequest => ("NonceRequest", nonceRequestMessage)
  | capabilityQuery => ("CapabilityQuery", capabilityQueryMessage)
  | sessionResume => ("SessionResume", sessionResumeMessage)
  | close => ("Close", closeMessage)

/-- The candidate for responses to challenges of this kind. -/
def response : ChallengeKind → String × Shape
  | hello => ("HelloResponse", helloResponse)
  | ping => ("Pong", pongResponse)
  | signRequest => ("SignResponse", signResponse)
  | keyRotation => ("KeyRotationAck", keyRotationAck)
  | attestation => ("AttestationResponse", attestationResponse)
  | nonceRequest => ("NonceResponse", nonceResponse)
  | capabilityQuery => ("CapabilityResponse", capabilityResponse)
  | sessionResume => ("SessionResumed", sessionResumed)
  | close => ("CloseAck", closeAck)

/-- The kind whose candidate a value belongs to. -/
def ofVariant (candidate : ChallengeKind → String × Shape) :
    (ks : List ChallengeKind) → Shape.VariantVal (ks.map candidate) → ChallengeKind
  | [], x => nomatch x
  | k :: ks, x =>
    match x with
    | .inl _ => k
    | .inr x => ofVariant candidate ks x

end ChallengeKind

/-- A challenge of any kind. -/
def challengeMessage : Shape :=
  .union "ChallengeMessage" (ChallengeKind.all.map ChallengeKind.message)

/-- A response of any kind. -/
def challengeResponse : Shape :=
  .union "ChallengeResponse" (ChallengeKind.all.map ChallengeKind.response)

/-- The kind of a challenge. -/
def ChallengeMessage.kind (m : challengeMessage.Val) : ChallengeKind :=
  ChallengeKind.ofVariant ChallengeKind.message ChallengeKind.all m

/-- The kind of the challenges that a response belongs to. -/
def ChallengeResponse.kind (r : challengeResponse.Val) : ChallengeKind :=
  ChallengeKind.ofVariant ChallengeKind.response ChallengeKind.all r

/-- The response answers the challenge: it is of the paired kind. -/
def ChallengeResponse.answers (r : challengeResponse.Val) (m : challengeMessage.Val) : Bool :=
  ChallengeResponse.kind r = ChallengeMessage.kind m

/-- A challenge and the application that it is asked for. -/
def respondToChallengeArgs : Shape := .struct "RespondToChallengeArgs"
  [field "web_app_actor" "webAppActor" webAppActor,
   field "message" "message" challengeMessage]

/-- The challenge among the arguments. -/
def RespondToChallengeArgs.message (args : respondToChallengeArgs.Val) : challengeMessage.Val :=
  (args : webAppActor.Val × challengeMessage.Val × Unit).2.1

end Parley.Schema
