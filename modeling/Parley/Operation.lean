import Parley.Reply
import Parley.Schema.Channel
import Parley.Schema.Status

/-!
# Manager operations

The operations that an agent's manager offers, each with its typed arguments and the contract of its
result. All belong to one group and are known by their method names.
-/

namespace Parley

/-- A query: what is asked, with what, and what becomes of the reply. -/
structure Query where
  group : String
  method : String
  context : Payload
  args : Option Payload
  reading : Reading

/-- An operation with its arguments. -/
inductive Operation where
  | getSigningKey (args : Schema.getSigningKeyArgs.Val)
  | createChannel (channel : Schema.channelMetadata.Val)
  | closeChannel (args : Schema.closeChannelArgs.Val)
  | listChannels (args : Schema.listChannelsArgs.Val)
  | getChannelPeers (args : Schema.getChannelPeersArgs.Val)
  | signPayload (args : Schema.signPayloadArgs.Val)
  | getAgentStatus
  | respondToChallenge (args : Schema.respondToChallengeArgs.Val)

namespace Operation

/-- The group of all operations. -/
def group : String := "manager"

/-- The method name of an operation. -/
def method : Operation → String
  | getSigningKey _ => "getSigningKey"
  | createChannel _ => "createChannel"
  | closeChannel _ => "closeChannel"
  | listChannels _ => "listChannels"
  | getChannelPeers _ => "getChannelPeers"
  | signPayload _ => "signPayload"
  | getAgentStatus => "getAgentStatus"
  | respondToChallenge _ => "respondToChallengeMessage"

/-- The arguments that travel. -/
def args : Operation → Option Payload
  | getSigningKey args => some (.of Schema.getSigningKeyArgs args)
  | createChannel channel => some (.of Schema.channelMetadata channel)
  | closeChannel args => some (.of Schema.closeChannelArgs args)
  | listChannels args => some (.of Schema.listChannelsArgs args)
  | getChannelPeers args => some (.of Schema.getChannelPeersArgs args)
  | signPayload args => some (.of Schema.signPayloadArgs args)
  | getAgentStatus => none
  | respondToChallenge args => some (.of Schema.respondToChallengeArgs args)

/-- What becomes of the reply. A response to a challenge must be of the kind that answers it. -/
def reading : Operation → Reading
  | getSigningKey _ => .typed (.shaped .string)
  | createChannel _ => .typed (.shaped .unit)
  | closeChannel _ => .typed (.shaped .unit)
  | listChannels _ => .typed (.shaped (.list Schema.channelMetadata))
  | getChannelPeers _ => .typed (.shaped (.record Schema.peerInfo))
  | signPayload _ => .typed (.shaped (.blob .buffer))
  | getAgentStatus => .typed (.shaped Schema.agentStatus)
  | respondToChallenge args =>
    .challenge (Schema.ChallengeMessage.kind (Schema.RespondToChallengeArgs.message args))

/-- The query that an operation makes in a context. -/
def query (op : Operation) (context : Schema.requestContext.Val) : Query where
  group := group
  method := op.method
  context := .of Schema.requestContext context
  args := op.args
  reading := op.reading

end Operation

end Parley
