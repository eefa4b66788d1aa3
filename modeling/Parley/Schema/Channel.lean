import Parley.Schema.Identity

/-!
# Channels

Connections between a web application and its peers.
-/

namespace Parley.Schema

open Shape (field)

/-- How a channel reaches its peers. -/
def channelTransport : Shape := .union "ChannelTransport"
  [("Direct", .literal "direct"), ("Relayed", .literal "relayed")]

def channelMetadata : Shape := .struct "ChannelMetadata"
  [field "channel_id" "channelId" .string,
   field "web_app_actor" "webAppActor" webAppActor,
   field "label" "label" (.option .string),
   field "transport" "transport" channelTransport,
   field "peers" "peers" (.list .string),
   field "attributes" "attributes" (.record .string)]

def closeChannelArgs : Shape := .struct "CloseChannelArgs"
  [field "channel_id" "channelId" .string,
   field "reason" "reason" (.option .string)]

def listChannelsArgs : Shape := .struct "ListChannelsArgs"
  [field "web_app_actor" "webAppActor" webAppActor]

def getChannelPeersArgs : Shape := .struct "GetChannelPeersArgs"
  [field "channel_id" "channelId" .string]

def peerInfo : Shape := .struct "PeerInfo"
  [field "display_name" "displayName" (.option .string),
   field "last_seen" "lastSeen" .number,
   field "trusted" "trusted" .bool]

end Parley.Schema
