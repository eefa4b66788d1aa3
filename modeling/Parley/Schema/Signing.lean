import Parley.Schema.Identity

/-!
# Signing

Payloads that the agent signs.
-/

namespace Parley.Schema

open Shape (field)

/-- Bytes to sign, as a buffer or as a view over one. -/
def bufferSource : Shape := .union "BufferSource"
  [("Buffer", .blob .buffer), ("View", .blob .view)]

def signPayloadArgs : Shape := .struct "SignPayloadArgs"
  [field "web_app_actor" "webAppActor" webAppActor,
   field "payload" "payload" bufferSource]

end Parley.Schema
