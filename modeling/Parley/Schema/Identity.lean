import Parley.Shape.Codec

/-!
# Callers

Who asks: the context that every request carries, and the web application that acts.
-/

namespace Parley

/-- A field whose property has another name. -/
def Shape.field (name wire : String) (s : Shape) : Label × Shape := (⟨name, wire⟩, s)

namespace Schema

open Shape (field)

/-- The context of a request: where the page comes from and in which window it runs. -/
def requestContext : Shape := .struct "RequestContext"
  [field "origin" "origin" .string,
   field "browsing_context_id" "browsingContextId" (.int .uint64),
   field "is_private" "isPrivate" .bool]

/-- A web application, known by its key. -/
def webAppActor : Shape := .struct "WebAppActor"
  [field "ed25519_key" "ed25519Key" .string]

def getSigningKeyArgs : Shape := .struct "GetSigningKeyArgs"
  [field "web_app_actor" "webAppActor" webAppActor]

/-- The context of a request from a window that is not private. -/
def RequestContext.new (origin : String) (browsingContextId : UInt64) : requestContext.Val :=
  (origin, browsingContextId, false, ())

/-- The web application with a key. -/
def WebAppActor.new (key : String) : webAppActor.Val := (key, ())

end Schema

end Parley
