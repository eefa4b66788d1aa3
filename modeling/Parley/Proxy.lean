import Parley.Envelope
import Parley.Operation
import Parley.Pending
import Parley.Settings.Error
import Parley.Settings.Proxy
import Parley.Transport

/-!
# Proxies

A proxy stands for one remote manager. `Proxy.dispatch` makes a query: it refuses when the proxy is
disabled, builds the envelope, looks up the actor, and hands the request over. The first of these
steps that fails settles the query at once, and nothing is sent; every query reports exactly one
event. Replies are read only when somebody asks for the result.
-/

namespace Parley

/-- A proxy of a manager. -/
structure Proxy where
  settings : ProxySettings
  /-- Why the channel to the agent is closed, if it is. -/
  closed : Option String := none
  disabled : Bool := false
deriving DecidableEq, Repr

/-- A reply on its way to a pending result. -/
inductive InFlight where
  /-- The reply to a query that was sent. -/
  | query (reply : Reply) (reading : Reading) (group method : String)
  /-- An outcome that needs no more work. -/
  | done (o : Outcome Answer)

/-- The activity of reading the reply to a query. -/
def Log.querySpan (group method : String) : Log.Span where
  level := .debug
  target := Log.proxyTarget
  name := "agent_query"
  fields := [("group", .quoted group), ("method", .quoted method)]

/-- The outcome of a reply, if it is settled by now. What is reported on the way stands in the span
of the query. -/
def InFlight.advance (deferred : Nat → Option Settlement) :
    InFlight → Option (Outcome Answer × List Log.Event)
  | query reply reading group method =>
    (reply.settlement? deferred).map fun s =>
      let (o, events) := reading.settle s
      (o, events.map fun e => { e with spans := Log.querySpan group method :: e.spans })
  | done o => some (o, [])

/-- The pending results of a session. -/
abbrev Ticket := Pending InFlight Answer

namespace Proxy

/-- A proxy with settings that have been checked. -/
def checked (settings : ProxySettings) (closed : Option String) : Except SetupError Proxy :=
  match settings.validate with
  | .ok () => .ok { settings, closed }
  | .error reason => .error (.configuration reason)

/-- Disables a proxy, which is reported the first time. -/
def disable (p : Proxy) : Proxy × List Log.Event :=
  ({ p with disabled := true },
   if p.disabled then []
   else
    [{ level := .info
       target := Log.proxyTarget
       message := "Agent proxy disabled"
       fields := [("manager_id", .plain p.settings.managerId)] }])

/-- Looks up the actor. A closed channel refuses without any look-up. -/
def lookup (p : Proxy) (t : Transport) : Except TransportError Unit × Transport :=
  match p.closed with
  | some reason => (.error (.channelClosed reason), t)
  | none => t.lookup p.settings.actorName

/-- The event of a query that the proxy refuses. -/
def refused (p : Proxy) (q : Query) : Log.Event where
  level := .warn
  target := Log.proxyTarget
  message := "Query refused: proxy is disabled"
  fields :=
    [("manager_id", .plain p.settings.managerId), ("group", .quoted q.group),
     ("method", .quoted q.method)]

/-- The event of a query that has no envelope. -/
def notEncoded (q : Query) (e : EncodeError) : Log.Event where
  level := .warn
  target := Log.proxyTarget
  message := "Failed to encode query envelope"
  fields := [("group", .quoted q.group), ("method", .quoted q.method), ("error", .plain e.text)]

/-- The event of a query whose actor cannot be reached. -/
def notReached (p : Proxy) (q : Query) (e : TransportError) : Log.Event where
  level := .warn
  target := Log.proxyTarget
  message := "Agent actor unavailable"
  fields :=
    [("actor", .plain p.settings.actorName), ("group", .quoted q.group),
     ("method", .quoted q.method), ("error", .plain e.text)]

/-- The event of a query that is sent. -/
def dispatching (p : Proxy) (q : Query) : Log.Event where
  level := .debug
  target := Log.proxyTarget
  message := "Dispatching agent query"
  fields :=
    [("manager_id", .plain p.settings.managerId), ("group", .quoted q.group),
     ("method", .quoted q.method), ("entry_point", .plain p.settings.entryPoint)]

/-- The envelope of a query. -/
def envelope (p : Proxy) (q : Query) : Except EncodeError Value :=
  Address.envelope Value ⟨p.settings.managerId, q.group, q.method⟩ q.context q.args

/-- The request that a query is sent as. -/
def request (p : Proxy) (envelope : Value) : Sent :=
  ⟨p.settings.actorName, p.settings.entryPoint, envelope⟩

/-- Makes a query. -/
def dispatch (p : Proxy) (t : Transport) (q : Query) : Ticket × Transport × List Log.Event :=
  if p.disabled then (.failed .disabled, t, [p.refused q])
  else
    match p.envelope q with
    | .error e => (.failed (.encoding e), t, [notEncoded q e])
    | .ok envelope =>
      match p.lookup t with
      | (.error e, t) => (.failed (.invalidState e.text), t, [p.notReached q e])
      | (.ok (), t) =>
        let (reply, t) := t.send (p.request envelope)
        (.reply (.query reply q.reading q.group q.method), t, [p.dispatching q])

/-- The text of a proxy. -/
def text (p : Proxy) : String :=
  "Proxy \x7b manager_id: " ++ Text.quoted p.settings.managerId
    ++ ", actor_name: " ++ Text.quoted p.settings.actorName
    ++ ", entry_point: " ++ Text.quoted p.settings.entryPoint
    ++ ", disabled: " ++ (if p.disabled then "true" else "false") ++ ", .. \x7d"

end Proxy

end Parley
