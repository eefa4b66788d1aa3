import Parley.Proxy

/-!
# Sessions

Any number of proxies over one recording transport, with the results that they owe, as a machine:
`Session.step` performs one step and `Session.run` a list of them. Things are known by handles,
numbered from zero for each kind in order of creation. A handle that was never given out, or that
has been used up, is answered by `Response.noSuchHandle` and changes nothing.
-/

namespace Parley

/-- What a step of a session does. -/
inductive Step where
  /-- Makes a proxy with the usual actor and entry point. -/
  | connect (managerId : String) (closed : Option String)
  /-- Makes a proxy if its settings are valid. -/
  | connectChecked (settings : ProxySettings) (closed : Option String)
  | disable (proxy : Nat)
  | status (proxy : Nat)
  /-- Makes the agent's actor available or unavailable. -/
  | available (now : Bool)
  /-- Queues a reply. -/
  | queue (s : Settlement)
  | queueNever
  /-- Queues a reply that is settled later, through its handle. -/
  | defer
  | settleDeferred (deferred : Nat) (s : Settlement)
  /-- Gives up a deferred reply, which rejects the query with undefined. -/
  | dropDeferred (deferred : Nat)
  | ask (proxy : Nat) (q : Query)
  | take (pending : Nat)
  | await (pending : Nat)
  | describe (pending : Nat)
  | drop (pending : Nat)
  /-- Makes a pending result together with the handle that settles it. -/
  | channel
  | settle (settler : Nat) (o : Outcome Answer)
  | dropSettler (settler : Nat)
  | isAbandoned (settler : Nat)
  | ready (o : Outcome Answer)
  /-- Makes a pending result of a reply that is there already. -/
  | ofReply (o : Outcome Answer)
  | sent

/-- What a step answers. -/
inductive Response where
  | done
  | noSuchHandle
  | proxy (handle : Nat)
  | invalid (e : SetupError)
  | disabled (now : Bool)
  | status (p : Proxy)
  | deferred (handle : Nat)
  | pending (handle : Nat)
  | channel (pending settler : Nat)
  | outcome (o : Outcome Answer)
  | notYet
  | text (s : String)
  | abandoned (now : Bool)
  | sent (requests : List Sent)

/-- The state of a session. Handles are positions in the lists. -/
structure Session where
  transport : Transport := {}
  proxies : List Proxy := []
  /-- The settlements of the deferred replies, as far as they are settled. -/
  deferred : List (Option Settlement) := []
  /-- The pending results that have not been dropped. -/
  pending : List (Option Ticket) := []
  /-- The pending results that the unused settlers belong to. -/
  settlers : List (Option Nat) := []

namespace Session

/-- The session before its first step. -/
def new (standing : Option Settlement) : Session := { transport := { standing } }

/-- The settlement of a deferred reply. -/
def deferredSettlement (s : Session) (handle : Nat) : Option Settlement :=
  (s.deferred[handle]?).join

/-- Adds a pending result. -/
def addPending (s : Session) (t : Ticket) : Nat × Session :=
  (s.pending.length, { s with pending := s.pending ++ [some t] })

/-- Settles an unsettled deferred reply. -/
def settleDeferred (s : Session) (handle : Nat) (o : Settlement) : Response × Session :=
  match s.deferred[handle]? with
  | some none => (.done, { s with deferred := s.deferred.set handle (some o) })
  | _ => (.noSuchHandle, s)

/-- Uses up a settler: the cell that it belongs to, if its pending result is still there, becomes
`cell`. -/
def useSettler (s : Session) (handle : Nat) (cell : Cell (Outcome Answer)) : Response × Session :=
  match s.settlers[handle]? with
  | some (some id) =>
    let pending := match s.pending[id]? with
      | some (some _) => s.pending.set id (some (.channel cell))
      | _ => s.pending
    (.done, { s with settlers := s.settlers.set handle none, pending })
  | _ => (.noSuchHandle, s)

/-- Makes a query through a proxy. -/
def ask (s : Session) (proxy : Nat) (q : Query) : Response × Session × List Log.Event :=
  match s.proxies[proxy]? with
  | none => (.noSuchHandle, s, [])
  | some p =>
    let (ticket, transport, events) := p.dispatch s.transport q
    let (handle, s) := { s with transport }.addPending ticket
    (.pending handle, s, events)

/-- Disables a proxy. -/
def disable (s : Session) (proxy : Nat) : Response × Session × List Log.Event :=
  match s.proxies[proxy]? with
  | none => (.noSuchHandle, s, [])
  | some p =>
    let (p, events) := p.disable
    (.disabled p.disabled, { s with proxies := s.proxies.set proxy p }, events)

/-- One attempt on a pending result. -/
def attempt {β : Type} (s : Session) (handle : Nat)
    (means : (InFlight → Option (Outcome Answer × List Log.Event)) → Ticket →
      Pending.Attempt InFlight Answer β)
    (answer : β → Response) : Response × Session × List Log.Event :=
  match s.pending[handle]? with
  | some (some t) =>
    let a := means (InFlight.advance s.deferredSettlement) t
    (answer a.result, { s with pending := s.pending.set handle (some a.after) }, a.events)
  | _ => (.noSuchHandle, s, [])

/-- Answers about a pending result without touching it. -/
def describe (s : Session) (handle : Nat) : Response :=
  match s.pending[handle]? with
  | some (some t) => .text t.text
  | _ => .noSuchHandle

/-- Drops a pending result. -/
def drop (s : Session) (handle : Nat) : Response × Session :=
  match s.pending[handle]? with
  | some (some _) => (.done, { s with pending := s.pending.set handle none })
  | _ => (.noSuchHandle, s)

/-- Whether nobody waits for an unused settler any more. -/
def isAbandoned (s : Session) (handle : Nat) : Response :=
  match s.settlers[handle]? with
  | some (some id) => .abandoned (s.pending[id]?).join.isNone
  | _ => .noSuchHandle

/-- Performs one step. -/
def step (s : Session) : Step → Response × Session × List Log.Event
  | .connect managerId closed =>
    (.proxy s.proxies.length,
     { s with proxies := s.proxies ++ [{ settings := { managerId }, closed }] }, [])
  | .connectChecked settings closed =>
    match Proxy.checked settings closed with
    | .ok p => (.proxy s.proxies.length, { s with proxies := s.proxies ++ [p] }, [])
    | .error e => (.invalid e, s, [])
  | .disable proxy => s.disable proxy
  | .status proxy =>
    match s.proxies[proxy]? with
    | some p => (.status p, s, [])
    | none => (.noSuchHandle, s, [])
  | .available now => (.done, { s with transport.available := now }, [])
  | .queue o => (.done, { s with transport.queue := s.transport.queue ++ [.settled o] }, [])
  | .queueNever => (.done, { s with transport.queue := s.transport.queue ++ [.never] }, [])
  | .defer =>
    let handle := s.deferred.length
    (.deferred handle,
     { s with
       transport.queue := s.transport.queue ++ [.deferred handle]
       deferred := s.deferred ++ [none] }, [])
  | .settleDeferred handle o =>
    let (r, s) := s.settleDeferred handle o
    (r, s, [])
  | .dropDeferred handle =>
    let (r, s) := s.settleDeferred handle (.error .undefined)
    (r, s, [])
  | .ask proxy q => s.ask proxy q
  | .take handle =>
    s.attempt handle Pending.tryTake fun
      | some o => .outcome o
      | none => .notYet
  | .await handle =>
    s.attempt handle Pending.poll fun
      | .ready o => .outcome o
      | .pending => .notYet
  | .describe handle => (s.describe handle, s, [])
  | .drop handle =>
    let (r, s) := s.drop handle
    (r, s, [])
  | .channel =>
    let (handle, s) := s.addPending (.channel .empty)
    (.channel handle s.settlers.length, { s with settlers := s.settlers ++ [some handle] }, [])
  | .settle handle o =>
    let (r, s) := s.useSettler handle (.full o)
    (r, s, [])
  | .dropSettler handle =>
    let (r, s) := s.useSettler handle .closed
    (r, s, [])
  | .isAbandoned handle => (s.isAbandoned handle, s, [])
  | .ready o =>
    let (handle, s) := s.addPending (.ready o)
    (.pending handle, s, [])
  | .ofReply o =>
    let (handle, s) := s.addPending (.reply (.done o))
    (.pending handle, s, [])
  | .sent => (.sent s.transport.sent, s, [])

/-- What can be seen of a step: its answer, the counts after it, and the events during it. -/
structure Trace where
  response : Response
  sent : Nat
  lookups : Nat
  events : List Log.Event

/-- Performs steps one after the other. -/
def run (s : Session) : List Step → List Trace × Session
  | [] => ([], s)
  | step :: steps =>
    let (response, s, events) := s.step step
    let trace : Trace :=
      { response, sent := s.transport.sent.length, lookups := s.transport.lookups, events }
    let (traces, s) := s.run steps
    (trace :: traces, s)

end Session

end Parley
