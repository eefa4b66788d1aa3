import Parley.Proofs.Host.BlobBlind
import Parley.Proofs.Session.Track

/-!
# Sessions are blind for binary objects

Two sessions that differ in the bytes of binary objects alone, and that go through steps which differ
in no more, answer alike, send as many requests and look up as often, and report the same events
(`Session.run_mapBlobs`). So it does not show in what a session does, nor in what it reports, what the
binary objects in its payloads hold.

Replacing binary objects commutes with one step (`Session.step_mapBlobs`), and so with a run.
-/

namespace Parley

/-! ### Replacing binary objects -/

/-- The settlement with every binary object in its payload replaced. -/
def Settlement.mapBlobs (φ : Blob → Blob) : Settlement → Settlement
  | .ok payload => .ok (payload.mapBlobs φ)
  | .error payload => .error (payload.mapBlobs φ)

def Reply.mapBlobs (φ : Blob → Blob) : Reply → Reply
  | settled s => settled (Settlement.mapBlobs φ s)
  | .deferred handle => .deferred handle
  | never => never

def Sent.mapBlobs (φ : Blob → Blob) (s : Sent) : Sent :=
  { s with envelope := s.envelope.mapBlobs φ }

def Query.mapBlobs (φ : Blob → Blob) (q : Query) : Query :=
  { q with
    context := q.context.mapBlobs φ
    args := q.args.map (Payload.mapBlobs φ) }

def Answer.mapBlobs (φ : Blob → Blob) : Answer → Answer
  | raw v => raw (v.mapBlobs φ)
  | read c x => read c (c.mapBlobs φ x)

/-- What a query came to, with every binary object in its answer replaced. -/
def Outcome.mapBlobs (φ : Blob → Blob) (o : Outcome Answer) : Outcome Answer :=
  o.map (Answer.mapBlobs φ)

def InFlight.mapBlobs (φ : Blob → Blob) : InFlight → InFlight
  | query reply reading group method => query (reply.mapBlobs φ) reading group method
  | done o => done (Outcome.mapBlobs φ o)

def Cell.map {α β : Type} (f : α → β) : Cell α → Cell β
  | empty => empty
  | full a => full (f a)
  | closed => closed

def Ticket.mapBlobs (φ : Blob → Blob) : Ticket → Ticket
  | .channel cell => .channel (cell.map (Outcome.mapBlobs φ))
  | .reply r => .reply (r.mapBlobs φ)
  | .taken => .taken

def Transport.mapBlobs (φ : Blob → Blob) (t : Transport) : Transport :=
  { t with
    sent := t.sent.map (Sent.mapBlobs φ)
    queue := t.queue.map (Reply.mapBlobs φ)
    standing := t.standing.map (Settlement.mapBlobs φ) }

/-- The session with every binary object in it replaced. -/
def Session.mapBlobs (φ : Blob → Blob) (s : Session) : Session :=
  { s with
    transport := s.transport.mapBlobs φ
    deferred := s.deferred.map (Option.map (Settlement.mapBlobs φ))
    pending := s.pending.map (Option.map (Ticket.mapBlobs φ)) }

/-- The step with every binary object that it brings in replaced. -/
def Step.mapBlobs (φ : Blob → Blob) : Step → Step
  | .queue s => .queue (Settlement.mapBlobs φ s)
  | .settleDeferred deferred s => .settleDeferred deferred (Settlement.mapBlobs φ s)
  | .ask proxy q => .ask proxy (q.mapBlobs φ)
  | .settle settler o => .settle settler (Outcome.mapBlobs φ o)
  | .ready o => .ready (Outcome.mapBlobs φ o)
  | .ofReply o => .ofReply (Outcome.mapBlobs φ o)
  | st => st

/-- The answer with every binary object that it shows replaced. -/
def Response.mapBlobs (φ : Blob → Blob) : Response → Response
  | .outcome o => .outcome (Outcome.mapBlobs φ o)
  | .sent requests => .sent (requests.map (Sent.mapBlobs φ))
  | r => r

/-- The trace with every binary object in its answer replaced; the rest of it holds none. -/
def Session.Trace.mapBlobs (φ : Blob → Blob) (t : Session.Trace) : Session.Trace :=
  { t with response := t.response.mapBlobs φ }

/-! ### Replies -/

variable {φ : Blob → Blob}

theorem Reply.settlement?_mapBlobs (deferred : Nat → Option Settlement) (r : Reply) :
    (r.mapBlobs φ).settlement? (fun d => (deferred d).map (Settlement.mapBlobs φ)) =
      (r.settlement? deferred).map (Settlement.mapBlobs φ) := by
  cases r <;> rfl

/-- A candidate stays the candidate that it is. -/
theorem Schema.ChallengeKind.ofVariant_mapBlobs (candidate : ChallengeKind → String × Shape)
    (ks : List ChallengeKind) (x : Shape.VariantVal (ks.map candidate)) :
    ofVariant candidate ks (Shape.mapBlobsVariant φ (ks.map candidate) x) =
      ofVariant candidate ks x := by
  induction ks with
  | nil => nomatch x
  | cons k ks ih =>
    cases x with
    | inl x => rfl
    | inr x => exact ih x

/-- A response is paired by its candidate, whatever it holds. -/
theorem Reading.pair_mapBlobs (expected : Schema.ChallengeKind) (r : Schema.challengeResponse.Val) :
    pair expected (Schema.challengeResponse.mapBlobs φ r) =
      (Outcome.mapBlobs φ (pair expected r).1, (pair expected r).2) := by
  have hfound : Schema.ChallengeResponse.kind (Schema.challengeResponse.mapBlobs φ r) =
      Schema.ChallengeResponse.kind r := Schema.ChallengeKind.ofVariant_mapBlobs _ _ r
  simp only [pair, hfound]
  split <;> rfl

section

variable (hkind : ∀ b, (φ b).kind = b.kind)
include hkind

theorem Contract.receive_mapBlobs (c : Contract) (payload : Value) :
    c.receive (payload.mapBlobs φ) =
      ((c.receive payload).1.map (c.mapBlobs φ), (c.receive payload).2) := by
  rw [receive, receive, (Value.readsReplaced hkind).decode_contract]
  cases c.decode payload <;> rfl

/-- The binary objects of a reply are handed on, and nothing else is done with them. -/
theorem Reading.settle_mapBlobs (r : Reading) (s : Settlement) :
    r.settle (Settlement.mapBlobs φ s) =
      (Outcome.mapBlobs φ (r.settle s).1, (r.settle s).2) := by
  cases s with
  | error payload =>
    simp only [Settlement.mapBlobs, settle, (Value.readsReplaced hkind).ofRejection]
    rfl
  | ok payload =>
    cases r with
    | raw => rfl
    | typed c =>
      simp only [Settlement.mapBlobs, settle, resolve, Contract.receive_mapBlobs hkind]
      cases (c.receive payload).1 <;> rfl
    | challenge kind =>
      simp only [Settlement.mapBlobs, settle, resolve, Contract.receive_mapBlobs hkind]
      rcases (Contract.shaped Schema.challengeResponse).receive payload with ⟨_ | r, events⟩
      · rfl
      · exact pair_mapBlobs kind r

theorem InFlight.advance_mapBlobs (deferred : Nat → Option Settlement) (r : InFlight) :
    InFlight.advance (fun d => (deferred d).map (Settlement.mapBlobs φ)) (r.mapBlobs φ) =
      (InFlight.advance deferred r).map (Prod.map (Outcome.mapBlobs φ) id) := by
  cases r with
  | done o => rfl
  | query reply reading group method =>
    simp only [mapBlobs, advance, Reply.settlement?_mapBlobs]
    cases reply.settlement? deferred with
    | none => rfl
    | some s => simp only [Option.map_some, Reading.settle_mapBlobs hkind]; rfl

theorem Ticket.tryTake_mapBlobs (deferred : Nat → Option Settlement) (t : Ticket) :
    Pending.tryTake (InFlight.advance fun d => (deferred d).map (Settlement.mapBlobs φ))
        (Ticket.mapBlobs φ t) =
      let a := t.tryTake (InFlight.advance deferred)
      { result := a.result.map (Outcome.mapBlobs φ)
        after := Ticket.mapBlobs φ a.after
        events := a.events } := by
  cases t with
  | channel cell => cases cell <;> rfl
  | reply r =>
    simp only [mapBlobs, Pending.tryTake, InFlight.advance_mapBlobs hkind]
    cases InFlight.advance deferred r <;> rfl
  | taken => rfl

end

/-! ### Queries -/

namespace Transport

theorem nextReply_mapBlobs (t : Transport) :
    (t.mapBlobs φ).nextReply = t.nextReply.mapBlobs φ := by
  obtain ⟨available, lookups, sent, queue, standing⟩ := t
  cases queue with
  | cons r queue => rfl
  | nil => cases standing <;> rfl

theorem send_mapBlobs (t : Transport) (s : Sent) :
    (t.mapBlobs φ).send (s.mapBlobs φ) =
      ((t.send s).1.mapBlobs φ, (t.send s).2.mapBlobs φ) := by
  simp only [send, nextReply_mapBlobs]
  simp only [mapBlobs, List.map_append, List.map_tail, List.map_cons, List.map_nil]

end Transport

namespace Proxy

theorem envelope_mapBlobs (p : Proxy) (q : Query) :
    p.envelope (q.mapBlobs φ) = (p.envelope q).map (Value.mapBlobs φ) :=
  Value.buildsReplaced.envelope _ q.context q.args

theorem lookup_mapBlobs (p : Proxy) (t : Transport) :
    p.lookup (t.mapBlobs φ) = ((p.lookup t).1, (p.lookup t).2.mapBlobs φ) := by
  rw [lookup, lookup]
  cases p.closed <;> rfl

/-- Whether a query is sent does not depend on its binary objects. -/
theorem dispatch_mapBlobs (p : Proxy) (t : Transport) (q : Query) :
    p.dispatch (t.mapBlobs φ) (q.mapBlobs φ) =
      (Ticket.mapBlobs φ (p.dispatch t q).1, (p.dispatch t q).2.1.mapBlobs φ,
        (p.dispatch t q).2.2) := by
  rw [dispatch, dispatch, envelope_mapBlobs]
  split
  · rfl
  · cases p.envelope q with
    | error e => rfl
    | ok envelope =>
      simp only [Except.map, lookup_mapBlobs]
      rcases p.lookup t with ⟨_ | _, t⟩
      · rfl
      · have hrequest : p.request (envelope.mapBlobs φ) = (p.request envelope).mapBlobs φ := rfl
        simp only [hrequest, Transport.send_mapBlobs]
        rfl

end Proxy

/-! ### Sessions -/

namespace Session

theorem deferredSettlement_mapBlobs (s : Session) (d : Nat) :
    (s.mapBlobs φ).deferredSettlement d =
      (s.deferredSettlement d).map (Settlement.mapBlobs φ) := by
  simp only [deferredSettlement, mapBlobs, List.getElem?_map]
  rcases s.deferred[d]? with - | - | o <;> rfl

theorem ask_mapBlobs (s : Session) (p : Nat) (q : Query) :
    (s.mapBlobs φ).ask p (q.mapBlobs φ) =
      ((s.ask p q).1.mapBlobs φ, (s.ask p q).2.1.mapBlobs φ, (s.ask p q).2.2) := by
  have hproxies : (s.mapBlobs φ).proxies = s.proxies := rfl
  have htransport : (s.mapBlobs φ).transport = s.transport.mapBlobs φ := rfl
  rw [ask, ask, hproxies]
  cases s.proxies[p]? with
  | none => rfl
  | some px =>
    simp only [htransport, Proxy.dispatch_mapBlobs]
    simp [addPending, mapBlobs, Response.mapBlobs]

theorem settleDeferred_mapBlobs (s : Session) (d : Nat) (o : Settlement) :
    (s.mapBlobs φ).settleDeferred d (Settlement.mapBlobs φ o) =
      ((s.settleDeferred d o).1.mapBlobs φ, (s.settleDeferred d o).2.mapBlobs φ) := by
  simp only [settleDeferred, mapBlobs, List.getElem?_map]
  rcases s.deferred[d]? with - | - | o'
  · rfl
  · simp [Response.mapBlobs]
  · rfl

theorem useSettler_mapBlobs (s : Session) (g : Nat) (cell : Cell (Outcome Answer)) :
    (s.mapBlobs φ).useSettler g (cell.map (Outcome.mapBlobs φ)) =
      ((s.useSettler g cell).1.mapBlobs φ, (s.useSettler g cell).2.mapBlobs φ) := by
  simp only [useSettler, mapBlobs, List.getElem?_map]
  rcases s.settlers[g]? with - | - | id
  · rfl
  · rfl
  · rcases hid : s.pending[id]? with - | - | t
    · simp [Response.mapBlobs, hid]
    · simp [Response.mapBlobs, hid]
    · simp [Response.mapBlobs, hid, Ticket.mapBlobs]

theorem drop_mapBlobs (s : Session) (h : Nat) :
    (s.mapBlobs φ).drop h = ((s.drop h).1.mapBlobs φ, (s.drop h).2.mapBlobs φ) := by
  simp only [drop, mapBlobs, List.getElem?_map]
  rcases s.pending[h]? with - | - | t
  · rfl
  · rfl
  · simp [Response.mapBlobs]

theorem describe_mapBlobs (s : Session) (h : Nat) :
    (s.mapBlobs φ).describe h = (s.describe h).mapBlobs φ := by
  simp only [describe, mapBlobs, List.getElem?_map]
  rcases s.pending[h]? with - | - | t
  · rfl
  · rfl
  · cases t <;> rfl

theorem isAbandoned_mapBlobs (s : Session) (g : Nat) :
    (s.mapBlobs φ).isAbandoned g = (s.isAbandoned g).mapBlobs φ := by
  simp only [isAbandoned, mapBlobs, List.getElem?_map]
  rcases s.settlers[g]? with - | - | id
  · rfl
  · rfl
  · simp only [Response.mapBlobs]
    rcases s.pending[id]? with - | - | t <;> rfl

section

variable (hkind : ∀ b, (φ b).kind = b.kind)
include hkind

theorem step_take_mapBlobs (s : Session) (h : Nat) :
    (s.mapBlobs φ).step (.take h) =
      ((s.step (.take h)).1.mapBlobs φ, (s.step (.take h)).2.1.mapBlobs φ,
        (s.step (.take h)).2.2) := by
  have hdeferred : (s.mapBlobs φ).deferredSettlement =
      fun d => (s.deferredSettlement d).map (Settlement.mapBlobs φ) :=
    funext s.deferredSettlement_mapBlobs
  simp only [step, attempt, hdeferred]
  simp only [mapBlobs, List.getElem?_map]
  rcases s.pending[h]? with - | - | t
  · rfl
  · rfl
  · simp only [Option.map_some, Ticket.tryTake_mapBlobs hkind]
    cases (t.tryTake (InFlight.advance s.deferredSettlement)).result <;>
      simp [Response.mapBlobs]

/-- One step does the same whatever the binary objects in the session and in the step hold. -/
theorem step_mapBlobs (s : Session) (st : Step) :
    (s.mapBlobs φ).step (st.mapBlobs φ) =
      ((s.step st).1.mapBlobs φ, (s.step st).2.1.mapBlobs φ, (s.step st).2.2) := by
  cases st with
  | ask p q => exact s.ask_mapBlobs p q
  | take h => exact s.step_take_mapBlobs hkind h
  | await h =>
    show (s.mapBlobs φ).step (.await h) = _
    rw [step_await, step_await]
    exact s.step_take_mapBlobs hkind h
  | connectChecked settings closed =>
    simp only [Step.mapBlobs, step]
    cases Proxy.checked settings closed <;> rfl
  | disable p =>
    simp only [Step.mapBlobs, step, disable, mapBlobs]
    cases s.proxies[p]? <;> rfl
  | status p =>
    simp only [Step.mapBlobs, step, mapBlobs]
    cases s.proxies[p]? <;> rfl
  | settleDeferred d o => simp only [Step.mapBlobs, step, settleDeferred_mapBlobs]
  | dropDeferred d =>
    have hrejected : (s.mapBlobs φ).settleDeferred d (.error .undefined) = _ :=
      s.settleDeferred_mapBlobs d (.error .undefined)
    simp only [Step.mapBlobs, step, hrejected]
  | describe h => simp only [Step.mapBlobs, step, describe_mapBlobs]
  | drop h => simp only [Step.mapBlobs, step, drop_mapBlobs]
  | settle g o =>
    have hfull : (s.mapBlobs φ).useSettler g (.full (Outcome.mapBlobs φ o)) = _ :=
      s.useSettler_mapBlobs g (.full o)
    simp only [Step.mapBlobs, step, hfull]
  | dropSettler g =>
    have hclosed : (s.mapBlobs φ).useSettler g .closed = _ := s.useSettler_mapBlobs g .closed
    simp only [Step.mapBlobs, step, hclosed]
  | isAbandoned g => simp only [Step.mapBlobs, step, isAbandoned_mapBlobs]
  | queue | queueNever | defer | channel | ready | ofReply =>
    simp [Step.mapBlobs, step, mapBlobs, Transport.mapBlobs, addPending, Response.mapBlobs,
      Reply.mapBlobs, Ticket.mapBlobs, Pending.ready, Cell.map, InFlight.mapBlobs]
  | _ => rfl

/-- A run does the same whatever the binary objects in the session and in the steps hold: it is
answered alike, sends as many requests, looks up as often, and reports the same events. -/
theorem run_mapBlobs (s : Session) (steps : List Step) :
    (s.mapBlobs φ).run (steps.map (Step.mapBlobs φ)) =
      ((s.run steps).1.map (Trace.mapBlobs φ), (s.run steps).2.mapBlobs φ) := by
  induction steps generalizing s with
  | nil => rfl
  | cons st steps ih =>
    have hsent : ((s.step st).2.1.mapBlobs φ).transport.sent.length =
        (s.step st).2.1.transport.sent.length := List.length_map _
    simp only [List.map_cons, run, step_mapBlobs hkind, ih, hsent]
    rfl

end

end Session

/-! ### Main statement -/

/-- Whatever function replaces the bytes of binary objects and keeps their kinds: over both hosts,
values look like the same shapes, are read as the same things with these bytes replaced, or fail in the
same way, and stand for the same failures; writing commutes with the replacement, too, envelopes
included. If sizes are kept as well, renderings are the same. And so sessions that differ in these
bytes alone go the same way. -/
theorem blobs_invisible (hkind : ∀ b, (φ b).kind = b.kind) :
    Host.BlobBlind Value φ (Value.mapBlobs φ) ∧
    Host.BlobBlind Host.Blobless φ (Host.Blobless.mapBlobs φ) ∧
    ((∀ b, (φ b).size = b.size) → ∀ v : Value, (v.mapBlobs φ).toJson = v.toJson) ∧
    ∀ (s : Session) (steps : List Step),
      (s.mapBlobs φ).run (steps.map (Step.mapBlobs φ)) =
        ((s.run steps).1.map (Session.Trace.mapBlobs φ), (s.run steps).2.mapBlobs φ) := by
  obtain ⟨hvalue, hblobless⟩ := Host.blobBlind hkind
  exact ⟨hvalue, hblobless, Value.toJson_mapBlobs hkind, Session.run_mapBlobs hkind⟩

/-- Bytes that are all set to zero. -/
theorem blobs_invisible_zeroed :
    let zeroed : Blob → Blob := fun b => { b with bytes := b.bytes.map fun _ => 0 }
    Host.BlobBlind Value zeroed (Value.mapBlobs zeroed) ∧
      (Value.array [.blob ⟨.view, [0, 0]⟩]).toJson = (Value.array [.blob ⟨.view, [7, 9]⟩]).toJson := by
  intro zeroed
  obtain ⟨hvalue, -, hjson, -⟩ := blobs_invisible (φ := zeroed) fun _ => rfl
  exact ⟨hvalue, hjson (fun _ => List.length_map _) (.array [.blob ⟨.view, [7, 9]⟩])⟩

end Parley
