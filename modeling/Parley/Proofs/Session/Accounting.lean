import Parley.Proofs.Dispatch
import Parley.Proofs.Number
import Parley.Proofs.Session.Track

/-!
# Requests and look-ups

What the transport has recorded can be read off the history of a session: its requests are those of
the queries that passed all checks, in order (`sent_after`), and its look-ups belong to the queries
that were not refused before (`lookups_after`). Nothing but a query adds to either.

`Session.dispatch_accounted` puts this together with what a single query does, whichever of its
checks fails.
-/

namespace Parley

open History

namespace Moment

/-- The request that is handed to the transport, if a query passes all checks. -/
def request? (m : Moment) : Option Sent :=
  match m.step with
  | .ask p q => (m.session.proxies[p]?).bind (·.outgoing? m.session.transport q)
  | _ => none

/-- Whether the transport looks an actor up. -/
def looksUp (m : Moment) : Bool :=
  match m.step with
  | .ask p q => (m.session.proxies[p]?).any (·.looksUp q)
  | _ => false

/-! ### One step -/

theorem sent_next (m : Moment) :
    m.next.transport.sent = m.session.transport.sent ++ m.request?.toList := by
  obtain ⟨s, st⟩ := m
  show (s.step st).2.1.transport.sent = _
  rw [s.transport_step]
  cases st with
  | ask p q =>
    simp only [Session.transportAfter, request?]
    cases s.proxies[p]? with
    | none => simp
    | some px => exact px.sent_dispatch_eq s.transport q
  | _ => exact (List.append_nil _).symm

theorem lookups_next (m : Moment) :
    m.next.transport.lookups = m.session.transport.lookups + if m.looksUp then 1 else 0 := by
  obtain ⟨s, st⟩ := m
  show (s.step st).2.1.transport.lookups = _
  rw [s.transport_step]
  cases st with
  | ask p q =>
    have hlooks : (mk s (.ask p q)).looksUp = (s.proxies[p]?).any (·.looksUp q) := rfl
    rw [hlooks, Session.transportAfter]
    cases s.proxies[p]? with
    | none => rfl
    | some px => exact px.lookups_dispatch s.transport q
  | _ => rfl

theorem looksUp_of_request {m : Moment} (h : m.request?.isSome) : m.looksUp = true := by
  obtain ⟨s, st⟩ := m
  cases st with
  | ask p q =>
    obtain ⟨r, hr⟩ := Option.isSome_iff_exists.mp h
    obtain ⟨px, hpx, hr⟩ := Option.bind_eq_some_iff.mp hr
    show (s.proxies[p]?).any (·.looksUp q) = true
    rw [hpx]
    exact px.looksUp_of_outgoing s.transport q hr
  | _ => cases h

end Moment

namespace Session

variable {s : Session} {st : Step}

/-- Only queries pass over the transport. -/
theorem transport_frame (hst : ∀ p q, st ≠ .ask p q) :
    (s.step st).2.1.transport.sent = s.transport.sent ∧
      (s.step st).2.1.transport.lookups = s.transport.lookups := by
  rw [transport_step]
  cases st with
  | ask p q => exact absurd rfl (hst p q)
  | _ => exact ⟨rfl, rfl⟩

/-! ### Runs -/

theorem sent_after (standing : Option Settlement) (steps : List Step) :
    ((new standing).after steps).transport.sent =
      ((new standing).history steps).filterMap (·.request?) := by
  refine run_induction (motive := fun s H => s.transport.sent = H.filterMap (·.request?)) rfl ?_
    steps
  intro s H st ih
  have hnext := Moment.sent_next ⟨s, st⟩
  rw [List.filterMap_append, ← ih]
  refine hnext.trans ?_
  cases hm : (Moment.mk s st).request? <;> simp [hm]

theorem lookups_after (standing : Option Settlement) (steps : List Step) :
    ((new standing).after steps).transport.lookups =
      ((new standing).history steps).countP (·.looksUp) := by
  refine run_induction (motive := fun s H => s.transport.lookups = H.countP (·.looksUp)) rfl ?_
    steps
  intro s H st ih
  have hnext := Moment.lookups_next ⟨s, st⟩
  rw [List.countP_append, ← ih, List.countP_singleton]
  exact hnext

theorem sent_prefix (standing : Option Settlement) (before later : List Step) :
    ((new standing).after before).transport.sent <+:
      ((new standing).after (before ++ later)).transport.sent := by
  rw [sent_after, sent_after, history_append, List.filterMap_append]
  exact List.prefix_append ..

theorem sent_le_lookups (standing : Option Settlement) (steps : List Step) :
    ((new standing).after steps).transport.sent.length ≤
      ((new standing).after steps).transport.lookups := by
  rw [sent_after, lookups_after, List.length_filterMap_eq_countP]
  exact List.countP_mono_left fun m _ hm => Moment.looksUp_of_request hm

/-! ### Main statement -/

/-- The pending result is settled: however it is asked, it gives a failure that arose on this
side. -/
def HasFailed (s : Session) (h : Nat) (f : Failure) : Prop :=
  (s.step (.take h)).1 = .outcome (.error f) ∧ (s.step (.await h)).1 = .outcome (.error f) ∧
    f.kind = .invalidState ∧ f.code = 11

/-- A result that was made as a failure has failed. -/
theorem hasFailed_of_made {h : Nat} {message : String}
    (hs : s.pending[h]? = some (some (.failed (.invalidState message)))) :
    s.HasFailed h (.invalidState message) := by
  have htake : (s.step (.take h)).1 = .outcome (.error (.invalidState message)) := by
    rw [step_take, hs]
    rfl
  refine ⟨htake, ?_, rfl, rfl⟩
  rw [step_await]
  exact htake

/-- Every query through a proxy that is enabled and connected is accounted for. Without an envelope
it fails at once and the transport stays as it is, available or not; with an envelope but without an
actor it fails at once and a look-up is counted; otherwise a look-up is counted, exactly its own
request is added behind the others, and its result waits for the reply that is next. So the requests
of a run only grow, they are those of the queries that passed all checks, there are never more of
them than look-ups, and no step but a query adds to either. -/
theorem dispatch_accounted (standing : Option Settlement) (steps : List Step) :
    let s := (new standing).after steps
    let H := (new standing).history steps
    (∀ (p : Nat) (px : Proxy) (q : Query),
      s.proxies[p]? = some px → px.disabled = false → px.closed = none →
      let envelope :=
        Address.envelope Value ⟨px.settings.managerId, q.group, q.method⟩ q.context q.args
      let unreached : TransportError := .actorUnavailable px.settings.actorName
      let h := s.pending.length
      let s' := (s.step (.ask p q)).2.1
      (s.step (.ask p q)).1 = .pending h ∧
      (∀ e, envelope = .error e →
        s' = { s with pending := s.pending ++ [some (.failed (.encoding e))] } ∧
          s'.HasFailed h (.encoding e)) ∧
      (∀ v, envelope = .ok v → s.transport.available = false →
        s' = { s with
          transport := { s.transport with lookups := s.transport.lookups + 1 }
          pending := s.pending ++ [some (.failed (.invalidState unreached.text))] } ∧
          s'.HasFailed h (.invalidState unreached.text)) ∧
      (∀ v, envelope = .ok v → s.transport.available = true →
        s' = { s with
          transport := { s.transport with
            lookups := s.transport.lookups + 1
            sent := s.transport.sent ++ [⟨px.settings.actorName, px.settings.entryPoint, v⟩]
            queue := s.transport.queue.tail }
          pending := s.pending ++
            [some (.reply (.query s.transport.nextReply q.reading q.group q.method))] })) ∧
    (∀ before later, steps = before ++ later →
      ((new standing).after before).transport.sent <+: s.transport.sent) ∧
    s.transport.sent = H.filterMap (·.request?) ∧
    s.transport.sent.length = H.countP (·.request?.isSome) ∧
    s.transport.sent.length ≤ s.transport.lookups ∧
    ∀ st, (∀ p q, st ≠ .ask p q) →
      (s.step st).2.1.transport.sent = s.transport.sent ∧
        (s.step st).2.1.transport.lookups = s.transport.lookups := by
  intro s H
  have hsent : s.transport.sent = H.filterMap (·.request?) := sent_after standing steps
  refine ⟨?_, ?_, hsent, ?_, sent_le_lookups standing steps, fun st hst => transport_frame hst⟩
  · intro p px q hp henabled hopen envelope unreached h s'
    have henvelope : px.envelope q = envelope := rfl
    have hs' : s' = { s with
        transport := (px.dispatch s.transport q).2.1
        pending := s.pending ++ [some (px.dispatch s.transport q).1] } := by
      show (s.step (.ask p q)).2.1 = _
      rw [step_ask hp]
    refine ⟨by rw [step_ask hp], fun e he => ?_, fun v hv hunavailable => ?_,
      fun v hv havailable => ?_⟩
    · have hd := px.dispatch_of_not_encoded s.transport henabled (henvelope.trans he)
      rw [hd] at hs'
      exact ⟨hs', hasFailed_of_made (by rw [hs', List.getElem?_concat_length]; rfl)⟩
    · have hd := px.dispatch_of_unavailable henabled hopen (henvelope.trans hv) hunavailable
      rw [hd] at hs'
      exact ⟨hs', hasFailed_of_made (by rw [hs', List.getElem?_concat_length])⟩
    · have hd := px.dispatch_of_available henabled hopen (henvelope.trans hv) havailable
      rw [hd] at hs'
      exact hs'
  · rintro before later rfl
    exact sent_prefix standing before later
  · rw [hsent, List.length_filterMap_eq_countP]

/-- A context whose integer no double holds, and then a query that is in order, first without an
actor and then with one. -/
theorem dispatch_accounted_unavailable :
    let proxy : Proxy := { settings := { managerId := "manager" } }
    let wide : Query :=
      ⟨"group", "method", .of (.int .uint64) (0x20000000000000 : UInt64), none, .raw⟩
    let q : Query := ⟨"group", "method", .of .null (), none, .raw⟩
    let v : Value := .object [("managerId", .string "manager"), ("group", .string "group"),
      ("method", .string "method"), ("context", .null)]
    let s := (new none).after [.connect "manager" none]
    let s' := (new none).after [.connect "manager" none, .available false]
    s.proxies[0]? = some proxy ∧ s'.proxies[0]? = some proxy ∧
    (∃ e, proxy.envelope wide = .error e ∧
      (s'.step (.ask 0 wide)).2.1.transport = s'.transport ∧
      (s'.step (.ask 0 wide)).2.1.HasFailed 0 (.encoding e)) ∧
    proxy.envelope q = .ok v ∧
    (s'.step (.ask 0 q)).2.1.transport = { s'.transport with lookups := 1 } ∧
    (s'.step (.ask 0 q)).2.1.HasFailed 0 (.invalidState "Agent actor unavailable: AgentQuery") ∧
    (s.step (.ask 0 q)).2.1.transport.sent = [⟨"AgentQuery", "Query", v⟩] := by
  intro proxy wide q v s s'
  obtain ⟨hsome, -⟩ := dispatch_accounted none [.connect "manager" none]
  obtain ⟨hsome', -⟩ := dispatch_accounted none [.connect "manager" none, .available false]
  obtain ⟨-, -, -, hsent⟩ := hsome 0 proxy q rfl rfl rfl
  obtain ⟨-, -, hunreached, -⟩ := hsome' 0 proxy q rfl rfl rfl
  obtain ⟨-, hwide, -⟩ := hsome' 0 proxy wide rfl rfl rfl
  have hv : proxy.envelope q = .ok v := rfl
  have hcontext : wide.context.encode Value = .error _ :=
    (Codec.writeInt_eq (V := Value) .uint64 (0x20000000000000 : UInt64)).trans (if_neg (by decide))
  obtain ⟨e, he⟩ : ∃ e, proxy.envelope wide = .error e := by
    rw [Proxy.envelope, Address.envelope, hcontext]
    exact ⟨_, rfl⟩
  obtain ⟨hstate, hfailed⟩ := hwide e he
  obtain ⟨hstate', hfailed'⟩ := hunreached v hv rfl
  refine ⟨rfl, rfl, ⟨e, he, ?_, hfailed⟩, hv, ?_, hfailed', ?_⟩
  · rw [hstate]
  · rw [hstate']
    rfl
  · rw [hsent v hv rfl]
    rfl

end Session

end Parley
