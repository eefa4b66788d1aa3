import Parley.Proxy

/-!
# What becomes of a query

`Proxy.dispatch_cases` lists the four ways in which a dispatch ends. In the first three the query is
settled at once; only in the last does the transport get a request. `Proxy.refusal?` is the failure
of the first three, and `Proxy.outgoing?` the request of the last. `Reading.outcome` says what the
reply to a request comes to, leaving out what is reported on the way.
-/

namespace Parley

namespace Proxy

/-! ### Dispatch -/

/-- A look-up is counted, and changes nothing else. A closed channel is not even looked up. -/
theorem lookup_snd (p : Proxy) (t : Transport) :
    (p.lookup t).2 = if p.closed.isSome then t else { t with lookups := t.lookups + 1 } := by
  unfold lookup
  cases p.closed <;> rfl

@[simp] theorem sent_lookup (p : Proxy) (t : Transport) : (p.lookup t).2.sent = t.sent := by
  rw [lookup_snd]
  split <;> rfl

@[simp] theorem queue_lookup (p : Proxy) (t : Transport) : (p.lookup t).2.queue = t.queue := by
  rw [lookup_snd]
  split <;> rfl

@[simp] theorem standing_lookup (p : Proxy) (t : Transport) :
    (p.lookup t).2.standing = t.standing := by
  rw [lookup_snd]
  split <;> rfl

theorem nextReply_lookup (p : Proxy) (t : Transport) :
    (p.lookup t).2.nextReply = t.nextReply := by
  rw [Transport.nextReply, queue_lookup, standing_lookup, ← Transport.nextReply]

/-- The ways in which a dispatch ends: refused, not encoded, not reached, and sent. -/
theorem dispatch_cases (p : Proxy) (t : Transport) (q : Query) :
    (p.disabled = true ∧ p.dispatch t q = (.failed .disabled, t, [p.refused q])) ∨
    (p.disabled = false ∧ ∃ err, p.envelope q = .error err ∧
      p.dispatch t q = (.failed (.encoding err), t, [notEncoded q err])) ∨
    (p.disabled = false ∧ ∃ e err, p.envelope q = .ok e ∧ (p.lookup t).1 = .error err ∧
      p.dispatch t q =
        (.failed (.invalidState err.text), (p.lookup t).2, [p.notReached q err])) ∨
    (p.disabled = false ∧ ∃ e, p.envelope q = .ok e ∧ (p.lookup t).1 = .ok () ∧
      p.dispatch t q =
        (.reply (.query t.nextReply q.reading q.group q.method),
          ((p.lookup t).2.send (p.request e)).2, [p.dispatching q])) := by
  unfold dispatch
  cases hd : p.disabled with
  | true => exact .inl ⟨rfl, rfl⟩
  | false =>
    cases he : p.envelope q with
    | error err => exact .inr (.inl ⟨rfl, err, rfl, rfl⟩)
    | ok e =>
      have hnext := p.nextReply_lookup t
      rcases hl : p.lookup t with ⟨r, t'⟩
      rw [hl] at hnext
      cases r with
      | error err => exact .inr (.inr (.inl ⟨rfl, e, err, rfl, rfl, rfl⟩))
      | ok _ =>
        refine .inr (.inr (.inr ⟨rfl, e, rfl, rfl, ?_⟩))
        rw [← hnext]
        rfl

/-- A dispatch either leaves the requests and the replies as they are, or sends one request and binds
the next reply to it. -/
theorem sent_dispatch (p : Proxy) (t : Transport) (q : Query) :
    ((p.dispatch t q).2.1.sent = t.sent ∧ (p.dispatch t q).2.1.queue = t.queue) ∨
    (∃ e, p.envelope q = .ok e ∧
      (p.dispatch t q).1 = .reply (.query t.nextReply q.reading q.group q.method) ∧
      (p.dispatch t q).2.1.sent = t.sent ++ [p.request e] ∧
      (p.dispatch t q).2.1.queue = t.queue.tail) := by
  rcases p.dispatch_cases t q with
    ⟨-, hd⟩ | ⟨-, _, -, hd⟩ | ⟨-, _, _, -, -, hd⟩ | ⟨-, e, he, -, hd⟩
  · exact .inl ⟨by rw [hd], by rw [hd]⟩
  · exact .inl ⟨by rw [hd], by rw [hd]⟩
  · exact .inl ⟨by rw [hd, sent_lookup], by rw [hd, queue_lookup]⟩
  · refine .inr ⟨e, he, by rw [hd], ?_, ?_⟩
    · rw [hd, Transport.send, sent_lookup]
    · rw [hd, Transport.send, queue_lookup]

theorem standing_dispatch (p : Proxy) (t : Transport) (q : Query) :
    (p.dispatch t q).2.1.standing = t.standing := by
  rcases p.dispatch_cases t q with
    ⟨-, hd⟩ | ⟨-, _, -, hd⟩ | ⟨-, _, _, -, -, hd⟩ | ⟨-, _, -, -, hd⟩
  · rw [hd]
  · rw [hd]
  · rw [hd, standing_lookup]
  · rw [hd, Transport.send, standing_lookup]

/-! ### The checks before a query is sent -/

/-- The failure of a query that is not sent: its proxy is disabled, or it has no envelope, or its
actor cannot be reached. The checks are made in this order, and the first that fails counts. -/
def refusal? (p : Proxy) (t : Transport) (q : Query) : Option Failure :=
  if p.disabled then some .disabled
  else
    match p.envelope q, (p.lookup t).1 with
    | .error e, _ => some (.encoding e)
    | .ok _, .error e => some (.invalidState e.text)
    | .ok _, .ok () => none

theorem refusal?_eq_none {p : Proxy} {t : Transport} {q : Query} :
    p.refusal? t q = none ↔
      p.disabled = false ∧ (∃ e, p.envelope q = .ok e) ∧ (p.lookup t).1 = .ok () := by
  rw [refusal?]
  cases p.disabled with
  | true => simp
  | false =>
    rw [if_neg Bool.false_ne_true]
    cases p.envelope q <;> cases (p.lookup t).1 <;> simp

/-- The request of a query that passes the checks. -/
def outgoing? (p : Proxy) (t : Transport) (q : Query) : Option Sent :=
  match p.refusal? t q with
  | some _ => none
  | none => (p.envelope q).toOption.map p.request

variable (p : Proxy) (t : Transport) (q : Query)

/-- The pending result of a query has failed already, or reads the reply that is next. -/
theorem dispatch_fst :
    (p.dispatch t q).1 =
      match p.refusal? t q with
      | some f => .failed f
      | none => .reply (.query t.nextReply q.reading q.group q.method) := by
  rcases p.dispatch_cases t q with
    ⟨hp, hd⟩ | ⟨hp, err, he, hd⟩ | ⟨hp, e, err, he, hl, hd⟩ | ⟨hp, e, he, hl, hd⟩
  · simp [hd, refusal?, hp]
  · simp [hd, refusal?, hp, he]
  · simp [hd, refusal?, hp, he, hl]
  · simp [hd, refusal?, hp, he, hl]

/-- Only a query that passes the checks adds to the requests, and it adds its own. -/
theorem sent_dispatch_eq : (p.dispatch t q).2.1.sent = t.sent ++ (p.outgoing? t q).toList := by
  rcases p.dispatch_cases t q with
    ⟨hp, hd⟩ | ⟨hp, err, he, hd⟩ | ⟨hp, e, err, he, hl, hd⟩ | ⟨hp, e, he, hl, hd⟩
  · simp [hd, outgoing?, refusal?, hp]
  · simp [hd, outgoing?, refusal?, hp, he]
  · simp [hd, outgoing?, refusal?, hp, he, hl]
  · simp [hd, outgoing?, refusal?, hp, he, hl, Except.toOption, Transport.send]

/-- A query has a request exactly if it passes the checks. -/
theorem isSome_outgoing : (p.outgoing? t q).isSome = (p.refusal? t q).isNone := by
  rw [outgoing?]
  cases hrefusal : p.refusal? t q with
  | some f => rfl
  | none =>
    obtain ⟨-, ⟨e, he⟩, -⟩ := refusal?_eq_none.mp hrefusal
    rw [he]
    rfl

/-- The actor is looked up unless the proxy is disabled or there is no envelope; a closed channel
counts nothing. -/
def looksUp : Bool := !p.disabled && (p.envelope q).isOk && p.closed.isNone

theorem lookups_dispatch :
    (p.dispatch t q).2.1.lookups = t.lookups + if p.looksUp q then 1 else 0 := by
  have hlookup : (p.lookup t).2.lookups = t.lookups + if p.closed.isNone then 1 else 0 := by
    rw [lookup_snd]
    cases p.closed <;> rfl
  rcases p.dispatch_cases t q with
    ⟨hp, hd⟩ | ⟨hp, err, he, hd⟩ | ⟨hp, e, err, he, hl, hd⟩ | ⟨hp, e, he, hl, hd⟩
  · simp [hd, looksUp, hp]
  · simp [hd, looksUp, he, Except.isOk, Except.toBool]
  · simp [hd, looksUp, hp, he, hlookup, Except.isOk, Except.toBool]
  · simp [hd, looksUp, hp, he, hlookup, Except.isOk, Except.toBool, Transport.send]

section Enabled

variable {p : Proxy} {t : Transport} {q : Query}

theorem dispatch_of_not_encoded (t : Transport) (hp : p.disabled = false) {e : EncodeError}
    (he : p.envelope q = .error e) :
    p.dispatch t q = (.failed (.encoding e), t, [notEncoded q e]) := by
  simp [dispatch, hp, he]

theorem dispatch_of_unavailable (hp : p.disabled = false) (hc : p.closed = none) {v : Value}
    (hv : p.envelope q = .ok v) (ht : t.available = false) :
    p.dispatch t q =
      (.failed (.invalidState (TransportError.actorUnavailable p.settings.actorName).text),
        { t with lookups := t.lookups + 1 },
        [p.notReached q (.actorUnavailable p.settings.actorName)]) := by
  simp [dispatch, hp, hv, lookup, hc, Transport.lookup, ht]

theorem dispatch_of_available (hp : p.disabled = false) (hc : p.closed = none) {v : Value}
    (hv : p.envelope q = .ok v) (ht : t.available = true) :
    p.dispatch t q =
      (.reply (.query t.nextReply q.reading q.group q.method),
        { t with
          lookups := t.lookups + 1
          sent := t.sent ++ [p.request v]
          queue := t.queue.tail },
        [p.dispatching q]) := by
  simp [dispatch, hp, hv, lookup, hc, Transport.lookup, ht, Transport.send, Transport.nextReply]

end Enabled

/-- What is sent has been looked up. -/
theorem looksUp_of_outgoing {r : Sent} (h : p.outgoing? t q = some r) : p.looksUp q = true := by
  have hpassed : p.refusal? t q = none := by
    rw [← Option.isNone_iff_eq_none, ← isSome_outgoing, h]
    rfl
  obtain ⟨hp, ⟨e, he⟩, hl⟩ := refusal?_eq_none.mp hpassed
  -- a closed channel does not look up, but it does not find either
  have hc : p.closed = none := by
    cases hc : p.closed with
    | none => rfl
    | some reason =>
      rw [lookup, hc] at hl
      cases hl
  simp [looksUp, hp, he, hc, Except.isOk, Except.toBool]

end Proxy

/-! ### The outcome of a query that is settled -/

namespace Reading

/-- What a settlement comes to: a payload is handed on, or decoded, or decoded and checked to be a
response of the paired kind; a rejection is classified. -/
def outcome (r : Reading) : Settlement → Outcome Answer
  | .error payload => .error (.ofRejection payload)
  | .ok payload =>
    match r with
    | raw => .ok (.raw payload)
    | typed c =>
      match c.decode payload with
      | .ok x => .ok (.read c x)
      | .error e => .error (.decoding e)
    | challenge kind =>
      match (Contract.shaped Schema.challengeResponse).decode payload with
      | .ok x =>
        let found := Schema.ChallengeResponse.kind x
        if found = kind then .ok (.read (.shaped Schema.challengeResponse) x)
        else .error (.wrongResponse kind found)
      | .error e => .error (.decoding e)

theorem settle_fst (r : Reading) (s : Settlement) : (r.settle s).1 = r.outcome s := by
  cases s with
  | error payload => rfl
  | ok payload =>
    cases r with
    | raw => rfl
    | typed c =>
      simp only [settle, resolve, Contract.receive, outcome]
      cases c.decode payload <;> rfl
    | challenge kind =>
      simp only [settle, resolve, Contract.receive, outcome]
      cases (Contract.shaped Schema.challengeResponse).decode payload with
      | error e => rfl
      | ok x =>
        simp only [pair]
        split <;> rfl

end Reading

end Parley
