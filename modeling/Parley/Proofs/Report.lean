import Parley.Proofs.Dispatch
import Parley.Proofs.Pending

/-!
# What is reported of a query

A query reports once when it is made: that it is sent, or which check refused it (`Proxy.report`). Its
reply reports once more, unless it is delivered (`Reading.report?`): that it is a rejection, that it
could not be read, or that it answers another challenge.
-/

namespace Parley

/-! ### Dispatch -/

/-- The event of a query that is sent. -/
def Log.Event.isDispatch (e : Log.Event) : Bool :=
  e.level = .debug && e.message = "Dispatching agent query"

namespace Proxy

variable (p : Proxy) (t : Transport) (q : Query)

/-- What is reported when a query is made. The checks come in the order in which they are made. -/
def report : Log.Event :=
  if p.disabled then p.refused q
  else
    match p.envelope q, (p.lookup t).1 with
    | .error e, _ => notEncoded q e
    | .ok _, .error e => p.notReached q e
    | .ok _, .ok () => p.dispatching q

theorem events_dispatch : (p.dispatch t q).2.2 = [p.report t q] := by
  rcases p.dispatch_cases t q with
    ⟨hp, hd⟩ | ⟨hp, err, he, hd⟩ | ⟨hp, e, err, he, hl, hd⟩ | ⟨hp, e, he, hl, hd⟩
  · simp [hd, report, hp]
  · simp [hd, report, hp, he]
  · simp [hd, report, hp, he, hl]
  · simp [hd, report, hp, he, hl]

variable {p t q}

theorem report_of_sent (h : p.refusal? t q = none) : p.report t q = p.dispatching q := by
  obtain ⟨hp, ⟨e, he⟩, hl⟩ := refusal?_eq_none.mp h
  simp [report, hp, he, hl]

/-- A query that is refused is warned of. -/
theorem level_report_of_refused {f : Failure} (h : p.refusal? t q = some f) :
    (p.report t q).level = .warn := by
  rw [refusal?] at h
  rw [report]
  split
  · rfl
  · rename_i hp
    rw [if_neg hp] at h
    cases he : p.envelope q with
    | error err => rfl
    | ok e =>
      cases hl : (p.lookup t).1 with
      | error err => rfl
      | ok _ =>
        rw [he, hl] at h
        cases h

theorem level_report :
    (p.report t q).level = if (p.outgoing? t q).isSome then .debug else .warn := by
  rw [isSome_outgoing]
  cases h : p.refusal? t q with
  | none =>
    rw [report_of_sent h]
    rfl
  | some f => exact level_report_of_refused h

/-- The dispatch of a query is reported exactly if there is a request. -/
theorem isDispatch_report : (p.report t q).isDispatch = (p.outgoing? t q).isSome := by
  rw [isSome_outgoing]
  cases h : p.refusal? t q with
  | none =>
    rw [report_of_sent h]
    rfl
  | some f =>
    have hlevel := level_report_of_refused h
    simp [Log.Event.isDispatch, hlevel]

/-- The event of a proxy that is disabled. -/
def disabling (p : Proxy) : Log.Event where
  level := .info
  target := Log.proxyTarget
  message := "Agent proxy disabled"
  fields := [("manager_id", .plain p.settings.managerId)]

/-- A proxy is made enabled. -/
theorem disabled_of_checked {settings : ProxySettings} {closed : Option String} {px : Proxy}
    (h : checked settings closed = .ok px) : px.disabled = false := by
  unfold checked at h
  split at h
  · obtain rfl := Except.ok.inj h
    rfl
  · cases h

/-- Disabling is reported unless it was done before. -/
theorem disable_snd (p : Proxy) : p.disable.2 = if p.disabled then [] else [p.disabling] := rfl

end Proxy

/-! ### Replies -/

namespace Log

/-- The event of a rejection. -/
def rejected (f : Failure) : Event where
  level := .debug
  target := proxyTarget
  message := "Agent query rejected"
  fields := [("code", .int f.code.toInt)]

/-- The event of a payload that does not match its contract. -/
def mismatched (c : Contract) (e : DecodeError) : Event where
  level := .warn
  target := replyTarget
  message := "Agent response did not match the expected shape"
  fields := [("expected", .quoted c.expected), ("error", .plain e.text)]

/-- The event of a response to another kind of challenge. -/
def mispaired (expected found : Schema.ChallengeKind) : Event where
  level := .warn
  target := operationTarget
  message := "Challenge answered with the wrong response kind"
  fields := [("expected", .quoted expected.responseType), ("found", .quoted found.responseType)]

/-- The event, inside one more activity. -/
def Event.within (span : Span) (e : Event) : Event := { e with spans := span :: e.spans }

end Log

namespace Reading

/-- What is reported of a settlement: a rejection, a payload that cannot be read, or a response of the
wrong kind. Of a payload that is delivered there is nothing to report. -/
def report? (r : Reading) : Settlement → Option Log.Event
  | .error payload => some (Log.rejected (.ofRejection payload))
  | .ok payload =>
    match r with
    | raw => none
    | typed c =>
      match c.decode payload with
      | .ok _ => none
      | .error e => some (Log.mismatched c e)
    | challenge kind =>
      match (Contract.shaped Schema.challengeResponse).decode payload with
      | .ok x =>
        let found := Schema.ChallengeResponse.kind x
        if found = kind then none else some (Log.mispaired kind found)
      | .error e => some (Log.mismatched (.shaped Schema.challengeResponse) e)

theorem settle_snd (r : Reading) (s : Settlement) : (r.settle s).2 = (r.report? s).toList := by
  cases s with
  | error payload => rfl
  | ok payload =>
    cases r with
    | raw => rfl
    | typed c =>
      simp only [settle, resolve, Contract.receive, report?]
      cases c.decode payload <;> rfl
    | challenge kind =>
      simp only [settle, resolve, Contract.receive, report?]
      cases (Contract.shaped Schema.challengeResponse).decode payload with
      | error e => rfl
      | ok x =>
        simp only [pair]
        split <;> rfl

/-- Nothing is reported exactly if the payload is delivered. -/
theorem report?_eq_none_iff {r : Reading} {s : Settlement} :
    r.report? s = none ↔ ∃ a, r.outcome s = .ok a := by
  cases s with
  | error payload => simp [report?, outcome]
  | ok payload =>
    cases r with
    | raw => simp [report?, outcome]
    | typed c =>
      simp only [report?, outcome]
      cases c.decode payload <;> simp
    | challenge kind =>
      simp only [report?, outcome]
      cases (Contract.shaped Schema.challengeResponse).decode payload with
      | error e => simp
      | ok x => by_cases hkind : Schema.ChallengeResponse.kind x = kind <;> simp [hkind]

/-- A payload that is not delivered is warned of; a rejection is not. -/
theorem level_of_report? {r : Reading} {s : Settlement} {e : Log.Event}
    (h : r.report? s = some e) : e.level = if s.isOk then .warn else .debug := by
  cases s with
  | error payload =>
    obtain rfl := Option.some.inj h
    rfl
  | ok payload =>
    show e.level = .warn
    cases r with
    | raw => cases h
    | typed c =>
      simp only [report?] at h
      cases hd : c.decode payload with
      | ok x => simp [hd] at h
      | error e' =>
        simp only [hd, Option.some_inj] at h
        exact h ▸ rfl
    | challenge kind =>
      simp only [report?] at h
      cases hd : (Contract.shaped Schema.challengeResponse).decode payload with
      | error e' =>
        simp only [hd, Option.some_inj] at h
        exact h ▸ rfl
      | ok x =>
        simp only [hd] at h
        split at h
        · cases h
        · exact Option.some.inj h ▸ rfl

/-- No settlement looks like a dispatch. -/
theorem isDispatch_of_report? {r : Reading} {s : Settlement} {e : Log.Event}
    (h : r.report? s = some e) : e.isDispatch = false := by
  cases s with
  | error payload =>
    cases h
    simp [Log.Event.isDispatch, Log.rejected]
  | ok payload =>
    have hlevel : e.level = .warn := level_of_report? h
    simp [Log.Event.isDispatch, hlevel]

end Reading

/-! ### Replies on their way -/

/-- What is reported when the outcome of a reply is there, in the span of the query. -/
def InFlight.report? (deferred : Nat → Option Settlement) : InFlight → Option Log.Event
  | query reply reading group method =>
    ((reply.settlement? deferred).bind reading.report?).map
      (Log.Event.within (Log.querySpan group method))
  | done _ => none

/-- What an attempt on a pending result reports. Only a reply has something to report. -/
def Ticket.report? (deferred : Nat → Option Settlement) : Ticket → Option Log.Event
  | .reply r => r.report? deferred
  | _ => none

variable {deferred : Nat → Option Settlement}

theorem InFlight.elim_advance (r : InFlight) :
    (advance deferred r).elim [] Prod.snd = (r.report? deferred).toList := by
  cases r with
  | done o => rfl
  | query reply reading group method =>
    simp only [advance, report?]
    cases reply.settlement? deferred with
    | none => rfl
    | some s =>
      simp only [Option.map_some, Option.elim_some, Reading.settle_snd, Option.bind_some]
      cases reading.report? s <;> rfl

theorem InFlight.report?_of_not_advance {r : InFlight} (h : r.advance deferred = none) :
    r.report? deferred = none := by
  cases r with
  | done o => cases h
  | query reply reading group method =>
    rw [report?, Option.map_eq_none_iff.mp h]
    rfl

theorem InFlight.isDispatch_of_report? {r : InFlight} {e : Log.Event}
    (h : r.report? deferred = some e) : e.isDispatch = false := by
  cases r with
  | done o => cases h
  | query reply reading group method =>
    obtain ⟨e', he', rfl⟩ := Option.map_eq_some_iff.mp h
    obtain ⟨s, -, hs⟩ := Option.bind_eq_some_iff.mp he'
    show e'.isDispatch = false
    exact Reading.isDispatch_of_report? hs

/-- An attempt that is not answered reports nothing. -/
theorem Ticket.report?_of_not_offer {t : Ticket}
    (h : Pending.offer (InFlight.advance deferred) t = none) : Ticket.report? deferred t = none := by
  cases t with
  | reply r => exact InFlight.report?_of_not_advance (Option.map_eq_none_iff.mp h)
  | _ => rfl

/-- Whether a pending result reads the reply to a query. -/
def Ticket.readsReply : Ticket → Bool
  | .reply (.query _ _ _ _) => true
  | _ => false

theorem Ticket.readsReply_of_report? {t : Ticket} {e : Log.Event}
    (h : Ticket.report? deferred t = some e) : t.readsReply = true := by
  cases t with
  | reply r =>
    cases r with
    | query reply reading group method => rfl
    | done o => cases h
  | _ => cases h

theorem Ticket.isDispatch_of_report? {t : Ticket} {e : Log.Event}
    (h : Ticket.report? deferred t = some e) : e.isDispatch = false := by
  cases t with
  | reply r => exact InFlight.isDispatch_of_report? h
  | _ => cases h

theorem Ticket.events_tryTake (t : Ticket) :
    (t.tryTake (InFlight.advance deferred)).events = (Ticket.report? deferred t).toList := by
  cases t with
  | channel cell => cases cell <;> rfl
  | taken => rfl
  | reply r =>
    simp only [report?, ← InFlight.elim_advance, Pending.tryTake]
    cases InFlight.advance deferred r <;> rfl

end Parley
