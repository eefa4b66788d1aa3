import Parley.Proofs.Failure
import Parley.Proofs.Session.Query

/-!
# Aborts

A failure that is seen on the result of a query arose on this side, or it is what the reply of that
query rejects with, seen for the first time (`Session.failure_of_observed`). Only the other side can
say that an operation was aborted: `Session.abort_from_rejection`.
-/

namespace Parley.Session

open History

variable {s' : Session} {H : List Moment} {h p : Nat} {px : Proxy} {t : Transport} {q : Query}

/-- A query offers what its reply comes to only if no check refuses it. -/
theorem rejected_of_offers {f : Failure} {deferred : Nat → Option Settlement}
    (hoffers : px.offers t q deferred = some (.error f)) :
    f.Local ∨ px.refusal? t q = none ∧
      ∃ payload, t.nextReply.settlement? deferred = some (.error payload) ∧
        f = .ofRejection payload := by
  rw [Proxy.offers] at hoffers
  cases hrefusal : px.refusal? t q with
  | some f' =>
    rw [hrefusal] at hoffers
    obtain rfl := Except.error.inj (Option.some.inj hoffers)
    exact .inl (Proxy.local_of_refusal hrefusal)
  | none =>
    rw [hrefusal] at hoffers
    obtain ⟨settled, hsettled, houtcome⟩ := Option.map_eq_some_iff.mp hoffers
    cases settled with
    | error payload => exact .inr ⟨rfl, payload, hsettled, (Except.error.inj houtcome).symm⟩
    | ok payload => exact .inl (Reading.local_of_resolved houtcome)

section Observed

variable (htake : (s'.step (.take h)).1 =
  .ofAttempt (dropped h H) (handedOut h H) (px.offers t q (settlement H)))
include htake

/-- Where a failure comes from that is seen on the result of a query. -/
theorem failure_of_observed {f : Failure} (ho : s'.Observes h (.error f)) :
    f.Local ∨ px.refusal? t q = none ∧ handedOut h H = false ∧
      ∃ payload, t.nextReply.settlement? (settlement H) = some (.error payload) ∧
        f = .ofRejection payload := by
  rw [observes_iff, htake, Response.ofAttempt_eq_outcome] at ho
  obtain ⟨-, ho⟩ := ho
  cases hhanded : handedOut h H with
  | true =>
    -- the outcome is gone, whatever it was
    rw [hhanded, if_pos rfl] at ho
    exact .inl (Except.error.inj ho ▸ .abandoned)
  | false =>
    rw [hhanded, if_neg Bool.false_ne_true] at ho
    rcases rejected_of_offers ho with hlocal | ⟨hsent, hrejected⟩
    · exact .inl hlocal
    · exact .inr ⟨hsent, rfl, hrejected⟩

theorem observed_of_rejected {o : Outcome Answer} (ho : s'.Observes h o)
    (hsent : px.refusal? t q = none) (hfirst : handedOut h H = false) {payload : Value}
    (hrejected : t.nextReply.settlement? (settlement H) = some (.error payload)) :
    o = .error (.ofRejection payload) := by
  have hdropped : dropped h H = false := by
    rw [observes_iff, htake, Response.ofAttempt_eq_outcome] at ho
    exact ho.1
  rw [observes_of_waiting htake hdropped hfirst, Proxy.offers, hsent, hrejected] at ho
  exact (Option.some.inj ho).symm

/-- An outcome is an abort exactly if the query was sent, it is seen for the first time, and its
reply is a rejection that says so. -/
theorem abort_iff_rejected {o : Outcome Answer} (ho : s'.Observes h o) :
    (∃ f, o = .error f ∧ (AgentError.ofFailure f).kind = .abort) ↔
      px.refusal? t q = none ∧ handedOut h H = false ∧
        ∃ payload, t.nextReply.settlement? (settlement H) = some (.error payload) ∧
          Failure.Aborts payload := by
  constructor
  · rintro ⟨f, rfl, hkind⟩
    have hkind : f.kind = .abort := hkind
    rcases failure_of_observed htake ho with hlocal | ⟨hsent, hfirst, payload, hrejected, rfl⟩
    · rw [hlocal.kind_eq] at hkind
      cases hkind
    · exact ⟨hsent, hfirst, payload, hrejected, (Failure.kind_ofRejection payload).mp hkind⟩
  · rintro ⟨hsent, hfirst, payload, hrejected, haborts⟩
    exact ⟨_, observed_of_rejected htake ho hsent hfirst hrejected,
      (Failure.kind_ofRejection payload).mpr haborts⟩

end Observed

/-- An outcome that is seen on the result of a query is an abort if and only if the query was sent,
nothing was handed out before, and its own reply is a rejection whose payload is an object with the
number 20 as its `result`. Every other failure arose on this side or is what such a rejection says:
its code is the integer in `result`, if it is one within the safe range, and else zero, and its
message the text in `message`. Failures of this side are never aborts, and an error that callers see
has always a message. -/
theorem abort_from_rejection (standing : Option Settlement) (before later : List Step) {p h : Nat}
    {q : Query} (hmade : (((new standing).after before).step (.ask p q)).1 = .pending h) :
    let s := (new standing).after before
    let asked := (s.step (.ask p q)).2.1
    let s' := asked.after later
    let H := (new standing).history (before ++ .ask p q :: later)
    let reply := s.transport.nextReply.settlement? (settlement H)
    (∀ o, s'.Observes h o →
      ((∃ f, o = .error f ∧ (AgentError.ofFailure f).kind = .abort) ↔
        s.transport.sent.length < asked.transport.sent.length ∧ handedOut h H = false ∧
          ∃ entries, reply = some (.error (.object entries)) ∧
            (Entries.get? entries "result" = some (.int 20) ∨
              Entries.get? entries "result" = some (.double (Double.ofInt 20))))) ∧
    (∀ f, s'.Observes h (.error f) →
      f.Local ∨ s.transport.sent.length < asked.transport.sent.length ∧ handedOut h H = false ∧
        ∃ payload, reply = some (.error payload) ∧ f = .ofRejection payload) ∧
    (∀ payload : Value,
      (Failure.ofRejection payload).code.toInt =
        (((payload.get? "result").bind Value.integer?).filter fun n => n.natAbs < 2 ^ 53).getD 0 ∧
      (Failure.ofRejection payload).message = (payload.get? "message").bind Value.string?) ∧
    (∀ f : Failure, f.Local → f.kind = .invalidState ∧ f.code = 11) ∧
    ∀ f : Failure, (AgentError.ofFailure f).message ≠ "" ∧
      (f.message.getD "" = "" → (AgentError.ofFailure f).message = "Unknown error") ∧
      ∀ m, f.message = some m → m ≠ "" → (AgentError.ofFailure f).message = m := by
  intro s asked s' H reply
  obtain ⟨px, hp, rfl⟩ := proxy_of_ask hmade
  have htake := take_of_ask standing before later hp q
  have hsent := sent_ask_iff hp q
  refine ⟨fun o ho => ?_, fun f ho => ?_, fun payload => ?_, fun f hf => ?_, fun f => ?_⟩
  · rw [abort_iff_rejected htake ho, hsent]
    constructor
    · rintro ⟨hrefusal, hfirst, _, hrejected, entries, rfl, hresult⟩
      exact ⟨hrefusal, hfirst, entries, hrejected, hresult⟩
    · rintro ⟨hrefusal, hfirst, entries, hrejected, hresult⟩
      exact ⟨hrefusal, hfirst, _, hrejected, entries, rfl, hresult⟩
  · rw [hsent]
    exact failure_of_observed htake ho
  · exact ⟨Failure.toInt_code_ofRejection payload, Failure.message_ofRejection payload⟩
  · exact ⟨hf.kind_eq, hf.code_eq⟩
  · exact ⟨AgentError.message_ofFailure_ne f, AgentError.message_ofFailure_of_empty,
      fun _ => AgentError.message_ofFailure⟩

/-- A query that is rejected with the double 20 and an empty message, asked twice. -/
theorem abort_from_rejection_double :
    let q : Query := ⟨"group", "method", .of .null (), none, .raw⟩
    let payload : Value := .object [("result", .double (Double.ofInt 20)), ("message", .string "")]
    let s := (new none).after [.connect "manager" none, .queue (.error payload)]
    let asked := (s.step (.ask 0 q)).2.1
    (s.step (.ask 0 q)).1 = .pending 0 ∧
    (∃ f, asked.Observes 0 (.error f) ∧ (AgentError.ofFailure f).kind = .abort ∧
      (AgentError.ofFailure f).message = "Unknown error") ∧
    ∃ f, (asked.after [.await 0]).Observes 0 (.error f) ∧
      (AgentError.ofFailure f).kind ≠ .abort := by
  intro q payload s asked
  obtain ⟨haborts, -, -, -, hmessage⟩ := abort_from_rejection none
    [.connect "manager" none, .queue (.error payload)] [] (p := 0) (q := q) (h := 0) rfl
  obtain ⟨hspent, -⟩ := abort_from_rejection none
    [.connect "manager" none, .queue (.error payload)] [.await 0] (p := 0) (q := q) (h := 0) rfl
  have hfirst : asked.Observes 0 (.error (.ofRejection payload)) := .inl rfl
  have hagain : (asked.after [.await 0]).Observes 0 (.error .abandoned) := .inl rfl
  obtain ⟨f, hf, hkind⟩ := (haborts _ hfirst).mpr
    ⟨Nat.lt_succ_self 0, rfl, _, rfl, .inr rfl⟩
  obtain rfl := Except.error.inj hf
  refine ⟨rfl, ⟨_, hfirst, hkind, (hmessage _).2.1 rfl⟩, _, hagain, fun hkind => ?_⟩
  obtain ⟨-, hhanded, -⟩ := (hspent _ hagain).mp ⟨_, rfl, hkind⟩
  cases hhanded

end Parley.Session
