import Parley.Proofs.Envelope
import Parley.Proofs.Schema.Pairing
import Parley.Proofs.Session.Query

/-!
# Answering challenges

Every challenge can be sent if its context has a dynamic value (`Session.refusal_of_challenge`).
Whatever is done before and after, its result is then decided by its own reply:
`Session.challenge_paired`.
-/

namespace Parley.Session

open History Schema

/-- Whether a challenge is sent does not hang on what it says. -/
theorem refusal_of_challenge {px : Proxy} {t : Transport} {context : requestContext.Val}
    (hcontext : ∃ c, requestContext.encode Value context = .ok c)
    (args : respondToChallengeArgs.Val) :
    px.refusal? t ((Operation.respondToChallenge args).query context) = none ↔
      px.disabled = false ∧ (px.lookup t).1 = .ok () := by
  obtain ⟨c, hc⟩ := hcontext
  have hargs : ∀ p, (Operation.respondToChallenge args).args = some p →
      ∃ x, p.encode Value = .ok x := by
    intro p hp
    obtain rfl := Option.some.inj hp
    exact respondToChallengeArgs_total args
  have hc : (Payload.of requestContext context).encode Value = .ok c := hc
  have he : ∃ e, px.envelope ((Operation.respondToChallenge args).query context) = .ok e :=
    Address.envelope_of_encode hc hargs
  rw [Proxy.refusal?_eq_none, and_iff_right he]

/-- The result of a challenge, as long as it is there and has not been handed out, shows a response
if and only if the challenge was sent and its reply resolved with a payload whose `type` is that of
the paired response and which the paired struct reads. The response is then that struct as the
variant of its kind, and answers the challenge. The response to another kind and what is no response
at all are failures of this side, a rejection is what it says, and a challenge that was not sent has
failed on this side. What the challenge says has no part in whether it is sent. -/
theorem challenge_paired (standing : Option Settlement) (before later : List Step) {p : Nat}
    {px : Proxy} {context : requestContext.Val} (args : respondToChallengeArgs.Val)
    (hp : ((new standing).after before).proxies[p]? = some px)
    (hcontext : ∃ c, requestContext.encode Value context = .ok c) :
    let q := (Operation.respondToChallenge args).query context
    let s := (new standing).after before
    let asked := (s.step (.ask p q)).2.1
    let s' := asked.after later
    let H := (new standing).history (before ++ .ask p q :: later)
    let h := s.pending.length
    let sent := s.transport.sent.length < asked.transport.sent.length
    let reply := s.transport.nextReply.settlement? (settlement H)
    let message := RespondToChallengeArgs.message args
    let kind := ChallengeMessage.kind message
    (s.step (.ask p q)).1 = .pending h ∧
    (sent ↔ px.disabled = false ∧ (px.lookup s.transport).1 = .ok ()) ∧
    (dropped h H = false → handedOut h H = false →
      (∀ a, s'.Observes h (.ok a) ↔
        sent ∧ ∃ payload x, reply = some (.ok payload) ∧
          payload.get? "type" = some (.string kind.responseType) ∧
          kind.response.2.decode payload = .ok x ∧
          a = .read (.shaped challengeResponse) (ChallengeResponse.of kind x)) ∧
      (sent →
        (∀ payload k x, reply = some (.ok payload) → k ≠ kind →
          k.response.2.decode payload = .ok x → s'.Observes h (.error (.wrongResponse kind k))) ∧
        (∀ payload, reply = some (.ok payload) →
          (∀ k : ChallengeKind, (k.response.2.decode payload).isOk = false) →
          ∃ e, s'.Observes h (.error (.decoding e))) ∧
        ∀ payload, reply = some (.error payload) →
          s'.Observes h (.error (.ofRejection payload))) ∧
      (¬ sent → ∃ f, s'.Observes h (.error f) ∧ f.Local)) ∧
    (∀ f : Failure, f.Local → f.kind = .invalidState) ∧
    ∀ x, Shape.chosen (ChallengeKind.all.map ChallengeKind.response) (ChallengeResponse.of kind x) =
        ⟨kind.response, x⟩ ∧
      ChallengeResponse.answers (ChallengeResponse.of kind x) message = true := by
  intro q s asked s' H h sent reply message kind
  have hsent : sent ↔ px.refusal? s.transport q = none := sent_ask_iff hp q
  have htake := take_of_ask standing before later hp q
  refine ⟨by rw [step_ask hp], hsent.trans (refusal_of_challenge hcontext args),
    fun hdropped hfirst => ?_, fun f hf => hf.kind_eq,
    fun x => ⟨ChallengeResponse.chosen_of kind x, ?_⟩⟩
  · have hobserves : ∀ o, s'.Observes h o ↔ px.offers s.transport q (settlement H) = some o :=
      fun o => observes_of_waiting htake hdropped hfirst
    cases hrefusal : px.refusal? s.transport q with
    | some f =>
      have hunsent : ¬ sent := by
        rw [hsent, hrefusal]
        exact Option.some_ne_none f
      have hoffers : px.offers s.transport q (settlement H) = some (.error f) := by
        rw [Proxy.offers, hrefusal]
      refine ⟨fun a => ?_, fun h => absurd h hunsent, fun _ => ⟨f, (hobserves _).mpr hoffers, ?_⟩⟩
      · rw [hobserves, hoffers]
        constructor
        · intro ha
          cases ha
        · exact fun h => absurd h.1 hunsent
      · exact Proxy.local_of_refusal hrefusal
    | none =>
      have hsent : sent := hsent.mpr hrefusal
      have hoffers : px.offers s.transport q (settlement H) =
          reply.map (Reading.challenge kind).outcome := by
        rw [Proxy.offers, hrefusal]
        rfl
      simp only [hobserves, hoffers, Option.map_eq_some_iff]
      refine ⟨fun a => ?_, fun _ => ⟨fun payload k x hreply hne hx => ⟨_, hreply, ?_⟩,
        fun payload hreply hnone => ?_, fun payload hreply => ⟨_, hreply, rfl⟩⟩, absurd hsent⟩
      · rw [and_iff_right hsent]
        constructor
        · rintro ⟨settled, hreply, houtcome⟩
          obtain ⟨payload, x, rfl, htype, hx, ha⟩ := Reading.outcome_challenge.mp houtcome
          exact ⟨payload, x, hreply, htype, hx, ha⟩
        · rintro ⟨payload, x, hreply, htype, hx, ha⟩
          exact ⟨_, hreply, Reading.outcome_challenge.mpr ⟨payload, x, rfl, htype, hx, ha⟩⟩
      · rw [Reading.outcome_of_response hx, if_neg hne]
      · obtain ⟨e, he⟩ : ∃ e, (Reading.challenge kind).outcome (.ok payload) =
            .error (.decoding e) := Reading.outcome_of_no_response hnone
        exact ⟨e, _, hreply, he⟩
  · rw [ChallengeResponse.answers, ChallengeResponse.kind_of]
    exact decide_eq_true rfl

/-- A ping is answered by a pong with properties to spare, and another one by a nonce. -/
theorem challenge_paired_ping :
    let args : respondToChallengeArgs.Val :=
      (WebAppActor.new "key", .inr (.inl ((), (7 : UInt32), ())), ())
    let context := RequestContext.new "https://app.example" 1
    let q := (Operation.respondToChallenge args).query context
    let pong : Value := .object [("sequence", .int 7), ("nonce", .string "n"),
      ("type", .string "pong")]
    let nonce : Value := .object [("nonce", .string "n"), ("type", .string "nonceResponse")]
    let steps : List Step := [.connect "manager" none, .queue (.ok pong), .queue (.ok nonce)]
    let s := (new none).after steps
    let s₂ := (new none).after (steps ++ [.ask 0 q])
    (s.proxies[0]? = some { settings := { managerId := "manager" } }) ∧
    (∃ c, requestContext.encode Value context = .ok c) ∧
    (∃ r, (s.step (.ask 0 q)).2.1.Observes 0 (.ok (.read (.shaped challengeResponse) r)) ∧
      ChallengeResponse.answers r (RespondToChallengeArgs.message args) = true) ∧
    (s₂.step (.ask 0 q)).2.1.Observes 1 (.error (.wrongResponse .ping .nonceRequest)) := by
  intro args context q pong nonce steps s s₂
  have hcontext : ∃ c, requestContext.encode Value context = .ok c := ⟨_, rfl⟩
  obtain ⟨-, hsent, hpong, -, hanswers⟩ :=
    challenge_paired none steps [] (p := 0) args rfl hcontext
  obtain ⟨-, hsent₂, hnonce, -⟩ :=
    challenge_paired none (steps ++ [.ask 0 q]) [] (p := 0) args rfl hcontext
  obtain ⟨hok, -⟩ := hpong rfl rfl
  obtain ⟨-, hfailed, -⟩ := hnonce rfl rfl
  obtain ⟨hwrong, -⟩ := hfailed (hsent₂.mpr ⟨rfl, rfl⟩)
  have hseven : pongResponse.decode pong = .ok ((), (7 : UInt32), ()) := rfl
  have hn : nonceResponse.decode nonce = .ok ((), "n", ()) := rfl
  have hanswer := (hok _).mpr ⟨hsent.mpr ⟨rfl, rfl⟩, pong, _, rfl, rfl, hseven, rfl⟩
  exact ⟨rfl, hcontext, ⟨_, hanswer, (hanswers _).2⟩, hwrong nonce .nonceRequest _ rfl nofun hn⟩

end Parley.Session
