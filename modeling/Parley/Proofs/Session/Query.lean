import Parley.Proofs.Session.Routing

/-!
# The result of a query

A query is settled from the start, by the check that refuses it, or by the reply that is next when
it is made (`Proxy.offers`). `Session.take_of_ask`: whatever is done before and after, an attempt on
its result is answered by nothing else.
-/

namespace Parley

/-- What the result of a query has to offer, where `deferred` tells how the deferred replies have
been settled. -/
def Proxy.offers (p : Proxy) (t : Transport) (q : Query) (deferred : Nat → Option Settlement) :
    Option (Outcome Answer) :=
  match p.refusal? t q with
  | some f => some (.error f)
  | none => (t.nextReply.settlement? deferred).map q.reading.outcome

namespace Session

open History

/-- An outcome is seen when a pending result is asked for it, by either means. -/
def Observes (s : Session) (h : Nat) (o : Outcome Answer) : Prop :=
  (s.step (.take h)).1 = .outcome o ∨ (s.step (.await h)).1 = .outcome o

theorem observes_iff {s : Session} {h : Nat} {o : Outcome Answer} :
    s.Observes h o ↔ (s.step (.take h)).1 = .outcome o := by
  rw [Observes, step_await, or_self]

/-! ### Making a query -/

/-- A query makes a pending result if its proxy is there. -/
theorem proxy_of_ask {s : Session} {p h : Nat} {q : Query}
    (hmade : (s.step (.ask p q)).1 = .pending h) :
    ∃ px, s.proxies[p]? = some px ∧ h = s.pending.length := by
  cases hp : s.proxies[p]? with
  | none =>
    simp only [step, ask, hp] at hmade
    cases hmade
  | some px =>
    rw [step_ask hp] at hmade
    exact ⟨px, rfl, (Response.pending.inj hmade).symm⟩

theorem sent_ask_iff {s : Session} {p : Nat} {px : Proxy} (hp : s.proxies[p]? = some px)
    (q : Query) :
    s.transport.sent.length < (s.step (.ask p q)).2.1.transport.sent.length ↔
      px.refusal? s.transport q = none := by
  have hsome := px.isSome_outgoing s.transport q
  rw [step_ask hp, px.sent_dispatch_eq, List.length_append, Option.length_toList, hsome]
  cases px.refusal? s.transport q <;> simp

theorem offer_dispatch (s : Session) (p : Proxy) (t : Transport) (q : Query) :
    s.offer (p.dispatch t q).1 = p.offers t q s.deferredSettlement := by
  rw [p.dispatch_fst, Proxy.offers]
  cases p.refusal? t q with
  | some f => rfl
  | none => exact s.offer_query t.nextReply q.reading q.group q.method

/-! ### Its result in later sessions -/

/-- The result of a query stands as its history says, from the query on. -/
theorem tracks_ask (standing : Option Settlement) (before : List Step) {p : Nat} {px : Proxy}
    (hp : ((new standing).after before).proxies[p]? = some px) (q : Query) :
    let s := (new standing).after before
    (s.step (.ask p q)).2.1.Tracks s.pending.length none (px.dispatch s.transport q).1
      ((new standing).history before ++ [⟨s, .ask p q⟩]) := by
  intro s
  have hR : s.Routed standing ((new standing).history before) := Routed.after standing before
  obtain ⟨hdropped, hhanded⟩ := hR.unknown_step (.ask p q) (Nat.le_refl _)
  rw [step_ask hp]
  exact .of_made hR.known rfl rfl hdropped hhanded

/-- The deferred replies at the end are those that the whole history settled. -/
theorem deferredSettlement_after (standing : Option Settlement) (steps : List Step) :
    ((new standing).after steps).deferredSettlement = settlement ((new standing).history steps) :=
  funext (Routed.after standing steps).settled

/-- An attempt on the result of a query is answered by the check that refused it, or by what the
reply that was next has come to. -/
theorem take_of_ask (standing : Option Settlement) (before later : List Step) {p : Nat} {px : Proxy}
    (hp : ((new standing).after before).proxies[p]? = some px) (q : Query) :
    let s := (new standing).after before
    let H := (new standing).history (before ++ .ask p q :: later)
    let h := s.pending.length
    (((s.step (.ask p q)).2.1.after later).step (.take h)).1 =
      .ofAttempt (dropped h H) (handedOut h H) (px.offers s.transport q (settlement H)) := by
  intro s H h
  have hH : H = (new standing).history before ++ [⟨s, .ask p q⟩] ++
      (s.step (.ask p q)).2.1.history later := by
    show (new standing).history (before ++ .ask p q :: later) = _
    rw [history_append, List.append_assoc]
    rfl
  have hsettled : ((s.step (.ask p q)).2.1.after later).deferredSettlement = settlement H := by
    rw [← deferredSettlement_after, after_append]
    rfl
  rw [((tracks_ask standing before hp q).onward later).answer, ← hH, waiting, offer_dispatch,
    hsettled]

/-- As long as a result is there and has not been handed out, it shows what it has to offer. -/
theorem observes_of_waiting {s' : Session} {H : List Moment} {h : Nat}
    {offer : Option (Outcome Answer)}
    (htake : (s'.step (.take h)).1 = .ofAttempt (dropped h H) (handedOut h H) offer)
    (hdropped : dropped h H = false) (hfirst : handedOut h H = false) {o : Outcome Answer} :
    s'.Observes h o ↔ offer = some o := by
  rw [observes_iff, htake, Response.ofAttempt_eq_outcome, hdropped, hfirst]
  exact and_iff_right rfl

end Session

end Parley
