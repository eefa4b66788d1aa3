import Mathlib.Data.List.Induction
import Parley.Proofs.Dispatch
import Parley.Proofs.Session.Track

/-!
# Replies reach the queries that they are bound to

The traffic of a session is what passes over its transport: replies that are queued and queries that
are sent. `route` binds them as they come, the oldest waiting reply to the next query, and the
standing reply when none waits.

`Session.replies_routed`: this is how every run binds replies to queries, whatever else is done in
it, and the pending result of a query that was sent offers what its own reply comes to
(`Reading.outcome`), and nothing else.
-/

namespace Parley

/-! ### Traffic -/

/-- What passes over the transport. -/
inductive Traffic where
  | queued (r : Reply)
  /-- A proxy sends a query that the given pending result belongs to. -/
  | sent (ticket : Nat) (proxy : Proxy) (query : Query)

/-- What passes over the transport at a moment. -/
def Moment.traffic (m : Moment) : Option Traffic :=
  match m.step with
  | .queue o => some (.queued (.settled o))
  | .queueNever => some (.queued .never)
  | .defer => some (.queued (.deferred m.session.deferred.length))
  | .ask p q =>
    (m.session.proxies[p]?).bind fun px =>
      if m.session.transport.sent.length < m.next.transport.sent.length then
        some (.sent m.session.pending.length px q)
      else none
  | _ => none

/-- A query that was sent, with its pending result, the proxy that sent it, and the reply that it is
bound to. -/
structure Binding where
  ticket : Nat
  proxy : Proxy
  query : Query
  reply : Reply
  /-- Whether the reply was queued; otherwise it is the standing one. -/
  queued : Bool

/-- The queries that were sent, the first one first, and the replies that no query is bound to. -/
structure Desk where
  bound : List Binding := []
  waiting : List Reply := []

/-- The standing reply never settles if there is none. -/
def standingReply : Option Settlement → Reply
  | some s => .settled s
  | none => .never

/-- Queues a reply, or binds a query to the oldest reply that waits. -/
def Desk.pass (standing : Option Settlement) (d : Desk) : Traffic → Desk
  | .queued r => { d with waiting := d.waiting ++ [r] }
  | .sent ticket proxy query =>
    match d.waiting with
    | reply :: waiting =>
      { bound := d.bound ++ [{ ticket, proxy, query, reply, queued := true }], waiting }
    | [] =>
      let reply := standingReply standing
      { d with bound := d.bound ++ [{ ticket, proxy, query, reply, queued := false }] }

/-- How some traffic binds replies to queries. -/
def route (standing : Option Settlement) (T : List Traffic) : Desk :=
  T.foldl (Desk.pass standing) {}

namespace Traffic

/-- The replies that are queued. -/
def replies (T : List Traffic) : List Reply :=
  T.filterMap fun
    | queued r => some r
    | sent _ _ _ => none

variable {standing : Option Settlement}

theorem route_append (T : List Traffic) (x : Traffic) :
    route standing (T ++ [x]) = (route standing T).pass standing x := by
  rw [route, List.foldl_append, ← route]
  rfl

/-- Every queued reply is bound to one query, in order, or waits. -/
theorem replies_route (T : List Traffic) :
    ((route standing T).bound.filter (·.queued)).map (·.reply) ++ (route standing T).waiting =
      replies T := by
  induction T using List.reverseRecOn with
  | nil => rfl
  | append_singleton T x ih =>
    rw [route_append, replies, List.filterMap_append, ← replies, ← ih]
    cases x with
    | queued r => simp [Desk.pass]
    | sent ticket px q =>
      cases hw : (route standing T).waiting with
      | nil => simp [Desk.pass, hw]
      | cons r waiting => simp [Desk.pass, hw]

/-- What a query is bound to is not changed by what passes later. -/
theorem bound_prefix (T later : List Traffic) :
    (route standing T).bound <+: (route standing (T ++ later)).bound := by
  induction later using List.reverseRecOn with
  | nil => exact (List.append_nil T).symm ▸ List.prefix_rfl
  | append_singleton later x ih =>
    rw [← List.append_assoc, route_append]
    refine ih.trans ?_
    cases x with
    | queued r => exact List.prefix_rfl
    | sent ticket px q =>
      rw [Desk.pass]
      split
      · exact List.prefix_append ..
      · exact List.prefix_append ..

end Traffic

/-- What passed over the transport. -/
def History.traffic (H : List Moment) : List Traffic := H.filterMap (·.traffic)

theorem History.traffic_append (H : List Moment) (m : Moment) :
    traffic (H ++ [m]) = traffic H ++ m.traffic.toList := by
  rw [traffic, List.filterMap_append, ← traffic]
  cases hm : m.traffic <;> simp [hm]

/-! ### What passes at a moment -/

namespace Moment

/-- What the traffic of a moment says of the session before and after it. -/
def Carries (m : Moment) : Option Traffic → Prop
  | none =>
    m.next.transport.queue = m.session.transport.queue ∧
    m.next.transport.sent = m.session.transport.sent
  | some (.queued r) =>
    m.next.transport.queue = m.session.transport.queue ++ [r] ∧
    m.next.transport.sent = m.session.transport.sent
  | some (.sent ticket px q) =>
    m.next.transport.queue = m.session.transport.queue.tail ∧
    (∃ e, px.envelope q = .ok e ∧
      m.next.transport.sent = m.session.transport.sent ++ [px.request e]) ∧
    ticket = m.session.pending.length ∧
    m.next.settlers = m.session.settlers ∧
    m.next.pending = m.session.pending ++
      [some (.reply (.query m.session.transport.nextReply q.reading q.group q.method))]

theorem carries_ask (s : Session) (p : Nat) (q : Query) :
    (mk s (.ask p q)).Carries (mk s (.ask p q)).traffic := by
  have htraffic : (mk s (.ask p q)).traffic = (s.proxies[p]?).bind fun px =>
      if s.transport.sent.length < (mk s (.ask p q)).next.transport.sent.length then
        some (.sent s.pending.length px q) else none := rfl
  have htransport : (mk s (.ask p q)).next.transport = s.transportAfter (.ask p q) :=
    s.transport_step _
  cases hp : s.proxies[p]? with
  | none =>
    have hnone : s.transportAfter (.ask p q) = s.transport := by rw [Session.transportAfter, hp]
    rw [htraffic, hp]
    exact ⟨by rw [htransport, hnone], by rw [htransport, hnone]⟩
  | some px =>
    have hdispatch : s.transportAfter (.ask p q) = (px.dispatch s.transport q).2.1 := by
      rw [Session.transportAfter, hp]
    rw [htraffic, hp, Option.bind_some]
    rcases px.sent_dispatch s.transport q with ⟨hsent, hqueue⟩ | ⟨e, he, hticket, hsent, hqueue⟩
    · rw [← hdispatch, ← htransport] at hsent hqueue
      rw [hsent, if_neg (Nat.lt_irrefl _)]
      exact ⟨hqueue, hsent⟩
    · rw [← hdispatch, ← htransport] at hsent hqueue
      rw [hsent, if_pos (by simp)]
      refine ⟨hqueue, ⟨e, he, hsent⟩, rfl, s.settlers_step _, ?_⟩
      show (s.step (.ask p q)).2.1.pending = _
      rw [s.pending_step, Session.pendingAfter, hp]
      show s.pending ++ [some (px.dispatch s.transport q).1] = _
      rw [hticket]

theorem carries (m : Moment) : m.Carries m.traffic := by
  obtain ⟨s, st⟩ := m
  cases st with
  | ask p q => exact carries_ask s p q
  | _ =>
    simp only [Carries, traffic, next, Session.transport_step, Session.transportAfter, and_self]

theorem standing_next (m : Moment) :
    m.next.transport.standing = m.session.transport.standing := by
  obtain ⟨s, st⟩ := m
  show (s.step st).2.1.transport.standing = s.transport.standing
  rw [s.transport_step]
  cases st with
  | ask p q =>
    simp only [Session.transportAfter]
    split
    · exact Proxy.standing_dispatch ..
    · rfl
  | _ => rfl

theorem settles_settleDeferred (s : Session) (d' d : Nat) (o : Settlement) :
    (mk s (.settleDeferred d' o)).settles d =
      match s.deferred[d']? with
      | some none => if d' = d then some o else none
      | _ => none := by
  simp only [settles, response, Session.step, Session.settleDeferred]
  rcases s.deferred[d']? with - | - | o' <;> rfl

/-- Giving up a deferred reply is rejecting with undefined. -/
theorem settles_dropDeferred (s : Session) (d' d : Nat) :
    (mk s (.dropDeferred d')).settles d =
      (mk s (.settleDeferred d' (.error .undefined))).settles d := by
  rw [settles_settleDeferred]
  simp only [settles, response, Session.step, Session.settleDeferred]
  rcases s.deferred[d']? with - | - | o' <;> rfl

/-- A deferred reply is settled by the first step that settles it. -/
theorem deferredSettlement_next (m : Moment) (d : Nat) :
    m.next.deferredSettlement d = (m.session.deferredSettlement d).or (m.settles d) := by
  obtain ⟨s, st⟩ := m
  show (((s.step st).2.1.deferred)[d]?).join = ((s.deferred[d]?).join).or _
  rw [s.deferred_step]
  have settle : ∀ d' o, ((s.deferred.modify d' (·.or (some o)))[d]?).join =
      ((s.deferred[d]?).join).or ((mk s (.settleDeferred d' o)).settles d) := by
    intro d' o
    rw [settles_settleDeferred]
    by_cases hd : d' = d
    · subst hd
      rw [List.getElem?_modify_eq]
      rcases s.deferred[d']? with - | - | o' <;> simp
    · rw [List.getElem?_modify_ne _ _ hd]
      rcases s.deferred[d']? with - | - | o' <;> simp [hd]
  cases st with
  | defer =>
    show ((s.deferred ++ [none])[d]?).join = ((s.deferred[d]?).join).or none
    rw [Option.or_none, List.getElem?_append]
    split
    · rfl
    · rename_i hd
      rw [List.getElem?_eq_none (Nat.le_of_not_lt hd), List.getElem?_singleton]
      split <;> rfl
  | settleDeferred d' o => exact settle d' o
  | dropDeferred d' =>
    rw [settles_dropDeferred]
    exact settle d' _
  | _ => exact (Option.or_none).symm

/-- Nothing happens to a pending result that is not there yet. -/
theorem idle_of_unknown {m : Moment} {h : Nat} (hm : m.session.pending[h]? = none) :
    m.drops h = false ∧ m.handsOut h = false := by
  obtain ⟨s, st⟩ := m
  have unknown : ∀ h', h' = h → s.pending[h']? = none := by rintro h' rfl; exact hm
  cases st with
  | drop h' =>
    refine ⟨?_, rfl⟩
    rw [Session.drops_drop]
    by_cases hh : h' = h
    · simp [unknown h' hh]
    · simp [hh]
  | take h' =>
    refine ⟨rfl, ?_⟩
    rw [Session.handsOut_take]
    by_cases hh : h' = h
    · simp [unknown h' hh]
    · simp [hh]
  | await h' =>
    refine ⟨rfl, ?_⟩
    rw [Session.handsOut_await, Session.handsOut_take]
    by_cases hh : h' = h
    · simp [unknown h' hh]
    · simp [hh]
  | _ => exact ⟨rfl, rfl⟩

end Moment

/-! ### Runs -/

namespace Session

open History

/-- How a session stands to the traffic of its history. -/
structure Routed (standing : Option Settlement) (s : Session) (H : List Moment) : Prop where
  fallback : s.transport.standing = standing
  waiting : (route standing (traffic H)).waiting = s.transport.queue
  requests : List.Forall₂
    (fun b r => ∃ e, b.proxy.envelope b.query = .ok e ∧ r = b.proxy.request e)
    (route standing (traffic H)).bound s.transport.sent
  settled : ∀ d, s.deferredSettlement d = settlement H d
  known : s.SettlersKnown
  unknown : ∀ h, s.pending.length ≤ h → dropped h H = false ∧ handedOut h H = false
  tickets : ∀ b ∈ (route standing (traffic H)).bound, ∃ group method,
    s.Tracks b.ticket none (.reply (.query b.reply b.query.reading group method)) H

namespace Routed

variable {standing : Option Settlement} {s : Session} {H : List Moment}

theorem start : (new standing).Routed standing [] where
  fallback := rfl
  waiting := rfl
  requests := .nil
  settled d := by
    show (([] : List (Option Settlement))[d]?).join = none
    rw [List.getElem?_nil]
    rfl
  known := settlersKnown_after standing []
  unknown _ _ := ⟨rfl, rfl⟩
  tickets _ hb := absurd hb List.not_mem_nil

/-- A query that is sent is bound to the next reply of the transport. -/
theorem pass_sent (hR : s.Routed standing H) (ticket : Nat) (proxy : Proxy) (query : Query) :
    (route standing (traffic H)).pass standing (.sent ticket proxy query) =
      { bound := (route standing (traffic H)).bound ++
          [⟨ticket, proxy, query, s.transport.nextReply, !s.transport.queue.isEmpty⟩]
        waiting := s.transport.queue.tail } := by
  rw [Desk.pass, Transport.nextReply, hR.waiting, hR.fallback]
  cases hq : s.transport.queue with
  | nil => cases standing <;> simp [standingReply]
  | cons r waiting => simp

theorem route_append (H : List Moment) (m : Moment) :
    route standing (traffic (H ++ [m])) =
      match m.traffic with
      | some x => (route standing (traffic H)).pass standing x
      | none => route standing (traffic H) := by
  rw [traffic_append]
  cases m.traffic with
  | none => rw [Option.toList_none, List.append_nil]
  | some x => exact Traffic.route_append ..

theorem waiting_step (hR : s.Routed standing H) (st : Step) :
    (route standing (traffic (H ++ [⟨s, st⟩]))).waiting = (s.step st).2.1.transport.queue := by
  have hcarries := (Moment.mk s st).carries
  rw [route_append]
  cases hm : (Moment.mk s st).traffic with
  | none =>
    rw [hm] at hcarries
    exact hR.waiting.trans hcarries.1.symm
  | some x =>
    rw [hm] at hcarries
    cases x with
    | queued r =>
      show (route standing (traffic H)).waiting ++ [r] = _
      rw [hR.waiting]
      exact hcarries.1.symm
    | sent ticket px q =>
      show ((route standing (traffic H)).pass standing (.sent ticket px q)).waiting = _
      rw [hR.pass_sent]
      exact hcarries.1.symm

/-- A step either sends no query, or one that is bound to the next reply. -/
theorem bound_step (hR : s.Routed standing H) (st : Step) :
    ((route standing (traffic (H ++ [⟨s, st⟩]))).bound = (route standing (traffic H)).bound ∧
      (s.step st).2.1.transport.sent = s.transport.sent) ∨
    ∃ px q e, Proxy.envelope px q = .ok e ∧
      (route standing (traffic (H ++ [⟨s, st⟩]))).bound = (route standing (traffic H)).bound ++
        [⟨s.pending.length, px, q, s.transport.nextReply, !s.transport.queue.isEmpty⟩] ∧
      (s.step st).2.1.transport.sent = s.transport.sent ++ [px.request e] ∧
      (s.step st).2.1.settlers = s.settlers ∧
      (s.step st).2.1.pending = s.pending ++
        [some (.reply (.query s.transport.nextReply q.reading q.group q.method))] := by
  have hcarries := (Moment.mk s st).carries
  rw [route_append]
  cases hm : (Moment.mk s st).traffic with
  | none =>
    rw [hm] at hcarries
    exact .inl ⟨rfl, hcarries.2⟩
  | some x =>
    rw [hm] at hcarries
    cases x with
    | queued r => exact .inl ⟨rfl, hcarries.2⟩
    | sent ticket px q =>
      obtain ⟨-, ⟨e, he, hsent⟩, rfl, hsettlers, hpending⟩ := hcarries
      refine .inr ⟨px, q, e, he, ?_, hsent, hsettlers, hpending⟩
      show ((route standing (traffic H)).pass standing (.sent _ px q)).bound = _
      rw [hR.pass_sent]

theorem unknown_step (hR : s.Routed standing H) (st : Step) {h : Nat} (hh : s.pending.length ≤ h) :
    dropped h (H ++ [⟨s, st⟩]) = false ∧ handedOut h (H ++ [⟨s, st⟩]) = false := by
  obtain ⟨hdropped, hhanded⟩ := hR.unknown h hh
  obtain ⟨hdrops, hhands⟩ := Moment.idle_of_unknown (m := ⟨s, st⟩) (List.getElem?_eq_none hh)
  rw [dropped_append, handedOut_append, hdropped, hhanded, hdrops, hhands]
  exact ⟨rfl, rfl⟩

theorem step (hR : s.Routed standing H) (st : Step) :
    (s.step st).2.1.Routed standing (H ++ [⟨s, st⟩]) := by
  have hold : ∀ b ∈ (route standing (traffic H)).bound, ∃ group method,
      (s.step st).2.1.Tracks b.ticket none
        (.reply (.query b.reply b.query.reading group method)) (H ++ [⟨s, st⟩]) := by
    intro b hb
    obtain ⟨group, method, hT⟩ := hR.tickets b hb
    exact ⟨group, method, hT.step st⟩
  refine {
    fallback := (Moment.mk s st).standing_next.trans hR.fallback
    waiting := hR.waiting_step st
    requests := ?_
    settled := fun d => ?_
    known := hR.known.step st
    unknown := fun h hh => hR.unknown_step st (Nat.le_trans (s.pending_length_le st) hh)
    tickets := ?_ }
  · rcases hR.bound_step st with ⟨hbound, hsent⟩ | ⟨px, q, e, he, hbound, hsent, -⟩
    · rw [hbound, hsent]
      exact hR.requests
    · rw [hbound, hsent]
      exact List.rel_append hR.requests (.cons ⟨e, he, rfl⟩ .nil)
  · rw [settlement_append, ← hR.settled]
    exact Moment.deferredSettlement_next ⟨s, st⟩ d
  · rcases hR.bound_step st with ⟨hbound, -⟩ | ⟨px, q, e, -, hbound, -, hsettlers, hpending⟩
    · rw [hbound]
      exact hold
    · rw [hbound]
      intro b hb
      rcases List.mem_append.mp hb with hb | hb
      · exact hold b hb
      · obtain rfl := List.mem_singleton.mp hb
        obtain ⟨hdropped, hhanded⟩ := hR.unknown_step st (Nat.le_refl _)
        exact ⟨q.group, q.method, .of_made hR.known hsettlers hpending hdropped hhanded⟩

theorem after (standing : Option Settlement) (steps : List Step) :
    ((Session.new standing).after steps).Routed standing ((Session.new standing).history steps) :=
  run_induction (motive := fun s H => s.Routed standing H) start (fun _ _ st hR => hR.step st) steps

end Routed

/-- The result of a query that was sent offers what its reply comes to, once that is settled. -/
theorem offer_query (s : Session) (reply : Reply) (reading : Reading) (group method : String) :
    s.offer (.reply (.query reply reading group method)) =
      (reply.settlement? s.deferredSettlement).map reading.outcome := by
  show ((reply.settlement? s.deferredSettlement).map _).map Prod.fst = _
  rw [Option.map_map]
  congr 1
  funext o
  exact reading.settle_fst o

/-- Every run binds replies to queries as its traffic passes: the queries that are bound are the ones
that were sent, in order, and the replies that wait are the ones still queued. Every queued reply is
bound to one query, in order, or waits, and what has been bound stays bound. The result of a query
hands out what its own reply comes to, once that is settled, and nothing else has a say in it. -/
theorem replies_routed (standing : Option Settlement) (steps : List Step) :
    let s := (new standing).after steps
    let H := (new standing).history steps
    let desk := route standing (traffic H)
    List.Forall₂ (fun b r => ∃ e, b.proxy.envelope b.query = .ok e ∧ r = b.proxy.request e)
      desk.bound s.transport.sent ∧
    desk.waiting = s.transport.queue ∧
    (desk.bound.filter (·.queued)).map (·.reply) ++ desk.waiting = Traffic.replies (traffic H) ∧
    (∀ before later, steps = before ++ later →
      (route standing (traffic ((new standing).history before))).bound <+: desk.bound) ∧
    ∀ b ∈ desk.bound,
      (s.step (.take b.ticket)).1 =
        .ofAttempt (dropped b.ticket H) (handedOut b.ticket H)
          ((b.reply.settlement? (settlement H)).map b.query.reading.outcome) ∧
      s.step (.await b.ticket) = s.step (.take b.ticket) := by
  intro s H desk
  have hR : s.Routed standing H := Routed.after standing steps
  refine ⟨hR.requests, hR.waiting, Traffic.replies_route _, ?_, ?_⟩
  · rintro before later rfl
    show _ <+: (route standing (traffic ((new standing).history (before ++ later)))).bound
    rw [history_append, traffic, traffic, List.filterMap_append]
    exact Traffic.bound_prefix ..
  · intro b hb
    obtain ⟨group, method, hT⟩ := hR.tickets b hb
    refine ⟨?_, s.step_await b.ticket⟩
    have hsettled : s.deferredSettlement = settlement H := funext hR.settled
    rw [hT.answer, waiting, offer_query, hsettled]

/-- Three queries through two proxies: the first is bound to a deferred reply that is given up later,
the second to a queued one, and the third to the standing one. -/
theorem replies_routed_deferred :
    let q : Query := ⟨"group", "method", .of .null (), none, .raw⟩
    let s := (new (some (.ok .null))).after
      [.connect "one" none, .connect "two" none, .defer, .queue (.ok (.bool true)), .ask 0 q,
        .ask 1 q, .ask 0 q, .disable 0, .dropDeferred 0]
    (s.step (.take 0)).1 = .outcome (.error (.ofRejection Value.undefined)) ∧
    (s.step (.take 1)).1 = .outcome (.ok (.raw (.bool true))) ∧
    (s.step (.take 2)).1 = .outcome (.ok (.raw .null)) := by
  intro q s
  obtain ⟨-, -, -, -, htickets⟩ := replies_routed (some (.ok .null))
    [.connect "one" none, .connect "two" none, .defer, .queue (.ok (.bool true)), .ask 0 q,
      .ask 1 q, .ask 0 q, .disable 0, .dropDeferred 0]
  exact ⟨(htickets _ (List.mem_of_getElem? (i := 0) rfl)).1,
    (htickets _ (List.mem_of_getElem? (i := 1) rfl)).1,
    (htickets _ (List.mem_of_getElem? (i := 2) rfl)).1⟩

end Session

end Parley
