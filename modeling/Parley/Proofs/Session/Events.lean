import Parley.Proofs.Report
import Parley.Proofs.Session.Accounting
import Parley.Proofs.Session.Query

/-!
# What a run reports

`Session.report?` says once what every step reports, which is one event at most (`events_step`). Only
three kinds of steps report anything: a query, the disabling of a proxy, and an attempt on a pending
result.

`Session.events_match` reads the events of a run off its history. There are as many dispatches as
requests; a proxy is reported as disabled once; and the reply to a query that was sent is reported by
the attempt that hands out the outcome, or not at all (`Session.Told`).
-/

namespace Parley

open History

namespace Session

/-- What a step reports. -/
def report? (s : Session) : Step → Option Log.Event
  | .ask p q => (s.proxies[p]?).map (·.report s.transport q)
  | .disable p => (s.proxies[p]?).bind fun px => if px.disabled then none else some px.disabling
  | .take h | .await h => (s.pending[h]?).join.bind (Ticket.report? s.deferredSettlement)
  | _ => none

theorem events_take (s : Session) (h : Nat) :
    (s.step (.take h)).2.2 = (s.report? (.take h)).toList := by
  simp only [step, attempt, report?]
  rcases s.pending[h]? with - | - | t
  · rfl
  · rfl
  · exact Ticket.events_tryTake t

/-- Every step reports one event at most. -/
theorem events_step (s : Session) (st : Step) : (s.step st).2.2 = (s.report? st).toList := by
  cases st with
  | connectChecked settings closed =>
    simp only [step]
    cases Proxy.checked settings closed <;> rfl
  | status p =>
    simp only [step]
    cases s.proxies[p]? <;> rfl
  | disable p =>
    simp only [step, disable, report?]
    cases s.proxies[p]? with
    | none => rfl
    | some px =>
      show px.disable.2 = _
      rw [px.disable_snd, Option.bind_some]
      cases px.disabled <;> rfl
  | ask p q =>
    cases hp : s.proxies[p]? with
    | none => simp [step, ask, report?, hp]
    | some px => simp [step_ask hp, report?, hp, px.events_dispatch]
  | take h => exact s.events_take h
  | await h =>
    rw [step_await]
    exact s.events_take h
  | _ => rfl

end Session

namespace Moment

/-- What is reported. -/
def events (m : Moment) : List Log.Event := (m.session.step m.step).2.2

/-- What is reported, as one event. -/
def report? (m : Moment) : Option Log.Event := m.session.report? m.step

theorem events_eq (m : Moment) : m.events = m.report?.toList := m.session.events_step m.step

/-- Whether the given proxy is disabled. -/
def disables (p : Nat) (m : Moment) : Bool :=
  match m.step, m.response with
  | .disable p', .disabled _ => p' == p
  | _, _ => false

/-- A reply keeps the settlement that it has. -/
theorem settlement?_next (m : Moment) {reply : Reply}
    (h : (reply.settlement? m.session.deferredSettlement).isSome) :
    reply.settlement? m.next.deferredSettlement =
      reply.settlement? m.session.deferredSettlement := by
  cases reply with
  | settled s => rfl
  | deferred d =>
    show m.next.deferredSettlement d = m.session.deferredSettlement d
    rw [m.deferredSettlement_next]
    exact Option.or_of_isSome h
  | never => rfl

/-- Whether the given pending result is asked for its outcome. -/
def attempts (h : Nat) (m : Moment) : Bool :=
  match m.step with
  | .take h' | .await h' => h' == h
  | _ => false

end Moment

namespace History

/-- What is reported, all in all. -/
def events (H : List Moment) : List Log.Event := H.flatMap (·.events)

/-- Whether a proxy has been disabled. -/
def disabled (p : Nat) (H : List Moment) : Bool := H.any (·.disables p)

/-- What the attempts on a pending result have reported. -/
def told (h : Nat) (H : List Moment) : List Log.Event :=
  events (H.filter (·.attempts h))

variable {H : List Moment} {m : Moment}

theorem events_eq_filterMap (H : List Moment) : events H = H.filterMap (·.report?) := by
  simp only [events, Moment.events_eq, List.filterMap_eq_flatMap_toList]

theorem disabled_append (p : Nat) :
    disabled p (H ++ [m]) = (disabled p H || m.disables p) := by
  simp [disabled]

theorem told_append (h : Nat) :
    told h (H ++ [m]) = told h H ++ if m.attempts h then m.events else [] := by
  rw [told, List.filter_append, events, List.flatMap_append, ← events, ← told]
  cases hm : m.attempts h <;> simp [hm]

end History

namespace Session

/-! ### The traces of a run -/

theorem events_run (s : Session) (steps : List Step) :
    (s.run steps).1.flatMap (·.events) = events (s.history steps) := by
  induction steps generalizing s with
  | nil => rfl
  | cons st steps ih =>
    show _ ++ (((s.step st).2.1.run steps).1).flatMap (·.events) = _
    rw [ih]
    rfl

/-! ### Dispatches -/

/-- Nothing but a query that is sent looks like a dispatch. -/
theorem isDispatch_report? (m : Moment) :
    m.report?.any (·.isDispatch) = m.request?.isSome := by
  obtain ⟨s, st⟩ := m
  have attempt : ∀ h : Nat, ((s.pending[h]?).join.bind (Ticket.report? s.deferredSettlement)).any
      (·.isDispatch) = false := by
    intro h
    rw [Option.any_eq_false]
    intro e he
    obtain ⟨t, -, ht⟩ := Option.bind_eq_some_iff.mp he
    simp [Ticket.isDispatch_of_report? ht]
  cases st with
  | ask p q =>
    show ((s.proxies[p]?).map _).any _ = ((s.proxies[p]?).bind _).isSome
    cases s.proxies[p]? with
    | none => rfl
    | some px => exact px.isDispatch_report
  | disable p =>
    show ((s.proxies[p]?).bind _).any _ = false
    cases s.proxies[p]? with
    | none => rfl
    | some px => cases hpx : px.disabled <;> simp [hpx, Proxy.disabling, Log.Event.isDispatch]
  | take h => exact attempt h
  | await h => exact attempt h
  | _ => rfl

/-- There are as many dispatches as requests. -/
theorem countP_isDispatch (standing : Option Settlement) (steps : List Step) :
    (events ((new standing).history steps)).countP (·.isDispatch) =
      ((new standing).after steps).transport.sent.length := by
  rw [sent_after, List.length_filterMap_eq_countP, events_eq_filterMap, List.countP_filterMap]
  refine List.countP_congr fun m _ => ?_
  rw [← isDispatch_report?]
  cases m.report? <;> simp

/-! ### Disabling -/

theorem disables_disable (s : Session) (p' p : Nat) :
    (Moment.mk s (.disable p')).disables p = (p' == p && (s.proxies[p']?).isSome) := by
  simp only [Moment.disables, Moment.response, step, disable]
  cases s.proxies[p']? <;> simp

/-- A proxy is disabled exactly if it was disabled at some step. -/
theorem disabled_step (s : Session) (st : Step) (p : Nat) :
    ((s.step st).2.1.proxies[p]?).any (·.disabled) =
      ((s.proxies[p]?).any (·.disabled) || (Moment.mk s st).disables p) := by
  -- a new proxy is not disabled
  have made : ∀ px : Proxy, px.disabled = false → ((s.proxies ++ [px])[p]?).any (·.disabled) =
      ((s.proxies[p]?).any (·.disabled) || false) := by
    intro px hpx
    rw [Bool.or_false, List.getElem?_append]
    split
    · rfl
    · rename_i hp
      rw [List.getElem?_eq_none (Nat.le_of_not_lt hp), List.getElem?_singleton]
      split
      · exact hpx
      · rfl
  rw [proxies_step]
  cases st with
  | connect managerId closed => exact made _ rfl
  | connectChecked settings closed =>
    simp only [proxiesAfter]
    cases hpx : Proxy.checked settings closed with
    | error e => exact (Bool.or_false _).symm
    | ok px => exact made px (Proxy.disabled_of_checked hpx)
  | disable p' =>
    rw [disables_disable]
    show ((s.proxies.modify p' _)[p]?).any _ = _
    by_cases hpp : p' = p
    · subst hpp
      rw [List.getElem?_modify_eq]
      cases s.proxies[p']? <;> simp [Proxy.disable]
    · rw [List.getElem?_modify_ne _ _ hpp]
      simp [hpp]
  | _ => exact (Bool.or_false _).symm

theorem disabled_after (standing : Option Settlement) (steps : List Step) (p : Nat) :
    (((new standing).after steps).proxies[p]?).any (·.disabled) =
      disabled p ((new standing).history steps) := by
  refine run_induction (motive := fun s H => (s.proxies[p]?).any (·.disabled) = disabled p H) ?_ ?_
    steps
  · show (([] : List Proxy)[p]?).any _ = false
    rw [List.getElem?_nil]
    rfl
  · intro s H st ih
    rw [disabled_step, disabled_append, ih]

/-! ### Attempts -/

section Attempts

variable {m : Moment} {h : Nat}

theorem report?_of_attempts (hm : m.attempts h = true) :
    m.report? = (m.session.pending[h]?).join.bind (Ticket.report? m.session.deferredSettlement) := by
  obtain ⟨s, st⟩ := m
  cases st with
  | take h' =>
    obtain rfl := beq_iff_eq.mp hm
    rfl
  | await h' =>
    obtain rfl := beq_iff_eq.mp hm
    rfl
  | _ => cases hm

theorem handsOut_of_attempts (hm : m.attempts h = true) :
    m.handsOut h = ((m.session.pending[h]?).join.bind m.session.offer).isSome := by
  obtain ⟨s, st⟩ := m
  cases st with
  | take h' =>
    obtain rfl := beq_iff_eq.mp hm
    rw [handsOut_take, beq_self_eq_true, Bool.true_and]
  | await h' =>
    obtain rfl := beq_iff_eq.mp hm
    rw [handsOut_await, handsOut_take, beq_self_eq_true, Bool.true_and]
  | _ => cases hm

/-- An attempt settles no deferred reply. -/
theorem deferredSettlement_of_attempts (hm : m.attempts h = true) :
    m.next.deferredSettlement = m.session.deferredSettlement := by
  obtain ⟨s, st⟩ := m
  have hnext : (Moment.mk s st).next.deferred = s.deferredAfter st := s.deferred_step st
  funext d
  rw [deferredSettlement, hnext]
  cases st with
  | take h' => rfl
  | await h' => rfl
  | _ => cases hm

/-- Only an attempt hands an outcome out. -/
theorem handsOut_of_not_attempts (hm : m.attempts h = false) : m.handsOut h = false := by
  obtain ⟨s, st⟩ := m
  cases st with
  | take h' =>
    have hh : (h' == h) = false := hm
    rw [handsOut_take, hh, Bool.false_and]
  | await h' =>
    have hh : (h' == h) = false := hm
    rw [handsOut_await, handsOut_take, hh, Bool.false_and]
  | _ => rfl

end Attempts

/-- Attempts on a result that is not there yet report nothing. -/
theorem told_of_unknown (standing : Option Settlement) (steps : List Step) {h : Nat}
    (hh : ((new standing).after steps).pending.length ≤ h) :
    told h ((new standing).history steps) = [] := by
  refine run_induction (motive := fun s H => s.pending.length ≤ h → told h H = []) (fun _ => rfl) ?_
    steps hh
  intro s H st ih hh
  have hs : s.pending.length ≤ h := Nat.le_trans (s.pending_length_le st) hh
  rw [told_append, ih hs, List.nil_append]
  split
  · rename_i hm
    rw [Moment.events_eq, report?_of_attempts hm, List.getElem?_eq_none hs]
    rfl
  · rfl

/-- How the reply to a query stands: nothing is told of it before its outcome is handed out, and then
what its settlement has to be reported as, if anything. -/
structure Told (s : Session) (h : Nat) (reply : Reply) (reading : Reading) (group method : String)
    (H : List Moment) : Prop where
  tracks : s.Tracks h none (.reply (.query reply reading group method)) H
  /-- Only a reply that is settled is handed out. -/
  ripe : handedOut h H = true → (reply.settlement? s.deferredSettlement).isSome
  report : told h H =
    if handedOut h H then
      ((InFlight.query reply reading group method).report? s.deferredSettlement).toList
    else []

namespace Told

variable {s : Session} {h : Nat} {reply : Reply} {reading : Reading} {group method : String}
  {H : List Moment} {m : Moment}

/-- What an attempt on the result of a query reports: nothing if the result is gone or spent, and
otherwise what is to be reported of the reply. -/
theorem report?_attempt (hT : m.session.Told h reply reading group method H)
    (hm : m.attempts h = true) :
    m.report? =
      if dropped h H || handedOut h H then none
      else (InFlight.query reply reading group method).report? m.session.deferredSettlement := by
  rw [report?_of_attempts hm, hT.tracks.slot]
  cases dropped h H with
  | true => rfl
  | false =>
    cases handedOut h H with
    | true => rfl
    | false => rfl

/-- An attempt hands something out unless the result is gone or its reply is not settled. -/
theorem handsOut_attempt (hT : m.session.Told h reply reading group method H)
    (hm : m.attempts h = true) :
    m.handsOut h =
      (!dropped h H && (reply.settlement? m.session.deferredSettlement).isSome) := by
  rw [handsOut_of_attempts hm, hT.tracks.slot]
  cases hdropped : dropped h H with
  | true => rfl
  | false =>
    cases hhanded : handedOut h H with
    | true =>
      rw [hT.ripe hhanded]
      rfl
    | false =>
      show (m.session.offer (.reply (.query reply reading group method))).isSome = _
      rw [offer_query, Option.isSome_map]
      rfl

/-- One more attempt on the result. -/
theorem attempt (hT : m.session.Told h reply reading group method H) (hm : m.attempts h = true)
    (tracks : m.next.Tracks h none (.reply (.query reply reading group method)) (H ++ [m])) :
    m.next.Told h reply reading group method (H ++ [m]) := by
  have hdeferred := deferredSettlement_of_attempts hm
  have hhands := hT.handsOut_attempt hm
  have hreport := hT.report?_attempt hm
  refine ⟨tracks, fun hhanded => ?_, ?_⟩
  · rw [handedOut_append, Bool.or_eq_true] at hhanded
    rw [hdeferred]
    rcases hhanded with hhanded | hhanded
    · exact hT.ripe hhanded
    · rw [hhands] at hhanded
      exact (Bool.and_eq_true_iff.mp hhanded).2
  · rw [told_append, if_pos hm, handedOut_append, hdeferred, Moment.events_eq, hreport, hhands,
      hT.report]
    cases hdropped : dropped h H with
    | true => simp
    | false =>
      cases hhanded : handedOut h H with
      | true => simp
      | false =>
        -- a reply that is not settled has nothing to report
        cases hs : reply.settlement? m.session.deferredSettlement with
        | none => simp [InFlight.report?, hs]
        | some o => simp

/-- One more moment at which the result is not asked for. -/
theorem idle (hT : m.session.Told h reply reading group method H) (hm : m.attempts h = false)
    (tracks : m.next.Tracks h none (.reply (.query reply reading group method)) (H ++ [m])) :
    m.next.Told h reply reading group method (H ++ [m]) := by
  have hhanded : handedOut h (H ++ [m]) = handedOut h H := by
    rw [handedOut_append, handsOut_of_not_attempts hm, Bool.or_false]
  have htold : told h (H ++ [m]) = told h H := by
    rw [told_append, hm]
    exact List.append_nil _
  refine ⟨tracks, fun hh => ?_, ?_⟩
  · rw [hhanded] at hh
    rw [m.settlement?_next (hT.ripe hh)]
    exact hT.ripe hh
  · rw [hhanded, htold, hT.report]
    split
    · rename_i hh
      rw [InFlight.report?, InFlight.report?, m.settlement?_next (hT.ripe hh)]
    · rfl

theorem step (hT : s.Told h reply reading group method H) (st : Step) :
    (s.step st).2.1.Told h reply reading group method (H ++ [⟨s, st⟩]) := by
  cases hm : (Moment.mk s st).attempts h with
  | true => exact Told.attempt (m := ⟨s, st⟩) hT hm (hT.tracks.step st)
  | false => exact Told.idle (m := ⟨s, st⟩) hT hm (hT.tracks.step st)

theorem onward (hT : s.Told h reply reading group method H) (steps : List Step) :
    (s.after steps).Told h reply reading group method (H ++ s.history steps) :=
  run_induction_from (motive := fun s H => s.Told h reply reading group method H) hT
    (fun _ _ st hT => hT.step st) steps

end Told

/-! ### Queries that are sent -/

section Sent

variable {s : Session} {p : Nat} {q : Query}

/-- A query that is sent has a proxy that does not refuse it. -/
theorem proxy_of_request (hsent : (Moment.mk s (.ask p q)).request?.isSome) :
    ∃ px, s.proxies[p]? = some px ∧ px.refusal? s.transport q = none := by
  obtain ⟨r, hr⟩ := Option.isSome_iff_exists.mp hsent
  obtain ⟨px, hp, hr⟩ := Option.bind_eq_some_iff.mp hr
  refine ⟨px, hp, Option.isNone_iff_eq_none.mp ?_⟩
  rw [← px.isSome_outgoing, hr]
  rfl

/-- Nothing is told of a query that has just been sent. -/
theorem told_ask (standing : Option Settlement) (before : List Step)
    (hsent : (Moment.mk ((new standing).after before) (.ask p q)).request?.isSome) :
    let s := (new standing).after before
    (s.step (.ask p q)).2.1.Told s.pending.length s.transport.nextReply q.reading q.group q.method
      ((new standing).history before ++ [⟨s, .ask p q⟩]) := by
  intro s
  obtain ⟨px, hp, hpassed⟩ := proxy_of_request hsent
  have hhanded : handedOut s.pending.length ((new standing).history before ++ [⟨s, .ask p q⟩]) =
      false :=
    ((Routed.after standing before).unknown_step (.ask p q) (Nat.le_refl _)).2
  have hticket : (px.dispatch s.transport q).1 =
      .reply (.query s.transport.nextReply q.reading q.group q.method) := by
    rw [px.dispatch_fst, hpassed]
  have hT : (s.step (.ask p q)).2.1.Tracks s.pending.length none (px.dispatch s.transport q).1 _ :=
    tracks_ask standing before hp q
  rw [hticket] at hT
  refine ⟨hT, fun hh => ?_, ?_⟩
  · rw [hhanded] at hh
    cases hh
  · rw [hhanded, told_append, told_of_unknown standing before (Nat.le_refl _)]
    rfl

theorem told_after (standing : Option Settlement) (before later : List Step)
    (hsent : (Moment.mk ((new standing).after before) (.ask p q)).request?.isSome) :
    let s := (new standing).after before
    ((new standing).after (before ++ .ask p q :: later)).Told s.pending.length
      s.transport.nextReply q.reading q.group q.method
      ((new standing).history (before ++ .ask p q :: later)) := by
  intro s
  rw [after_append, history_append, after_cons, history, List.append_cons]
  exact (told_ask standing before hsent).onward later

/-- An attempt does not make a result that reads a reply. -/
theorem after_of_readsReply {advance : InFlight → Option (Outcome Answer × List Log.Event)}
    {t : Ticket} (hreads : t.readsReply = true) (slot : Option Ticket)
    (ht : slot.map (fun t => (t.tryTake advance).after) = some t) : slot = some t := by
  obtain ⟨t', rfl, hafter⟩ := Option.map_eq_some_iff.mp ht
  rw [Pending.tryTake_after] at hafter
  split at hafter
  · subst hafter
    cases hreads
  · rw [hafter]

/-- A pending result that reads a reply was there before, or belongs to a query that is sent. -/
theorem readsReply_step {st : Step} {h : Nat} {t : Ticket} (hreads : t.readsReply = true)
    (ht : (s.step st).2.1.pending[h]? = some (some t)) :
    s.pending[h]? = some (some t) ∨
      (Moment.mk s st).request?.isSome ∧ s.pending.length = h := by
  have filled : ∀ g cell, (s.filled g cell)[h]? = some (some t) → s.pending[h]? = some (some t) := by
    intro g cell ht
    unfold Session.filled at ht
    split at ht
    · refine Slots.held_of_modify (fun slot hslot => ?_) ht
      obtain ⟨-, -, rfl⟩ := Option.map_eq_some_iff.mp hslot
      cases hreads
    · exact ht
  rw [pending_step] at ht
  cases st with
  | ask p q =>
    simp only [pendingAfter] at ht
    cases hp : s.proxies[p]? with
    | none =>
      rw [hp] at ht
      exact .inl ht
    | some px =>
      rw [hp] at ht
      rcases Slots.held_of_append ht with ht | ⟨hlength, hticket⟩
      · exact .inl ht
      · refine .inr ⟨?_, hlength.symm⟩
        show ((s.proxies[p]?).bind _).isSome
        rw [hp, Option.bind_some, px.isSome_outgoing]
        rw [px.dispatch_fst] at hticket
        cases hrefusal : px.refusal? s.transport q with
        | none => rfl
        | some f =>
          rw [hrefusal] at hticket
          subst hticket
          cases hreads
  | channel =>
    rcases Slots.held_of_append ht with ht | ⟨-, rfl⟩
    · exact .inl ht
    · cases hreads
  | ready o =>
    rcases Slots.held_of_append ht with ht | ⟨-, rfl⟩
    · exact .inl ht
    · cases hreads
  | ofReply o =>
    rcases Slots.held_of_append ht with ht | ⟨-, rfl⟩
    · exact .inl ht
    · cases hreads
  | take h' => exact .inl (Slots.held_of_modify (after_of_readsReply hreads) ht)
  | await h' => exact .inl (Slots.held_of_modify (after_of_readsReply hreads) ht)
  | drop h' => exact .inl (Slots.held_of_modify (fun _ hslot => by cases hslot) ht)
  | settle g o => exact .inl (filled g _ ht)
  | dropSettler g => exact .inl (filled g _ ht)
  | _ => exact .inl ht

/-- A pending result that reads a reply belongs to a query that was sent. -/
theorem request_of_readsReply (standing : Option Settlement) (steps : List Step) {h : Nat}
    {t : Ticket} (hreads : t.readsReply = true)
    (ht : ((new standing).after steps).pending[h]? = some (some t)) :
    ∃ m ∈ (new standing).history steps, m.request?.isSome ∧ m.session.pending.length = h := by
  refine run_induction (motive := fun s H => s.pending[h]? = some (some t) →
    ∃ m ∈ H, m.request?.isSome ∧ m.session.pending.length = h) ?_ ?_ steps ht
  · intro ht
    have hnone : (new standing).pending[h]? = none := List.getElem?_nil
    rw [hnone] at ht
    cases ht
  · intro s H st ih ht
    rcases readsReply_step hreads ht with ht | hsent
    · obtain ⟨m, hm, hsent⟩ := ih ht
      exact ⟨m, List.mem_append_left _ hm, hsent⟩
    · exact ⟨⟨s, st⟩, List.mem_append_right _ (List.mem_singleton.mpr rfl), hsent⟩

end Sent

/-- An attempt that reports something is one on the result of a query that was sent. -/
theorem ask_of_report (standing : Option Settlement) (steps : List Step) {h : Nat}
    (hreport : (((new standing).after steps).step (.take h)).2.2 ≠ []) :
    ∃ before p q later, steps = before ++ .ask p q :: later ∧
      (Moment.mk ((new standing).after before) (.ask p q)).request?.isSome ∧
      ((new standing).after before).pending.length = h := by
  rw [events_take, ne_eq, Option.toList_eq_nil_iff, ← ne_eq, Option.ne_none_iff_exists'] at hreport
  obtain ⟨e, he⟩ := hreport
  obtain ⟨t, hjoin, ht⟩ := Option.bind_eq_some_iff.mp he
  obtain ⟨⟨s, st⟩, hm, hsent, hlength⟩ := request_of_readsReply standing steps
    (Ticket.readsReply_of_report? ht) (Option.join_eq_some_iff.mp hjoin)
  obtain ⟨before, later, hsteps, rfl⟩ := mem_history hm
  cases st with
  | ask p q => exact ⟨before, p, q, later, hsteps, hsent, hlength⟩
  | _ => cases hsent

theorem events_of_notYet {s : Session} {h : Nat} (hs : (s.step (.take h)).1 = .notYet) :
    (s.step (.take h)).2.2 = [] := by
  rw [events_take, report?]
  rw [step_take] at hs
  cases ht : (s.pending[h]?).join with
  | none => rfl
  | some t =>
    rw [ht] at hs
    obtain ⟨-, -, hoffer⟩ := Response.ofAttempt_eq_notYet.mp hs
    rw [Option.bind_some, Ticket.report?_of_not_offer hoffer]
    rfl

/-! ### The steps that report something -/

/-- A query reports one event, a warning unless a request is sent. -/
theorem events_ask {s : Session} {p : Nat} {px : Proxy} (hp : s.proxies[p]? = some px) (q : Query) :
    let m : Moment := ⟨s, .ask p q⟩
    let e := px.report s.transport q
    m.events = [e] ∧
    m.next.transport.sent = s.transport.sent ++ m.request?.toList ∧
    e.isDispatch = m.request?.isSome ∧
    e.level = if m.request?.isSome then .debug else .warn := by
  intro m e
  have hrequest : m.request? = px.outgoing? s.transport q := by
    show (s.proxies[p]?).bind _ = _
    rw [hp, Option.bind_some]
  rw [hrequest]
  refine ⟨?_, hrequest ▸ m.sent_next, Proxy.isDispatch_report, Proxy.level_report⟩
  show (s.step (.ask p q)).2.2 = _
  rw [events_step, Session.report?, hp]
  rfl

/-- A proxy is reported as disabled the first time. -/
theorem events_disable (standing : Option Settlement) (steps : List Step) {p : Nat} {px : Proxy}
    (hp : ((new standing).after steps).proxies[p]? = some px) :
    (((new standing).after steps).step (.disable p)).2.2 =
      if disabled p ((new standing).history steps) then [] else [px.disabling] := by
  rw [← disabled_after standing steps p, hp, Option.any_some, events_step, Session.report?, hp,
    Option.bind_some]
  cases px.disabled <;> rfl

/-- No step but a query, the disabling of a proxy, and an attempt reports anything. -/
theorem events_eq_nil (s : Session) {st : Step} (hask : ∀ p q, st ≠ .ask p q)
    (hdisable : ∀ p, st ≠ .disable p) (hattempt : ∀ h, st ≠ .take h ∧ st ≠ .await h) :
    (s.step st).2.2 = [] := by
  rw [events_step]
  cases st with
  | ask p q => exact absurd rfl (hask p q)
  | disable p => exact absurd rfl (hdisable p)
  | take h => exact absurd rfl (hattempt h).1
  | await h => exact absurd rfl (hattempt h).2
  | _ => rfl

/-- The attempts on the result of a query that was sent report its reply, once. -/
theorem events_of_sent (standing : Option Settlement) {steps before later : List Step} {p : Nat}
    {q : Query} (hsteps : steps = before ++ .ask p q :: later)
    (hsent : (Moment.mk ((new standing).after before) (.ask p q)).request?.isSome) :
    let s := (new standing).after steps
    let H := (new standing).history steps
    let made := (new standing).after before
    let h := made.pending.length
    let report := ((made.transport.nextReply.settlement? (settlement H)).bind
      q.reading.report?).map (Log.Event.within (Log.querySpan q.group q.method))
    (s.step (.take h)).2.2 = (if dropped h H || handedOut h H then [] else report.toList) ∧
    told h H = if handedOut h H then report.toList else [] := by
  subst hsteps
  intro s H made h report
  have hT : s.Told h made.transport.nextReply q.reading q.group q.method H :=
    told_after standing before later hsent
  have hreport : (InFlight.query made.transport.nextReply q.reading q.group q.method).report?
      s.deferredSettlement = report := by
    rw [InFlight.report?, deferredSettlement_after]
  have htake := Told.report?_attempt (m := ⟨s, .take h⟩) hT (beq_self_eq_true h)
  refine ⟨?_, by rw [hT.report, hreport]⟩
  show (Moment.mk s (.take h)).events = _
  rw [Moment.events_eq, htake, hreport]
  split <;> rfl

/-! ### Main statement -/

/-- The events of a run match what happened in it. A query reports one event: its dispatch, if a
request is sent, and otherwise a warning of the check that refused it; so there are as many dispatches
as requests. A proxy that is disabled is reported the first time. An attempt that is not answered
reports nothing, and one that does report something is the one that hands out the outcome of a query
that was sent: all attempts on its result together report the settlement of its own reply, in the
span of the query, unless the payload is delivered. Of settlements, rejections are reported as such,
and payloads that cannot be delivered are warned of. No other step reports anything. -/
theorem events_match (standing : Option Settlement) (steps : List Step) :
    let s := (new standing).after steps
    let H := (new standing).history steps
    ((new standing).run steps).1.flatMap (·.events) = events H ∧
    (∀ p px q, s.proxies[p]? = some px →
      let m : Moment := ⟨s, .ask p q⟩
      let e := px.report s.transport q
      m.events = [e] ∧
      m.next.transport.sent = s.transport.sent ++ m.request?.toList ∧
      e.isDispatch = m.request?.isSome ∧
      e.level = if m.request?.isSome then .debug else .warn) ∧
    (events H).countP (·.isDispatch) = s.transport.sent.length ∧
    (∀ p px, s.proxies[p]? = some px →
      (s.step (.disable p)).2.2 = if disabled p H then [] else [px.disabling]) ∧
    (∀ st, (∀ p q, st ≠ .ask p q) → (∀ p, st ≠ .disable p) → (∀ h, st ≠ .take h ∧ st ≠ .await h) →
      (s.step st).2.2 = []) ∧
    (∀ h, s.step (.await h) = s.step (.take h) ∧
      ((s.step (.take h)).1 = .notYet → (s.step (.take h)).2.2 = []) ∧
      ((s.step (.take h)).2.2 ≠ [] →
        ∃ before p q later, steps = before ++ .ask p q :: later ∧
          (Moment.mk ((new standing).after before) (.ask p q)).request?.isSome ∧
          ((new standing).after before).pending.length = h)) ∧
    (∀ before p q later, steps = before ++ .ask p q :: later →
      let made := (new standing).after before
      (Moment.mk made (.ask p q)).request?.isSome →
      let h := made.pending.length
      let report := ((made.transport.nextReply.settlement? (settlement H)).bind
        q.reading.report?).map (Log.Event.within (Log.querySpan q.group q.method))
      (s.step (.take h)).2.2 = (if dropped h H || handedOut h H then [] else report.toList) ∧
      told h H = if handedOut h H then report.toList else []) ∧
    ∀ (r : Reading) (o : Settlement),
      (r.report? o = none ↔ ∃ a, r.outcome o = .ok a) ∧
      ∀ e, r.report? o = some e → e.level = if o.isOk then .warn else .debug := by
  intro s H
  exact ⟨events_run _ steps, fun p px q hp => events_ask hp q, countP_isDispatch standing steps,
    fun p px hp => events_disable standing steps hp, fun st => events_eq_nil s,
    fun h => ⟨s.step_await h, events_of_notYet, ask_of_report standing steps⟩,
    fun before p q later hsteps hsent => events_of_sent standing hsteps hsent,
    fun r o => ⟨Reading.report?_eq_none_iff, fun e => Reading.level_of_report?⟩⟩

/-- A query is sent and asked in vain, its proxy is disabled and refuses another one, and then the
first is rejected and asked again. -/
theorem events_match_rejected :
    let q : Query := ⟨"group", "method", .of .null (), none, .raw⟩
    let before : List Step := [.connect "one" none, .defer]
    let later : List Step :=
      [.take 0, .disable 0, .ask 0 q, .settleDeferred 0 (.error .null), .await 0]
    let steps := before ++ .ask 0 q :: later
    let s := (new none).after steps
    let H := (new none).history steps
    (events H).countP (·.isDispatch) = 1 ∧
    (s.step (.disable 0)).2.2 = [] ∧
    told 0 H = [(Log.rejected (.ofRejection Value.null)).within (Log.querySpan "group" "method")] ∧
    (s.step (.take 0)).2.2 = [] := by
  intro q before later steps s H
  obtain ⟨-, -, hcount, hdisable, -, -, hsent, -⟩ := events_match none steps
  obtain ⟨htake, htold⟩ := hsent before 0 q later rfl rfl
  have hdisabled : disabled 0 H = true := rfl
  have hhanded : handedOut 0 H = true := rfl
  refine ⟨hcount, ?_, htold.trans (if_pos hhanded), htake.trans (if_pos ?_)⟩
  · exact (hdisable 0 { settings := { managerId := "one" }, disabled := true } rfl).trans
      (if_pos hdisabled)
  · exact hhanded ▸ Bool.or_true _

end Session

end Parley
