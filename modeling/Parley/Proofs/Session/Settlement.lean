import Parley.Proofs.Session.Track

/-!
# Pending results settle once

`Session.settles_once`: from the step that makes a pending result on, whatever is done in between,
an attempt on it is answered by what it has to offer (`Session.offered`): what its settler left in
its cell, what its reply has come to, or the outcome that it was made with. Once handed out, this
never comes again, and both ways of asking see the same.
-/

namespace Parley

/-- The handle of the pending result that an answer brings. -/
def Response.result? : Response → Option Nat
  | pending h => some h
  | channel h _ => some h
  | _ => none

namespace Session

open History

/-- What the pending result that a step makes has to offer in a later session, given what has
happened since. -/
def offered (s : Session) (st : Step) (later : Session) (H : List Moment) :
    Option (Outcome Answer) :=
  match st with
  | .channel => (fate s.settlers.length H).offer
  | .ready o | .ofReply o => some o
  | .ask p q => (s.proxies[p]?).bind fun px => later.offer (px.dispatch s.transport q).1
  | _ => none

theorem result?_take (s : Session) (h : Nat) : (s.step (.take h)).1.result? = none := by
  rw [step_take]
  rcases (s.pending[h]?).join with - | t
  · rfl
  · show (Response.ofAttempt false false (s.offer t)).result? = none
    cases s.offer t <;> rfl

/-- The ticket of a pending result that is made without a settler. -/
theorem tracks_of_result {s : Session} (hs : s.SettlersKnown) {st : Step} {h : Nat}
    (hmade : (s.step st).1.result? = some h) (hst : st ≠ .channel) :
    ∃ t, (s.step st).2.1.Tracks h none t [] ∧
      ∀ later H, s.offered st later H = later.offer t := by
  cases st with
  | channel => exact absurd rfl hst
  | ready o =>
    obtain rfl := Option.some.inj hmade
    exact ⟨.ready o, .of_made hs rfl rfl rfl rfl, fun _ _ => rfl⟩
  | ofReply o =>
    obtain rfl := Option.some.inj hmade
    exact ⟨.reply (.done o), .of_made hs rfl rfl rfl rfl, fun _ _ => rfl⟩
  | ask p q =>
    simp only [step, ask] at hmade
    split at hmade
    · cases hmade
    · rename_i px hp
      obtain rfl := Option.some.inj hmade
      refine ⟨(px.dispatch s.transport q).1, .of_made hs (settlers_step s _) ?_ rfl rfl,
        fun _ _ => ?_⟩
      · rw [pending_step, pendingAfter, hp]
      · rw [offered, hp, Option.bind_some]
  | take h' =>
    rw [result?_take] at hmade
    cases hmade
  | await h' =>
    rw [step_await, result?_take] at hmade
    cases hmade
  | _ =>
    -- no other step answers with a handle of a pending result
    simp only [step, disable, settleDeferred, describe, drop, useSettler, isAbandoned] at hmade
    repeat' split at hmade
    all_goals cases hmade

/-- A pending result settles once. Attempts on it are answered by what it has to offer until that is
handed out, and then by the abandoned failure; both ways of asking agree in every respect, and one
that is not answered changes nothing. A result with a settler is not answered as long as the settler
has not been used, and an unused settler knows whether the result was dropped. This holds for
replies of every kind, however they change from one attempt to the next. -/
theorem settles_once (standing : Option Settlement) (before later : List Step) (st : Step) {h : Nat}
    (hmade : (((new standing).after before).step st).1.result? = some h) :
    let s := (new standing).after before
    let s' := (s.step st).2.1.after later
    let H := (s.step st).2.1.history later
    (s'.step (.take h)).1 = .ofAttempt (dropped h H) (handedOut h H) (s.offered st s' H) ∧
    s'.step (.await h) = s'.step (.take h) ∧
    ((s'.step (.take h)).1 = .notYet → (s'.step (.take h)).2.1 = s') ∧
    (st = .channel →
      let g := s.settlers.length
      ((s'.step (.take h)).1 = .notYet ↔ dropped h H = false ∧ used g H = false) ∧
      (s'.step (.isAbandoned g)).1 = if used g H then .noSuchHandle else .abandoned (dropped h H)) ∧
    Failure.abandoned.kind = .invalidState ∧ Failure.abandoned.code = 11 ∧
    ∀ {ρ α : Type} (p : Pending ρ α),
      (∀ means advance, p.ask means advance = p.tryTake advance) ∧
      ∀ attempts, p.answers attempts = Pending.onceOnly (attempts.map fun a => p.offer a.2) := by
  intro s s' H
  have hs : s.SettlersKnown := settlersKnown_after standing before
  have hanswer : (s'.step (.take h)).1 =
      .ofAttempt (dropped h H) (handedOut h H) (s.offered st s' H) := by
    by_cases hst : st = .channel
    · subst hst
      obtain rfl := Option.some.inj hmade
      exact ((Tracks.of_channel hs).run later).answer
    · obtain ⟨t, hT, hoffered⟩ := tracks_of_result hs hmade hst
      rw [hoffered]
      exact (hT.run later).answer
  refine ⟨hanswer, s'.step_await h, step_take_of_notYet, ?_, rfl, rfl, fun p =>
    ⟨fun means advance => Pending.ask_eq_tryTake means, p.answers_eq⟩⟩
  intro hst g
  subst hst
  obtain rfl := Option.some.inj hmade
  have hT := (Tracks.of_channel hs).run later
  refine ⟨?_, hT.isAbandoned⟩
  have hoffer : s.offered .channel s' H = none ↔ used g H = false := by
    rw [← isSome_offer_fate, ← Option.isNone_iff_eq_none, ← Option.isSome_eq_false_iff]
    rfl
  rw [hanswer, Response.ofAttempt_eq_notYet, hoffer]
  constructor
  · rintro ⟨hdropped, -, hused⟩
    exact ⟨hdropped, hused⟩
  · rintro ⟨hdropped, hused⟩
    exact ⟨hdropped, hT.early g rfl hused, hused⟩

/-- A result with a settler: asked in vain, settled, asked, and asked again. -/
theorem settles_once_channel :
    let s := ((new none).step .channel).2.1
    let o : Outcome Answer := .ok (.raw .null)
    ((new none).step .channel).1.result? = some 0 ∧
    ((s.after [.await 0]).step (.take 0)).1 = .notYet ∧
    ((s.after [.await 0, .settle 0 o]).step (.take 0)).1 = .outcome o ∧
    ((s.after [.await 0, .settle 0 o, .take 0]).step (.take 0)).1 = .outcome (.error .abandoned) :=
  ⟨rfl, (settles_once none [] [.await 0] .channel rfl).1,
    (settles_once none [] [.await 0, .settle 0 (.ok (.raw .null))] .channel rfl).1,
    (settles_once none [] [.await 0, .settle 0 (.ok (.raw .null)), .take 0] .channel rfl).1⟩

end Session

end Parley
