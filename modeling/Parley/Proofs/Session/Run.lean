import Parley.Proofs.Session.Step

/-!
# Runs and their histories

`Session.after` is the session that steps lead to, and `Session.history` what happened on the way:
each step with the session that performed it. What has become of a handle is read off a history
alone: whether a pending result was dropped or has handed out its outcome, what a settler did, and
how a deferred reply was settled.

`Session.run_induction` is the induction over runs. An invariant ties the session after the steps to
their history, and is shown for one more step at the end.
-/

namespace Parley

/-- A step at the time when a session performs it. -/
structure Moment where
  session : Session
  step : Step

namespace Moment

/-- What the session answers. -/
def response (m : Moment) : Response := (m.session.step m.step).1

/-- The session after the step. -/
def next (m : Moment) : Session := (m.session.step m.step).2.1

/-- Whether the given pending result is dropped. -/
def drops (h : Nat) (m : Moment) : Bool :=
  match m.step, m.response with
  | .drop h', .done => h' == h
  | _, _ => false

/-- Whether the given pending result hands out an outcome. -/
def handsOut (h : Nat) (m : Moment) : Bool :=
  match m.step, m.response with
  | .take h', .outcome _ | .await h', .outcome _ => h' == h
  | _, _ => false

/-- What the given settler leaves in its cell, if it is used. -/
def fills (g : Nat) (m : Moment) : Option (Cell (Outcome Answer)) :=
  match m.step, m.response with
  | .settle g' o, .done => if g' = g then some (.full o) else none
  | .dropSettler g', .done => if g' = g then some .closed else none
  | _, _ => none

/-- A settler that is used leaves something to be offered. -/
theorem isSome_offer_of_fills {g : Nat} {m : Moment} {cell : Cell (Outcome Answer)}
    (h : m.fills g = some cell) : cell.offer.isSome := by
  unfold fills at h
  split at h
  · split at h
    · exact Option.some.inj h ▸ rfl
    · cases h
  · split at h
    · exact Option.some.inj h ▸ rfl
    · cases h
  · cases h

/-- How the given deferred reply is settled, if it is. One that is given up rejects with
undefined. -/
def settles (d : Nat) (m : Moment) : Option Settlement :=
  match m.step, m.response with
  | .settleDeferred d' o, .done => if d' = d then some o else none
  | .dropDeferred d', .done => if d' = d then some (.error .undefined) else none
  | _, _ => none

end Moment

/-! ### Histories -/

namespace History

/-- Whether a pending result has been dropped. -/
def dropped (h : Nat) (H : List Moment) : Bool := H.any (·.drops h)

/-- Whether a pending result has handed out an outcome. -/
def handedOut (h : Nat) (H : List Moment) : Bool := H.any (·.handsOut h)

/-- Whether a settler has been used. -/
def used (g : Nat) (H : List Moment) : Bool := H.any fun m => (m.fills g).isSome

/-- What has become of the cell of a settler. -/
def fate (g : Nat) (H : List Moment) : Cell (Outcome Answer) :=
  (H.findSome? (·.fills g)).getD .empty

/-- How a deferred reply has been settled, if it has. -/
def settlement (H : List Moment) (d : Nat) : Option Settlement := H.findSome? (·.settles d)

variable {H : List Moment} {m : Moment}

@[simp] theorem dropped_append (h : Nat) : dropped h (H ++ [m]) = (dropped h H || m.drops h) := by
  simp [dropped]

@[simp] theorem handedOut_append (h : Nat) :
    handedOut h (H ++ [m]) = (handedOut h H || m.handsOut h) := by
  simp [handedOut]

@[simp] theorem settlement_append (d : Nat) :
    settlement (H ++ [m]) d = (settlement H d).or (m.settles d) := by
  simp only [settlement, List.findSome?_append, List.findSome?_singleton]

@[simp] theorem used_append (g : Nat) :
    used g (H ++ [m]) = (used g H || (m.fills g).isSome) := by
  simp [used]

theorem findSome?_fills (g : Nat) : (H.findSome? (·.fills g)).isSome = used g H := by
  rw [Bool.eq_iff_iff, List.findSome?_isSome_iff]
  exact List.any_eq_true.symm

theorem fate_of_not_used {g : Nat} (hg : used g H = false) : fate g H = .empty := by
  have hH := findSome?_fills (H := H) g
  rw [hg, Option.isSome_eq_false_iff, Option.isNone_iff_eq_none] at hH
  rw [fate, hH]
  rfl

/-- A cell has something to offer exactly if its settler has been used. -/
theorem isSome_offer_fate (g : Nat) : (fate g H).offer.isSome = used g H := by
  rw [← findSome?_fills, fate]
  cases hc : H.findSome? (·.fills g) with
  | none => rfl
  | some cell =>
    obtain ⟨m, -, hm⟩ := List.exists_of_findSome?_eq_some hc
    exact Moment.isSome_offer_of_fills hm

/-- Only the first use of a settler counts. -/
theorem fate_append (g : Nat) :
    fate g (H ++ [m]) = if used g H then fate g H else (m.fills g).getD .empty := by
  rw [← findSome?_fills, fate, fate, List.findSome?_append, List.findSome?_singleton]
  cases H.findSome? (·.fills g) <;> rfl

end History

namespace Session

/-- The session after some steps. -/
def after (s : Session) (steps : List Step) : Session := (s.run steps).2

/-- The steps, each with the session that performs it. -/
def history (s : Session) : List Step → List Moment
  | [] => []
  | st :: steps => ⟨s, st⟩ :: (s.step st).2.1.history steps

theorem after_cons (s : Session) (st : Step) (steps : List Step) :
    s.after (st :: steps) = (s.step st).2.1.after steps := rfl

theorem after_append (s : Session) (before later : List Step) :
    s.after (before ++ later) = (s.after before).after later := by
  induction before generalizing s with
  | nil => rfl
  | cons st before ih => exact ih _

theorem history_append (s : Session) (before later : List Step) :
    s.history (before ++ later) = s.history before ++ (s.after before).history later := by
  induction before generalizing s with
  | nil => rfl
  | cons st before ih =>
    rw [List.cons_append, history, history, after_cons, ih, List.cons_append]

/-- What happened in a run happened at one of its steps. -/
theorem mem_history {s : Session} {steps : List Step} {m : Moment} (hm : m ∈ s.history steps) :
    ∃ before later, steps = before ++ m.step :: later ∧ m.session = s.after before := by
  induction steps generalizing s with
  | nil => exact absurd hm List.not_mem_nil
  | cons st steps ih =>
    rcases List.mem_cons.mp hm with rfl | hm
    · exact ⟨[], steps, rfl, rfl⟩
    · obtain ⟨before, later, rfl, hs⟩ := ih hm
      exact ⟨st :: before, later, rfl, hs⟩

/-- What holds after some history and is kept by each step holds at the end of a run that goes on
from there. -/
theorem run_induction_from {motive : Session → List Moment → Prop} {s : Session} {H : List Moment}
    (start : motive s H)
    (step : ∀ s H st, motive s H → motive (s.step st).2.1 (H ++ [⟨s, st⟩])) (steps : List Step) :
    motive (s.after steps) (H ++ s.history steps) := by
  induction steps generalizing s H with
  | nil =>
    rw [history, List.append_nil]
    exact start
  | cons st steps ih =>
    rw [after_cons, history, List.append_cons]
    exact ih (step s H st start)

/-- What holds at the start of a run and is kept by each step holds at its end. -/
theorem run_induction {motive : Session → List Moment → Prop} {s : Session} (start : motive s [])
    (step : ∀ s H st, motive s H → motive (s.step st).2.1 (H ++ [⟨s, st⟩])) (steps : List Step) :
    motive (s.after steps) (s.history steps) :=
  run_induction_from start step steps

end Session

end Parley
