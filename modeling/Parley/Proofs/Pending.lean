import Parley.Pending

/-!
# Attempts on a pending result

A pending result may be asked by `Pending.tryTake` or by `Pending.poll`, in any order and any number
of times, while the reply that it waits on changes in between. Both ways come to the same
(`ask_eq_tryTake`), and a sequence of attempts is answered by what the result has to offer at each of
them, up to the first offer; from then on the result is spent (`answers_eq`).
-/

namespace Parley

/-- What a cell has to offer: what it was filled with, or the failure of an abandoned query if its
filler gave up. -/
def Cell.offer {α : Type} : Cell (Outcome α) → Option (Outcome α)
  | empty => none
  | full o => some o
  | closed => some (.error .abandoned)

/-- The answer of a future as an outcome that may not be there. -/
def Poll.toOption {α : Type} : Poll α → Option α
  | ready a => some a
  | pending => none

namespace Pending

variable {ρ α : Type} {advance : ρ → Option (Outcome α × List Log.Event)} {p : Pending ρ α}

/-- What a result has to offer, where `advance` tells the replies of the moment. -/
def offer (advance : ρ → Option (Outcome α × List Log.Event)) : Pending ρ α → Option (Outcome α)
  | channel cell => cell.offer
  | reply r => (advance r).map Prod.fst
  | taken => some (.error .abandoned)

/-! ### One attempt -/

theorem tryTake_result : (p.tryTake advance).result = p.offer advance := by
  cases p with
  | channel cell => cases cell <;> rfl
  | reply r =>
    rw [tryTake, offer]
    cases advance r <;> rfl
  | taken => rfl

/-- An attempt that is not answered leaves the result as it was, any other one spends it. -/
theorem tryTake_after :
    (p.tryTake advance).after = if (p.offer advance).isSome then taken else p := by
  cases p with
  | channel cell => cases cell <;> rfl
  | reply r =>
    rw [tryTake, offer]
    cases advance r <;> rfl
  | taken => rfl

theorem tryTake_after_of_offer {o : Outcome α} (h : p.offer advance = some o) :
    (p.tryTake advance).after = taken := by
  rw [tryTake_after, h]
  rfl

theorem tryTake_after_of_not_offer (h : p.offer advance = none) :
    (p.tryTake advance).after = p := by
  rw [tryTake_after, h]
  rfl

/-- The two ways of asking. -/
inductive Means where
  | take
  | await
deriving DecidableEq, Repr

/-- One attempt by either means. -/
def ask (means : Means) (advance : ρ → Option (Outcome α × List Log.Event)) (p : Pending ρ α) :
    Attempt ρ α (Option (Outcome α)) :=
  match means with
  | .take => p.tryTake advance
  | .await =>
    let a := p.poll advance
    { result := a.result.toOption, after := a.after, events := a.events }

/-- Both ways of asking have the same outcome, leave the same state, and report the same events. -/
theorem ask_eq_tryTake (means : Means) : p.ask means advance = p.tryTake advance := by
  cases means with
  | take => rfl
  | await =>
    cases p with
    | channel cell => cases cell <;> rfl
    | reply r =>
      simp only [ask, poll, tryTake]
      cases advance r <;> rfl
    | taken => rfl

/-! ### Sequences of attempts -/

/-- The answers to attempts by any means, each with the replies of its moment. -/
def answers (p : Pending ρ α) :
    List (Means × (ρ → Option (Outcome α × List Log.Event))) → List (Option (Outcome α))
  | [] => []
  | (means, advance) :: attempts =>
    (p.ask means advance).result :: (p.ask means advance).after.answers attempts

/-- Only the first of several offers counts. Before it there is no answer, and after it the result is
spent. -/
def onceOnly : List (Option (Outcome α)) → List (Option (Outcome α))
  | [] => []
  | none :: offers => none :: onceOnly offers
  | some o :: offers => some o :: offers.map fun _ => some (.error .abandoned)

theorem answers_taken (attempts : List (Means × (ρ → Option (Outcome α × List Log.Event)))) :
    (taken : Pending ρ α).answers attempts = attempts.map fun _ => some (.error .abandoned) := by
  induction attempts with
  | nil => rfl
  | cons a attempts ih =>
    obtain ⟨means, advance⟩ := a
    rw [answers, ask_eq_tryTake, tryTake_result, tryTake_after_of_offer rfl, ih]
    rfl

/-- A result hands out the first offer that an attempt meets, and nothing else ever. -/
theorem answers_eq (p : Pending ρ α)
    (attempts : List (Means × (ρ → Option (Outcome α × List Log.Event)))) :
    p.answers attempts = onceOnly (attempts.map fun a => p.offer a.2) := by
  induction attempts with
  | nil => rfl
  | cons a attempts ih =>
    obtain ⟨means, advance⟩ := a
    rw [answers, ask_eq_tryTake, tryTake_result, List.map_cons]
    cases h : p.offer advance with
    | none => rw [tryTake_after_of_not_offer h, ih, onceOnly]
    | some o => rw [tryTake_after_of_offer h, answers_taken, onceOnly, List.map_map]; rfl

end Pending

end Parley
