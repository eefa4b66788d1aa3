/-!
# Computations that may fail

How the parts of a computation in `Except` ended, read off the way in which the whole ended.
-/

namespace Except

variable {ε ε' α β : Type}

theorem bind_eq_ok {x : Except ε α} {f : α → Except ε β} {b : β} :
    x >>= f = .ok b ↔ ∃ a, x = .ok a ∧ f a = .ok b := by
  cases x <;> simp [bind, Except.bind]

theorem bind_eq_error {x : Except ε α} {f : α → Except ε β} {e : ε} :
    x >>= f = .error e ↔ x = .error e ∨ ∃ a, x = .ok a ∧ f a = .error e := by
  cases x <;> simp [bind, Except.bind]

theorem map_eq_ok {x : Except ε α} {f : α → β} {b : β} :
    x.map f = .ok b ↔ ∃ a, x = .ok a ∧ f a = b := by
  cases x <;> simp [Except.map]

theorem map_eq_error {x : Except ε α} {f : α → β} {e : ε} :
    x.map f = .error e ↔ x = .error e := by
  cases x <;> simp [Except.map]

theorem mapError_eq_ok {x : Except ε α} {f : ε → ε'} {a : α} :
    x.mapError f = .ok a ↔ x = .ok a := by
  constructor
  · intro h
    cases x with
    | error e => cases h
    | ok b =>
      cases h
      rfl
  · rintro rfl
    rfl

theorem mapError_eq_error {x : Except ε α} {f : ε → ε'} {e : ε'} :
    x.mapError f = .error e ↔ ∃ e', x = .error e' ∧ f e' = e := by
  constructor
  · intro h
    cases x with
    | error e' => exact ⟨e', rfl, Except.error.inj h⟩
    | ok a => cases h
  · rintro ⟨e', rfl, rfl⟩
    rfl

/-- Two computations correspond if their first parts do, and what follows does for corresponding
values. -/
theorem bind_map {α' β' : Type} {x : Except ε α} {x' : Except ε α'} {g : α → α'}
    {k : α → Except ε β} {k' : α' → Except ε β'} {f : β → β'} (hx : x' = x.map g)
    (hk : ∀ a, k' (g a) = (k a).map f) : x' >>= k' = (x >>= k).map f := by
  subst hx
  cases x with
  | error e => rfl
  | ok a => exact hk a

theorem mapError_map {x : Except ε α} {f : ε → ε'} {g : α → β} :
    (x.map g).mapError f = (x.mapError f).map g := by
  cases x <;> rfl

/-- If steps in a row fail, one of them does. -/
theorem foldlM_map_eq_error {σ : Type} {step : α → Except ε β} {g : σ → β → σ} {as : List α} {s : σ}
    {e : ε} (h : as.foldlM (fun s a => (step a).map (g s)) s = .error e) :
    ∃ a ∈ as, step a = .error e := by
  induction as generalizing s with
  | nil => cases h
  | cons a as ih =>
    rw [List.foldlM_cons] at h
    rcases bind_eq_error.1 h with h | ⟨s', -, h⟩
    · exact ⟨a, List.mem_cons_self, map_eq_error.1 h⟩
    · obtain ⟨a', ha', he⟩ := ih h
      exact ⟨a', List.mem_cons_of_mem _ ha', he⟩

/-- If steps in a row succeed, all of them do. -/
theorem foldlM_map_eq_ok {σ : Type} {step : α → Except ε β} {g : σ → β → σ} {as : List α} {s s' : σ}
    (h : as.foldlM (fun s a => (step a).map (g s)) s = .ok s') :
    ∀ a ∈ as, ∃ b, step a = .ok b := by
  induction as generalizing s with
  | nil => exact fun _ h => absurd h List.not_mem_nil
  | cons a as ih =>
    rw [List.foldlM_cons] at h
    obtain ⟨s₁, ha, h⟩ := bind_eq_ok.1 h
    obtain ⟨b, hb, -⟩ := map_eq_ok.1 ha
    exact List.forall_mem_cons.2 ⟨⟨b, hb⟩, ih h⟩

theorem toOption_eq_some {x : Except ε α} {a : α} : x.toOption = some a ↔ x = .ok a := by
  cases x <;> simp [Except.toOption]

theorem isOk_iff {x : Except ε α} : x.isOk = true ↔ ∃ a, x = .ok a := by
  cases x <;> simp [Except.isOk, Except.toBool]

end Except
