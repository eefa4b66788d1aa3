import Parley.Proofs.Session.Track

/-!
# Disabled proxies

A proxy that was disabled stays so, and sends nothing more: `Session.disabled_terminal`. What is
done with one proxy never disables or enables another (`Session.isDisabled?_step`).
-/

namespace Parley

/-- The proxy that a step is about. -/
def Step.proxy? : Step → Option Nat
  | .disable p => some p
  | .status p => some p
  | .ask p _ => some p
  | _ => none

/-- Whether a step disables the given proxy. -/
def Step.disables (p : Nat) : Step → Bool
  | .disable p' => p' == p
  | _ => false

namespace Session

variable {s : Session} {p : Nat}

/-- Whether a proxy is disabled, as its status tells. -/
def isDisabled? (s : Session) (p : Nat) : Option Bool :=
  match (s.step (.status p)).1 with
  | .status px => some px.disabled
  | _ => none

theorem isDisabled?_eq (s : Session) (p : Nat) :
    s.isDisabled? p = (s.proxies[p]?).map (·.disabled) := by
  simp only [isDisabled?, step]
  cases s.proxies[p]? <;> rfl

/-! ### One step -/

/-- Only disabling changes whether a proxy is disabled, and only of that proxy. -/
theorem isDisabled?_step (hp : p < s.proxies.length) (st : Step) :
    (s.step st).2.1.isDisabled? p = if st.disables p then some true else s.isDisabled? p := by
  rw [isDisabled?_eq, isDisabled?_eq, proxies_step]
  cases st with
  | connect managerId closed =>
    show ((s.proxies ++ [_])[p]?).map _ = _
    rw [List.getElem?_append_left hp]
    rfl
  | connectChecked settings closed =>
    simp only [proxiesAfter]
    split
    · rw [List.getElem?_append_left hp]
      rfl
    · rfl
  | disable p' =>
    show ((s.proxies.modify p' _)[p]?).map _ = _
    by_cases hpp : p' = p
    · subst hpp
      rw [List.getElem?_modify_eq, List.getElem?_eq_getElem hp]
      simp [Step.disables, Proxy.disable]
    · rw [List.getElem?_modify_ne _ _ hpp]
      simp [Step.disables, hpp]
  | _ => rfl

theorem lt_length_of_isDisabled? {b : Bool} (hs : s.isDisabled? p = some b) :
    p < s.proxies.length := by
  rw [isDisabled?_eq] at hs
  obtain ⟨px, hpx, -⟩ := Option.map_eq_some_iff.mp hs
  obtain ⟨hlt, -⟩ := List.getElem?_eq_some_iff.mp hpx
  exact hlt

/-- Nothing enables a proxy again. -/
theorem isDisabled?_step_of_disabled (hs : s.isDisabled? p = some true) (st : Step) :
    (s.step st).2.1.isDisabled? p = some true := by
  rw [isDisabled?_step (lt_length_of_isDisabled? hs), hs, ite_self]

/-- Steps on one proxy leave the others alone. -/
theorem isDisabled?_step_of_ne {st : Step} {p' : Nat} (hst : st.proxy? = some p) (hp : p' ≠ p) :
    (s.step st).2.1.isDisabled? p' = s.isDisabled? p' := by
  rw [isDisabled?_eq, isDisabled?_eq, proxies_step]
  cases st with
  | disable p'' =>
    obtain rfl := Option.some.inj hst
    show ((s.proxies.modify p'' _)[p']?).map _ = _
    rw [List.getElem?_modify_ne _ _ hp.symm]
  | ask _ _ => rfl
  | status _ => rfl
  | _ => cases hst

/-- A query through a disabled proxy fails at once; the new pending result is all that changes. -/
theorem step_ask_of_disabled (hs : s.isDisabled? p = some true) (q : Query) :
    (s.step (.ask p q)).1 = .pending s.pending.length ∧
    (s.step (.ask p q)).2.1 = { s with pending := s.pending ++ [some (.failed .disabled)] } := by
  rw [isDisabled?_eq] at hs
  obtain ⟨px, hpx, hdisabled⟩ := Option.map_eq_some_iff.mp hs
  have hdispatch : px.dispatch s.transport q = (.failed .disabled, s.transport, [px.refused q]) := by
    rw [Proxy.dispatch, if_pos hdisabled]
  rw [step_ask hpx, hdispatch]
  exact ⟨rfl, rfl⟩

/-- Disabling a proxy twice is disabling it once. -/
theorem step_disable_of_disabled (hs : s.isDisabled? p = some true) :
    s.step (.disable p) = (.disabled true, s, []) := by
  rw [isDisabled?_eq] at hs
  obtain ⟨px, hpx, hdisabled⟩ := Option.map_eq_some_iff.mp hs
  have hdisable : px.disable = (px, []) := by
    rw [Proxy.disable, if_pos hdisabled, ← hdisabled]
  have hset : s.proxies.set p px = s.proxies := by
    rw [← Slots.modify_of_getElem? hpx fun _ => px]
    exact Slots.modify_of_fixed fun _ h => Option.some.inj (hpx.symm.trans h)
  simp only [step, disable, hpx, hdisable, hset, hdisabled]

/-! ### All later sessions -/

theorem isDisabled?_after (hs : s.isDisabled? p = some true) (steps : List Step) :
    (s.after steps).isDisabled? p = some true :=
  run_induction (motive := fun s _ => s.isDisabled? p = some true) hs
    (fun _ _ st hs => isDisabled?_step_of_disabled hs st) steps

/-- A proxy that was disabled stays disabled, whatever is done. Every query through it fails at once
with the disabled failure and leaves the transport alone, and disabling it again changes nothing.
Steps on one proxy never change whether another one is disabled. -/
theorem disabled_terminal (standing : Option Settlement) (before later : List Step) {p : Nat}
    (hp : p < ((new standing).after before).proxies.length) :
    let s := (((new standing).after before).step (.disable p)).2.1.after later
    s.isDisabled? p = some true ∧
    (∀ q,
      let s' := (s.step (.ask p q)).2.1
      (s.step (.ask p q)).1 = .pending s.pending.length ∧
      s'.transport = s.transport ∧
      (s'.step (.take s.pending.length)).1 = .outcome (.error .disabled) ∧
      (s'.step (.await s.pending.length)).1 = .outcome (.error .disabled)) ∧
    Failure.disabled.kind = .invalidState ∧
    s.step (.disable p) = (.disabled true, s, []) ∧
    ∀ (s : Session) (st : Step) (p p' : Nat), st.proxy? = some p → p' ≠ p →
      (s.step st).2.1.isDisabled? p' = s.isDisabled? p' := by
  intro s
  have hdisabled : s.isDisabled? p = some true := by
    refine isDisabled?_after ?_ later
    rw [isDisabled?_step hp]
    exact if_pos (beq_self_eq_true p)
  refine ⟨hdisabled, fun q => ?_, rfl, step_disable_of_disabled hdisabled,
    fun _ _ _ _ hst hne => isDisabled?_step_of_ne hst hne⟩
  obtain ⟨hanswer, hnext⟩ := step_ask_of_disabled hdisabled q
  have htake : ((s.step (.ask p q)).2.1.step (.take s.pending.length)).1 =
      .outcome (.error .disabled) := by
    rw [hnext, step_take]
    simp only [List.getElem?_concat_length, Option.join_some]
    rfl
  refine ⟨hanswer, by rw [hnext], htake, ?_⟩
  rw [step_await]
  exact htake

/-- Of two proxies the first is disabled, and then both are asked. -/
theorem disabled_terminal_two :
    let s := (((new none).after [.connect "one" none, .connect "two" none]).step (.disable 0)).2.1
    let q : Query := ⟨"group", "method", .of .null (), none, .raw⟩
    0 < ((new none).after [.connect "one" none, .connect "two" none]).proxies.length ∧
    (s.after [.ask 1 q]).isDisabled? 0 = some true ∧
    (((s.after [.ask 1 q]).step (.ask 0 q)).2.1.step (.take 1)).1 = .outcome (.error .disabled) ∧
    ((s.after [.ask 1 q]).step (.ask 0 q)).2.1.transport = (s.after [.ask 1 q]).transport := by
  intro s q
  have hp : 0 < ((new none).after [.connect "one" none, .connect "two" none]).proxies.length := by
    decide
  obtain ⟨hdisabled, hask, -⟩ := disabled_terminal none [.connect "one" none, .connect "two" none]
    [.ask 1 q] hp
  obtain ⟨-, htransport, htake, -⟩ := hask q
  exact ⟨hp, hdisabled, htake, htransport⟩

end Session

end Parley
