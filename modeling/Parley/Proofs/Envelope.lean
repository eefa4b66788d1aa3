import Parley.Envelope
import Parley.Proofs.Shape.RoundTrip

/-!
# Building envelopes

Over dynamic values only the parts of a request can keep it from being built: `Address.envelope_eq`
says which envelope they make, and that the first part without a dynamic value decides the error.
The agent finds every part in its place and reads what was sent (`Address.envelope_faithful`), if the
contracts can be read back (`Contract.RoundTrippable`).
-/

namespace Parley

/-! ### Payloads that are read back -/

/-- A contract whose shape reads what it has written. -/
def Contract.RoundTrippable : Contract → Prop
  | shaped s => s.RoundTrippable
  | barred _ _ => True

namespace Payload

/-- The binary objects of the payload have the kinds that its contract declares. -/
def WellKinded : Payload → Prop
  | ⟨.shaped s, x⟩ => s.WellKinded x
  | ⟨.barred _ _, _⟩ => True

theorem restores {p : Payload} (hp : p.contract.RoundTrippable) (hk : p.WellKinded) {v : Value}
    (h : p.encode Value = .ok v) : p.contract.decode v = .ok p.value := by
  obtain ⟨contract, x⟩ := p
  cases contract with
  | shaped s => exact Shape.RoundTrippable.restores hp x v hk h
  | barred name reason => cases h

end Payload

namespace Address

/-- The entries of an envelope. Arguments are left out if there are none or if they are undefined.
-/
def entries (a : Address) (context : Value) (args : Option Value) : List (String × Value) :=
  [("managerId", .string a.managerId), ("group", .string a.group), ("method", .string a.method),
    ("context", context)] ++ (args.filter fun x => !x.isUndefined).toList.map (("args", ·))

theorem envelope_eq (a : Address) (context : Payload) (args : Option Payload) :
    a.envelope Value context args = do
      let c ← (context.encode Value).mapError (EncodeError.under (.field "context"))
      let x ← args.mapM fun p => (p.encode Value).mapError (EncodeError.under (.field "args"))
      return .object (a.entries c x) := by
  rw [envelope]
  cases context.encode Value with
  | error e => rfl
  | ok c =>
    cases args with
    | none => rfl
    | some p =>
      cases hx : p.encode Value with
      | error e =>
        simp only [Option.mapM_some, hx]
        rfl
      | ok x =>
        simp only [Option.mapM_some, hx]
        cases x <;> rfl

/-- Parts that have dynamic values make an envelope. -/
theorem envelope_of_encode {a : Address} {context : Payload} {args : Option Payload} {c : Value}
    (hc : context.encode Value = .ok c)
    (hargs : ∀ p, args = some p → ∃ x, p.encode Value = .ok x) :
    ∃ e, a.envelope Value context args = .ok e := by
  rw [envelope_eq, hc]
  cases args with
  | none => exact ⟨_, rfl⟩
  | some p =>
    obtain ⟨x, hx⟩ := hargs p rfl
    refine ⟨.object (a.entries c (some x)), ?_⟩
    simp only [Option.mapM_some, hx]
    rfl

/-! ### What the agent finds -/

section

variable (a : Address) (c : Value) (x : Option Value)

theorem property_managerId :
    Host.property (Value.object (a.entries c x)) "managerId" = .string a.managerId := rfl

theorem property_group : Host.property (Value.object (a.entries c x)) "group" = .string a.group :=
  rfl

theorem property_method :
    Host.property (Value.object (a.entries c x)) "method" = .string a.method := rfl

theorem property_context : Host.property (Value.object (a.entries c x)) "context" = c := rfl

/-- Arguments that were left out are read as undefined. -/
theorem property_args :
    Host.property (Value.object (a.entries c x)) "args" = x.getD .undefined := by
  cases x with
  | none => rfl
  | some v => cases v <;> rfl

theorem keys_envelope : Host.keys (Value.object (a.entries c x)) =
    ["managerId", "group", "method", "context"] ++
      if x.any fun v => !v.isUndefined then ["args"] else [] := by
  cases x with
  | none => rfl
  | some v => cases v <;> rfl

end

section

variable {a : Address} {context : Payload} {args : Option Payload}

theorem envelope_eq_ok {e : Value} (h : a.envelope Value context args = .ok e) :
    ∃ c x, context.encode Value = .ok c ∧ e = .object (a.entries c x) ∧
      ((args = none ∧ x = none) ∨ ∃ p v, args = some p ∧ p.encode Value = .ok v ∧ x = some v) := by
  rw [envelope_eq] at h
  obtain ⟨c, hc, h⟩ := Except.bind_eq_ok.1 h
  obtain ⟨x, hx, h⟩ := Except.bind_eq_ok.1 h
  cases h
  refine ⟨c, x, Except.mapError_eq_ok.1 hc, rfl, ?_⟩
  cases args with
  | none =>
    cases hx
    exact Or.inl ⟨rfl, rfl⟩
  | some p =>
    rw [Option.mapM_some] at hx
    obtain ⟨v, hv, hx⟩ := Except.bind_eq_ok.1 hx
    cases hx
    exact Or.inr ⟨p, v, rfl, Except.mapError_eq_ok.1 hv, rfl⟩

/-- Of two parts without a dynamic value the context decides the error. -/
theorem envelope_eq_error {e : EncodeError} : a.envelope Value context args = .error e ↔
    (∃ e', context.encode Value = .error e' ∧ e = e'.under (.field "context")) ∨
      (∃ c, context.encode Value = .ok c) ∧
        ∃ p e', args = some p ∧ p.encode Value = .error e' ∧ e = e'.under (.field "args") := by
  rw [envelope_eq]
  constructor
  · intro h
    rcases Except.bind_eq_error.1 h with h | ⟨c, hc, h⟩
    · obtain ⟨e', he', rfl⟩ := Except.mapError_eq_error.1 h
      exact Or.inl ⟨e', he', rfl⟩
    · refine Or.inr ⟨⟨c, Except.mapError_eq_ok.1 hc⟩, ?_⟩
      cases args with
      | none => cases h
      | some p =>
        cases hp : p.encode Value with
        | ok v =>
          simp only [Option.mapM_some, hp] at h
          cases h
        | error e' =>
          simp only [Option.mapM_some, hp] at h
          cases h
          exact ⟨p, e', rfl, hp, rfl⟩
  · rintro (⟨e', he', rfl⟩ | ⟨⟨c, hc⟩, p, e', rfl, hp, rfl⟩)
    · rw [he']
      rfl
    · rw [hc]
      simp only [Option.mapM_some, hp]
      rfl

end

/-! ### Main statement -/

/-- Building fails where a part has no dynamic value, with the error of that part under its name,
and first at the context. Otherwise the envelope has the properties of a request in their order, the
texts that were given, and the arguments if there are any that show; the agent reads the context and
the arguments as they were sent. -/
theorem envelope_faithful (a : Address) (context : Payload) (args : Option Payload) :
    (∀ e, a.envelope Value context args = .error e ↔
      (∃ e', context.encode Value = .error e' ∧ e = e'.under (.field "context")) ∨
        (∃ c, context.encode Value = .ok c) ∧
          ∃ p e', args = some p ∧ p.encode Value = .error e' ∧ e = e'.under (.field "args")) ∧
    ∀ e, a.envelope Value context args = .ok e →
      ((Host.keys e = ["managerId", "group", "method", "context", "args"] ∧
          ∃ p v, args = some p ∧ p.encode Value = .ok v ∧ v.isUndefined = false) ∨
        (Host.keys e = ["managerId", "group", "method", "context"] ∧
          ∀ p v, args = some p → p.encode Value = .ok v → v.isUndefined = true)) ∧
      Host.property e "managerId" = .string a.managerId ∧
      Host.property e "group" = .string a.group ∧
      Host.property e "method" = .string a.method ∧
      (context.contract.RoundTrippable → context.WellKinded →
        context.contract.decode (Host.property e "context") = .ok context.value) ∧
      ∀ p, args = some p → p.contract.RoundTrippable → p.WellKinded →
        p.contract.decode (Host.property e "args") = .ok p.value := by
  refine ⟨fun _ => envelope_eq_error, fun e h => ?_⟩
  obtain ⟨c, x, hc, rfl, hx⟩ := envelope_eq_ok h
  refine ⟨?_, a.property_managerId c x, a.property_group c x, a.property_method c x, ?_, ?_⟩
  · rw [keys_envelope]
    rcases hx with ⟨rfl, rfl⟩ | ⟨p, v, rfl, hv, rfl⟩
    · exact Or.inr ⟨rfl, fun p v hp => nomatch hp⟩
    · cases hu : v.isUndefined with
      | true =>
        right
        refine ⟨by simp [hu], ?_⟩
        rintro p' v' ⟨⟩ hv'
        cases hv.symm.trans hv'
        exact hu
      | false =>
        left
        exact ⟨by simp [hu], p, v, rfl, hv, hu⟩
  · intro hround hkinds
    rw [property_context]
    exact context.restores hround hkinds hc
  · rintro p rfl hround hkinds
    rw [property_args]
    rcases hx with ⟨hnone, -⟩ | ⟨p', v, hp, hv, rfl⟩
    · cases hnone
    · cases hp
      exact p.restores hround hkinds hv

open Schema in
/-- Arguments that are given, but absent, are left out of the envelope and are read as absent. -/
theorem envelope_faithful_absent : ∃ (a : Address) (context : requestContext.Val) (e : Value),
    a.envelope Value (.of requestContext context) (some (.of (.option .string) none)) = .ok e ∧
      Host.keys e = ["managerId", "group", "method", "context"] ∧
      requestContext.decode (Host.property e "context") = .ok context ∧
      (Shape.option .string).decode (Host.property e "args") = .ok none := by
  let a : Address := ⟨"m1", "channel", "list"⟩
  let context : requestContext.Val := RequestContext.new "https://app.example" 7
  let args : Payload := .of (.option .string) none
  have hcontext : requestContext.RoundTrippable :=
    Shape.roundTrippable_struct.2 ⟨by decide, by simp [Shape.field]⟩
  have hargs : (Shape.option .string).RoundTrippable := Shape.roundTrippable_option.2 trivial
  have hkinds : requestContext.WellKinded context := ⟨trivial, trivial, trivial, trivial⟩
  obtain ⟨-, hbuilt⟩ := envelope_faithful a (.of requestContext context) (some args)
  obtain ⟨e, he⟩ : ∃ e, a.envelope Value (.of requestContext context) (some args) = .ok e :=
    ⟨_, rfl⟩
  obtain ⟨hkeys, -, -, -, hc, hread⟩ := hbuilt e he
  refine ⟨a, context, e, he, ?_, hc hcontext hkinds, hread args rfl hargs trivial⟩
  rcases hkeys with ⟨-, p, v, hp, hv, hu⟩ | ⟨hkeys, -⟩
  · cases hp
    cases hv
    cases hu
  · exact hkeys

end Address

end Parley
