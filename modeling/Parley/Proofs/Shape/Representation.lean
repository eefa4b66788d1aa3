import Parley.Proofs.Shape.Result
import Parley.Reply

/-!
# Integers and doubles

A number has two representations, and what is received may hold either. Values that differ in nothing
else (`Value.Renumbered`) agree for every shape, and no property is missing in the one that the other
has. So every shape reads them alike, and a rejection means the same in both
(`representation_invisible`).
-/

namespace Parley

namespace Value

/-- The values are the same, but for small integers that stand as doubles on the other side, at any
depth. -/
inductive Renumbered : Value → Value → Prop
  | refl (v : Value) : Renumbered v v
  | toDouble (n : Int32) : Renumbered (int n) (double (Double.ofInt n.toInt))
  | toInt (n : Int32) : Renumbered (double (Double.ofInt n.toInt)) (int n)
  | array {xs ys : List Value} : List.Forall₂ Renumbered xs ys → Renumbered (array xs) (array ys)
  | object {es es' : List (String × Value)} : Entries.keys es = Entries.keys es' →
    List.Forall₂ Renumbered (es.map Prod.snd) (es'.map Prod.snd) →
      Renumbered (object es) (object es')

/-- Entries of the same keys whose values are related in order are related one by one. -/
theorem forall₂_entries {R : Value → Value → Prop} {es es' : List (String × Value)}
    (hkeys : Entries.keys es = Entries.keys es')
    (h : List.Forall₂ R (es.map Prod.snd) (es'.map Prod.snd)) :
    List.Forall₂ (fun e e' => e.1 = e'.1 ∧ R e.2 e'.2) es es' := by
  induction es generalizing es' with
  | nil =>
    cases es' with
    | nil => exact .nil
    | cons e' es' => cases hkeys
  | cons e es ih =>
    cases es' with
    | nil => cases hkeys
    | cons e' es' =>
      obtain ⟨hkey, hkeys⟩ := List.cons.inj hkeys
      cases h with
      | cons he h => exact .cons ⟨hkey, he⟩ (ih hkeys h)

namespace Renumbered

variable {v w x y : Value}

theorem outline (h : v.Renumbered w) : v.outline = w.outline := by
  cases h <;> rfl

theorem keys_eq {es es' : List (String × Value)} (h : (Value.object es).Renumbered (.object es')) :
    Entries.keys es = Entries.keys es' := by
  cases h with
  | refl => rfl
  | object hkeys _ => exact hkeys

theorem items {xs ys : List Value} (h : (Value.array xs).Renumbered (.array ys)) :
    List.Forall₂ Renumbered xs ys := by
  cases h with
  | refl => exact List.forall₂_same.2 fun x _ => refl x
  | array h => exact h

theorem entries {es es' : List (String × Value)} (h : (Value.object es).Renumbered (.object es')) :
    List.Forall₂ (fun e e' => e.1 = e'.1 ∧ Renumbered e.2 e'.2) es es' := by
  cases h with
  | refl => exact List.forall₂_same.2 fun e _ => ⟨rfl, refl e.2⟩
  | object hkeys h => exact forall₂_entries hkeys h

/-- A key is absent on both sides, or has two entries that are the same in turn. -/
theorem get? (h : v.Renumbered w) (key : String) : (v.get? key = none ∧ w.get? key = none) ∨
    ∃ x y, v.get? key = some x ∧ w.get? key = some y ∧ x.Renumbered y := by
  rcases objects_of_outline h.outline with ⟨es, es', rfl, rfl⟩ | ⟨hv, hw⟩
  · obtain ⟨hkeys, hget⟩ := Shape.get?_of_forall₂ h.entries
    cases hx : Entries.get? es key with
    | some x =>
      obtain ⟨y, hy, hxy⟩ := hget key x hx
      exact Or.inr ⟨x, y, hx, hy, hxy⟩
    | none =>
      have hnone := Entries.get?_eq_none_iff.1 hx
      rw [hkeys] at hnone
      exact Or.inl ⟨hx, Entries.get?_eq_none_iff.2 hnone⟩
  · rw [Value.get?, Value.get?, hv, hw]
    exact Or.inl ⟨rfl, rfl⟩

theorem property (h : v.Renumbered w) (key : String) :
    (Host.property v key).Renumbered (Host.property w key) := by
  have hproperty (u : Value) : Host.property u key = (u.get? key).getD undefined := rfl
  rw [hproperty, hproperty]
  rcases h.get? key with ⟨hv, hw⟩ | ⟨x, y, hv, hw, hxy⟩
  · rw [hv, hw]
    exact refl undefined
  · rw [hv, hw]
    exact hxy

/-! ### Agreement -/

/-- No shape tells the values apart. -/
theorem agree (h : v.Renumbered w) (s : Shape) : s.Agree v w := by
  induction s generalizing v w with
  | option content ih => exact ih h
  | list item ih =>
    refine ⟨h.outline, ?_⟩
    rcases arrays_of_outline h.outline with ⟨xs, ys, rfl, rfl⟩ | ⟨hv, hw⟩
    · exact h.items.imp fun x y hxy => ih hxy
    · rw [hv, hw]
      exact .nil
  | record entry ih =>
    refine ⟨h.outline, ?_⟩
    rcases objects_of_outline h.outline with ⟨es, es', rfl, rfl⟩ | ⟨hv, hw⟩
    · exact h.entries.imp fun e e' he => ⟨he.1, ih he.2⟩
    · rw [hv, hw]
      exact .nil
  | struct name fields ih =>
    exact ⟨h.outline, Shape.agreeFields_iff.2 fun f hf => ih f hf (h.property f.1.wire)⟩
  | union name variants ih =>
    exact ⟨h.outline, Shape.agreeVariants_iff.2 fun c hc => ih c hc h⟩
  | _ => exact h.outline

/-! ### Places -/

theorem step (h : v.Renumbered w) {g : Segment} (hx : v.step? g = some x)
    (hy : w.step? g = some y) : x.Renumbered y := by
  cases g with
  | field name =>
    obtain ⟨_, _, rfl⟩ := Option.map_eq_some_iff.1 hx
    obtain ⟨_, _, rfl⟩ := Option.map_eq_some_iff.1 hy
    exact h.property name
  | index n =>
    rcases arrays_of_outline h.outline with ⟨xs, ys, rfl, rfl⟩ | ⟨hv, _⟩
    · obtain ⟨hn, rfl⟩ := List.getElem?_eq_some_iff.1 hx
      obtain ⟨hn', rfl⟩ := List.getElem?_eq_some_iff.1 hy
      exact h.items.get hn hn'
    · rw [step?, hv] at hx
      cases hx
  | key key =>
    have hx : v.get? key = some x := hx
    have hy : w.get? key = some y := hy
    rcases h.get? key with ⟨hv, _⟩ | ⟨x', y', hv, hw, hxy⟩
    · rw [hv] at hx
      cases hx
    · rw [hv] at hx
      rw [hw] at hy
      cases hx
      cases hy
      exact hxy

/-- At the end of a path that both values have, they are still the same. -/
theorem follow {path : Path} (h : v.Renumbered w) (hx : v.follow? path = some x)
    (hy : w.follow? path = some y) : x.Renumbered y := by
  induction path generalizing v w with
  | nil =>
    cases hx
    cases hy
    exact h
  | cons g path ih =>
    obtain ⟨v', hv', hx⟩ := Option.bind_eq_some_iff.1 hx
    obtain ⟨w', hw', hy⟩ := Option.bind_eq_some_iff.1 hy
    exact ih (h.step hv' hw') hx hy

/-- What is absent in the one value is absent in the other. -/
theorem absent_iff (h : v.Renumbered w) {path : Path} {es es' : List (String × Value)}
    (hv : v.follow? path = some (.object es)) (hw : w.follow? path = some (.object es'))
    (key : String) : Entries.get? es key = none ↔ Entries.get? es' key = none := by
  rw [Entries.get?_eq_none_iff, Entries.get?_eq_none_iff, (h.follow hv hw).keys_eq]

theorem not_absentOrUndefined (h : v.Renumbered w) (e e' : DecodeError) :
    ¬ v.AbsentOrUndefined w e e' ∧ ¬ w.AbsentOrUndefined v e e' := by
  constructor
  · rintro ⟨path, key, es, es', -, hv, hes, hw, hes', -, -⟩
    rw [(h.absent_iff hv hw key).1 hes] at hes'
    cases hes'
  · rintro ⟨path, key, es, es', -, hw, hes, hv, hes', -, -⟩
    rw [(h.absent_iff hv hw key).2 hes] at hes'
    cases hes'

/-! ### Reading -/

theorem decode (h : v.Renumbered w) (s : Shape) : s.decode v = s.decode w :=
  (h.agree s).decode.eq_of_not h.not_absentOrUndefined

theorem bind_get? {α : Type} (h : v.Renumbered w) {f : Value → Option α}
    (hf : ∀ x y, x.Renumbered y → f x = f y) (key : String) :
    (v.get? key).bind f = (w.get? key).bind f := by
  rcases h.get? key with ⟨hv, hw⟩ | ⟨x, y, hv, hw, hxy⟩
  · rw [hv, hw]
  · rw [hv, hw]
    exact hf x y hxy

theorem ofRejection (h : v.Renumbered w) : Failure.ofRejection v = Failure.ofRejection w := by
  have hread (s : Shape) (key : String) :
      ((v.get? key).bind fun x => (s.decode x).toOption) =
        (w.get? key).bind fun x => (s.decode x).toOption :=
    h.bind_get? (fun x y hxy => by rw [hxy.decode]) key
  have hcode := hread (.int .int64) "result"
  have hmessage := hread .string "message"
  exact congrArg₂ (fun c m => Failure.mk (Option.getD c Failure.unknownCode) m) hcode hmessage

end Renumbered

/-- In which representation numbers stand is seen by no probe, no reading and no classification of a
rejection. -/
theorem representation_invisible {v w : Value} (h : v.Renumbered w) :
    (∀ s : Shape, s.probe v = s.probe w ∧ s.decode v = s.decode w) ∧
      Failure.ofRejection v = Failure.ofRejection w :=
  ⟨fun s => ⟨(h.agree s).probe, h.decode s⟩, h.ofRejection⟩

/-- A progress report with its numbers in either representation. Reading it fails at the second part
on both sides, and as a rejection it is an abort on both. -/
theorem representation_invisible_report :
    ∃ (s : Shape) (v w : Value) (e : DecodeError), v.Renumbered w ∧ v ≠ w ∧
      e.path = [.field "parts", .index 1] ∧ s.decode v = .error e ∧ s.decode w = .error e ∧
        (Failure.ofRejection v).kind = .abort ∧ (Failure.ofRejection w).kind = .abort := by
  let s : Shape := .struct "Progress"
    [(⟨"result", "result"⟩, .int .int64), (⟨"parts", "parts"⟩, .list (.int .uint32))]
  let v : Value := .object
    [("result", .int 20), ("parts", .array [.int 1, .double (Double.ofInt (-1))])]
  let w : Value := .object
    [("result", .double (Double.ofInt 20)), ("parts", .array [.double (Double.ofInt 1), .int (-1)])]
  have h : v.Renumbered w := by
    have hparts : List.Forall₂ Renumbered [.int 1, .double (Double.ofInt (-1))]
        [.double (Double.ofInt 1), .int (-1)] :=
      .cons (.toDouble 1) (.cons (.toInt (-1)) .nil)
    exact .object rfl (.cons (.toDouble 20) (.cons (.array hparts) .nil))
  obtain ⟨hread, hrejection⟩ := representation_invisible h
  have hv : s.decode v =
    .error ⟨[.field "parts", .index 1], .outOfRange (Double.ofInt (-1)) "u32"⟩ := rfl
  have habort : (Failure.ofRejection v).kind = .abort := rfl
  have hne : v ≠ w := by simp [v, w]
  refine ⟨s, v, w, _, h, hne, rfl, hv, ?_, habort, ?_⟩
  · rw [← (hread s).2, hv]
  · rw [← hrejection, habort]

end Value

end Parley
