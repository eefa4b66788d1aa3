import Mathlib.Data.List.Forall2
import Parley.Proofs.Shape.Codec
import Parley.Proofs.Shape.Induction

/-!
# Values that a shape does not tell apart

`Shape.Agree` relates two values in which a shape sees the same: nothing outside their parts differs
(`Value.outline`), and the parts that the shape looks into agree in turn. In a struct these are the
properties of the fields, so that two objects may agree with other keys, in another order.

It is reflexive and transitive, and the probe gives the same answer for both values (`Agree.probe`).
-/

namespace Parley

namespace Value

/-! ### The outside of a value -/

/-- A value without its parts, its number in the one representation that every number has. -/
def outline : Value → Value
  | int n => double (Double.ofInt n.toInt)
  | array _ => array []
  | object _ => object []
  | v => v

/-- What is read off the outline is the same for two values of one outline. -/
theorem congr_of_outline {α : Type} (f : Value → α) (hf : ∀ u, f u.outline = f u) {v w : Value}
    (h : v.outline = w.outline) : f v = f w := by
  rw [← hf v, h, hf w]

section Congr

variable {v w : Value} (h : v.outline = w.outline)
include h

theorem isUndefined_congr : v.isUndefined = w.isUndefined :=
  congr_of_outline isUndefined (fun u => by cases u <;> rfl) h

theorem typeName_congr : v.typeName = w.typeName :=
  congr_of_outline typeName (fun u => by cases u <;> rfl) h

theorem isObject_congr : v.entries?.isSome = w.entries?.isSome :=
  congr_of_outline (fun u => u.entries?.isSome) (fun u => by cases u <;> rfl) h

theorem isArray_congr : v.items?.isSome = w.items?.isSome :=
  congr_of_outline (fun u => u.items?.isSome) (fun u => by cases u <;> rfl) h

theorem arrays_of_outline : (∃ xs ys, v = array xs ∧ w = array ys) ∨
    (v.items? = none ∧ w.items? = none) := by
  have harray := isArray_congr h
  cases v with
  | array xs =>
    cases w with
    | array ys => exact Or.inl ⟨xs, ys, rfl, rfl⟩
    | _ => cases harray
  | _ =>
    have hnone := Option.isSome_eq_false_iff.1 harray.symm
    exact Or.inr ⟨rfl, Option.isNone_iff_eq_none.1 hnone⟩

theorem objects_of_outline : (∃ es es', v = object es ∧ w = object es') ∨
    (v.entries? = none ∧ w.entries? = none) := by
  have hobject := isObject_congr h
  cases v with
  | object es =>
    cases w with
    | object es' => exact Or.inl ⟨es, es', rfl, rfl⟩
    | _ => cases hobject
  | _ =>
    have hnone := Option.isSome_eq_false_iff.1 hobject.symm
    exact Or.inr ⟨rfl, Option.isNone_iff_eq_none.1 hnone⟩

theorem mismatch_congr (expected : String) :
    Codec.mismatch expected v = Codec.mismatch expected w := by
  rw [Codec.mismatch, Codec.mismatch, host_typeName, host_typeName, typeName_congr h]

end Congr

/-- Only undefined looks like undefined. -/
theorem outline_eq_undefined {v : Value} : v.outline = undefined ↔ v = undefined := by
  cases v <;> simp [outline]

end Value

namespace Shape

open Codec Value

mutual

/-- The shape sees no difference between the two values. -/
def Agree : Shape → Value → Value → Prop
  | option content, v, w => content.Agree v w
  | list item, v, w => v.outline = w.outline ∧
    List.Forall₂ item.Agree (v.items?.getD []) (w.items?.getD [])
  | record entry, v, w => v.outline = w.outline ∧
    List.Forall₂ (fun e e' => e.1 = e'.1 ∧ entry.Agree e.2 e'.2)
      (v.entries?.getD []) (w.entries?.getD [])
  | struct _ fields, v, w => v.outline = w.outline ∧ AgreeFields fields v w
  | union _ variants, v, w => v.outline = w.outline ∧ AgreeVariants variants v w
  | _, v, w => v.outline = w.outline

/-- No field sees a difference between the two properties that it reads. -/
def AgreeFields : List (Label × Shape) → Value → Value → Prop
  | [], _, _ => True
  | (l, s) :: fs, v, w =>
    s.Agree (Host.property v l.wire) (Host.property w l.wire) ∧ AgreeFields fs v w

/-- No candidate sees a difference. -/
def AgreeVariants : List (String × Shape) → Value → Value → Prop
  | [], _, _ => True
  | (_, s) :: vs, v, w => s.Agree v w ∧ AgreeVariants vs v w

end

theorem agreeFields_iff {fields : List (Label × Shape)} {v w : Value} : AgreeFields fields v w ↔
    ∀ f ∈ fields, f.2.Agree (Host.property v f.1.wire) (Host.property w f.1.wire) := by
  induction fields with
  | nil => simp [AgreeFields]
  | cons f fields ih => simp [AgreeFields, ih]

theorem agreeVariants_iff {variants : List (String × Shape)} {v w : Value} :
    AgreeVariants variants v w ↔ ∀ c ∈ variants, c.2.Agree v w := by
  induction variants with
  | nil => simp [AgreeVariants]
  | cons c variants ih => simp [AgreeVariants, ih]

variable {v w u : Value} {s : Shape}

theorem Agree.outline (h : s.Agree v w) : v.outline = w.outline := by
  induction s with
  | option content ih => exact ih h
  | list | record | struct | union => exact h.1
  | _ => exact h

theorem Agree.refl (s : Shape) (v : Value) : s.Agree v v := by
  induction s generalizing v with
  | option content ih => exact ih v
  | list item ih => exact ⟨rfl, List.forall₂_same.2 fun x _ => ih x⟩
  | record entry ih => exact ⟨rfl, List.forall₂_same.2 fun e _ => ⟨rfl, ih e.2⟩⟩
  | struct name fields ih => exact ⟨rfl, agreeFields_iff.2 fun f hf => ih f hf _⟩
  | union name variants ih => exact ⟨rfl, agreeVariants_iff.2 fun c hc => ih c hc v⟩
  | _ => rfl

/-- Lists that are related item by item, in two steps. -/
theorem forall₂_comp {α β γ : Type} {R : α → β → Prop} {R' : β → γ → Prop} {R'' : α → γ → Prop}
    {as : List α} {bs : List β} {cs : List γ} (h : List.Forall₂ R as bs)
    (h' : List.Forall₂ R' bs cs) (hR : ∀ a b c, R a b → R' b c → R'' a c) :
    List.Forall₂ R'' as cs := by
  induction h generalizing cs with
  | nil =>
    cases h'
    exact .nil
  | cons hab _ ih =>
    cases h' with
    | cons hbc h' => exact .cons (hR _ _ _ hab hbc) (ih h')

theorem Agree.trans (h : s.Agree v w) (h' : s.Agree w u) : s.Agree v u := by
  induction s generalizing v w u with
  | option content ih => exact ih h h'
  | list item ih => exact ⟨h.1.trans h'.1, forall₂_comp h.2 h'.2 fun _ _ _ => ih⟩
  | record entry ih =>
    refine ⟨h.1.trans h'.1, forall₂_comp h.2 h'.2 ?_⟩
    rintro e e' e'' ⟨hkey, he⟩ ⟨hkey', he'⟩
    exact ⟨hkey.trans hkey', ih he he'⟩
  | struct name fields ih =>
    have hfields := agreeFields_iff.1 h.2
    have hfields' := agreeFields_iff.1 h'.2
    exact ⟨h.1.trans h'.1, agreeFields_iff.2 fun f hf => ih f hf (hfields f hf) (hfields' f hf)⟩
  | union name variants ih =>
    have hvariants := agreeVariants_iff.1 h.2
    have hvariants' := agreeVariants_iff.1 h'.2
    exact ⟨h.1.trans h'.1,
      agreeVariants_iff.2 fun c hc => ih c hc (hvariants c hc) (hvariants' c hc)⟩
  | _ => exact Eq.trans h h'

/-! ### Probing -/

theorem committed_congr {variants : List (String × Shape)}
    (h : ∀ c ∈ variants, c.2.probe v = c.2.probe w) :
    committed variants v = committed variants w := by
  induction variants with
  | nil => rfl
  | cons c variants ih =>
    obtain ⟨hc, h⟩ := List.forall_mem_cons.1 h
    rw [committed_cons, committed_cons, hc, ih h]

theorem Agree.probe (h : s.Agree v w) : s.probe v = s.probe w := by
  have houtline := h.outline
  induction s generalizing v w with
  | bool | number | string | int | null | unit | blob | literal =>
    exact congr_of_outline _ (fun u => by cases u <;> rfl) houtline
  | option content ih =>
    have hu : Host.isUndefined v = Host.isUndefined w := isUndefined_congr houtline
    rw [Shape.probe, Shape.probe, hu, ih h houtline]
  | list => exact isArray_congr houtline
  | record => exact isObject_congr houtline
  | struct name fields ih =>
    have hobject : Host.isObject v = Host.isObject w := isObject_congr houtline
    have hfields := agreeFields_iff.1 h.2
    have hprobe : probeFields fields v = probeFields fields w := by
      rw [Bool.eq_iff_iff, probeFields_iff, probeFields_iff]
      refine forall₂_congr fun f hf => ?_
      rw [ih f hf (hfields f hf) (hfields f hf).outline]
    rw [Shape.probe, Shape.probe, hobject, hprobe]
  | union name variants ih =>
    have hvariants := agreeVariants_iff.1 h.2
    have hcommitted : committed variants v = committed variants w :=
      committed_congr fun c hc => ih c hc (hvariants c hc) houtline
    rw [Shape.probe, Shape.probe, probeVariants_eq, probeVariants_eq, hcommitted]

end Shape

end Parley
