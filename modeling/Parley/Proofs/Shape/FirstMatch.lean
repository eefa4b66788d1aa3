import Parley.Proofs.Shape.Union

/-!
# Unions with candidates behind others

A union whose candidates are `first ++ more` goes by `first` as long as one of them accepts, whatever
becomes of the decoding then, and by `more` otherwise (`union_append`). So candidates that are added
behind the others never change how a value is read that was accepted without them.

The values of the three unions have different types. `VariantVal.withMore` and `VariantVal.behind` take
a value of a part into the whole; the candidate and its content stay what they are.
-/

namespace Parley.Shape

open Codec

/-! ### Values of a part of the candidates -/

/-- A value of one of the first candidates, where more of them follow. -/
def VariantVal.withMore (more : List (String × Shape)) :
    {first : List (String × Shape)} → VariantVal first → VariantVal (first ++ more)
  | [], x => nomatch x
  | _ :: _, .inl y => .inl y
  | _ :: _, .inr x => .inr (withMore more x)

/-- A value of one of the candidates behind the first ones. -/
def VariantVal.behind {more : List (String × Shape)} :
    (first : List (String × Shape)) → VariantVal more → VariantVal (first ++ more)
  | [], x => x
  | _ :: first, x => .inr (behind first x)

variable {first more : List (String × Shape)}

theorem chosen_withMore (x : VariantVal first) :
    chosen (first ++ more) (x.withMore more) = chosen first x := by
  induction first with
  | nil => exact nomatch x
  | cons c first ih =>
    cases x with
    | inl y => rfl
    | inr x => exact ih x

theorem chosen_behind (x : VariantVal more) :
    chosen (first ++ more) (x.behind first) = chosen more x := by
  induction first with
  | nil => rfl
  | cons c first ih => exact ih

/-! ### Probing and reading -/

variable {V : Type} [Host V] {v : V}

theorem committed_append : committed (first ++ more) v = (committed first v).or (committed more v) :=
  List.find?_append

theorem probe_union_append (name nameFirst nameMore : String) :
    (union name (first ++ more)).probe v =
      ((union nameFirst first).probe v || (union nameMore more).probe v) := by
  simp only [probe, probeVariants_eq, committed_append, Option.isSome_or]

/-- The first candidates decide alone, if one of them accepts. -/
theorem decode_union_append_of_probe (name nameFirst : String)
    (hp : (union nameFirst first).probe v = true) :
    (union name (first ++ more)).decode v =
      ((union nameFirst first).decode v).map (VariantVal.withMore more) := by
  rw [probe] at hp
  show decodeVariants name (first ++ more) v = (decodeVariants nameFirst first v).map _
  induction first with
  | nil => cases hp
  | cons c first ih =>
    rw [probeVariants] at hp
    show decodeVariants name (c :: (first ++ more)) v = _
    cases hc : c.2.probe v with
    | true =>
      -- no candidate is tried after this one, even if it fails
      rw [decodeVariants_cons_of_probe hc, decodeVariants_cons_of_probe hc]
      cases c.2.decode v <;> rfl
    | false =>
      rw [hc, Bool.false_or] at hp
      rw [decodeVariants_cons_of_not_probe hc, decodeVariants_cons_of_not_probe hc, ih hp]
      cases decodeVariants nameFirst first v <;> rfl

/-- The first candidates are passed over, if none of them accepts. -/
theorem decode_union_append_of_not_probe (name nameFirst : String)
    (hp : (union nameFirst first).probe v = false) :
    (union name (first ++ more)).decode v =
      ((union name more).decode v).map (VariantVal.behind first) := by
  rw [probe] at hp
  show decodeVariants name (first ++ more) v = (decodeVariants name more v).map _
  induction first with
  | nil =>
    show decodeVariants name more v = _
    cases decodeVariants name more v <;> rfl
  | cons c first ih =>
    obtain ⟨hc, hp⟩ := Bool.or_eq_false_iff.mp hp
    show decodeVariants name (c :: (first ++ more)) v = _
    rw [decodeVariants_cons_of_not_probe hc, ih hp]
    cases decodeVariants name more v <;> rfl

/-- The name of a union shows only where no candidate accepts. -/
theorem decode_union_of_probe {variants : List (String × Shape)} {name : String}
    (hp : (union name variants).probe v = true) (name' : String) :
    (union name variants).decode v = (union name' variants).decode v := by
  rw [probe] at hp
  show decodeVariants name variants v = decodeVariants name' variants v
  induction variants with
  | nil => cases hp
  | cons c variants ih =>
    rw [probeVariants] at hp
    cases hc : c.2.probe v with
    | true => rw [decodeVariants_cons_of_probe hc, decodeVariants_cons_of_probe hc]
    | false =>
      rw [hc, Bool.false_or] at hp
      rw [decodeVariants_cons_of_not_probe hc, decodeVariants_cons_of_not_probe hc, ih hp]

theorem decode_union_of_not_probe {variants : List (String × Shape)} {name : String}
    (hp : (union name variants).probe v = false) :
    (union name variants).decode v = .error (.here (.noVariant name (Host.typeName v))) := by
  rw [probe] at hp
  show decodeVariants name variants v = _
  induction variants with
  | nil => rfl
  | cons c variants ih =>
    obtain ⟨hc, hp⟩ := Bool.or_eq_false_iff.mp hp
    rw [decodeVariants_cons_of_not_probe hc, ih hp]
    rfl

/-! ### Main statement -/

/-- A union with candidates behind others accepts what one of the two parts accepts. What the first
part accepts it reads as that part does, by the candidate that the part commits to, and fails where
this one fails. What only the other part accepts it reads as that one does, and what neither accepts
it refuses under its own name. -/
theorem union_append (name nameFirst nameMore : String) (first more : List (String × Shape))
    (v : V) :
    (union name (first ++ more)).probe v =
        ((union nameFirst first).probe v || (union nameMore more).probe v) ∧
      ((union nameFirst first).probe v = true →
        (union name (first ++ more)).decode v =
            ((union nameFirst first).decode v).map (VariantVal.withMore more) ∧
          ∃ c, committed first v = some c ∧ committed (first ++ more) v = some c ∧
            ((union name (first ++ more)).decode v).map (chosen (first ++ more)) =
              (c.2.decode v).map (Sigma.mk c)) ∧
      ((union nameFirst first).probe v = false → (union nameMore more).probe v = true →
        (union name (first ++ more)).decode v =
          ((union nameMore more).decode v).map (VariantVal.behind first)) ∧
      ((union nameFirst first).probe v = false → (union nameMore more).probe v = false →
        (union name (first ++ more)).decode v =
            .error (.here (.noVariant name (Host.typeName v))) ∧
          (union nameMore more).decode v =
            .error (.here (.noVariant nameMore (Host.typeName v)))) ∧
      (∀ x, chosen (first ++ more) (VariantVal.withMore more x) = chosen first x) ∧
      ∀ x, chosen (first ++ more) (VariantVal.behind first x) = chosen more x := by
  have hprobe : (union name (first ++ more)).probe v =
      ((union nameFirst first).probe v || (union nameMore more).probe v) :=
    probe_union_append name nameFirst nameMore
  refine ⟨hprobe, fun hf => ⟨decode_union_append_of_probe name nameFirst hf, ?_⟩, fun hf hm => ?_,
    fun hf hm => ?_, chosen_withMore, chosen_behind⟩
  · rw [probe, probeVariants_eq, Option.isSome_iff_exists] at hf
    obtain ⟨c, hc⟩ := hf
    have hwhole : committed (first ++ more) v = some c := by
      rw [committed_append, hc, Option.some_or]
    have hread := map_chosen_decode name (first ++ more) v
    rw [hwhole] at hread
    exact ⟨c, hc, hwhole, hread⟩
  · rw [decode_union_append_of_not_probe name nameFirst hf, ← decode_union_of_probe hm name]
  · have hboth : (union name (first ++ more)).probe v = false := by
      rw [hprobe, hf, hm]
      rfl
    exact ⟨decode_union_of_not_probe hboth, decode_union_of_not_probe hm⟩

end Parley.Shape
