import Mathlib.Data.List.Pairwise
import Parley.Proofs.Shape.Probe

/-!
# Unions whose candidates exclude each other

A union commits to its first candidate whose probe accepts, so what it reads hangs on the order of
the candidates. Where no value is accepted by two of them (`Shape.Exclusive`) the order is of no
account: the union commits to the one candidate that accepts (`committed_eq_some_iff`), and reads
the same value by the same candidate however they are arranged (`chosen_decode_perm`).

Candidates are compared by `Shape.chosen`, the candidate of a value of the union together with its
content, since the types of two arrangements differ.
-/

namespace Parley.Shape

/-! ### The candidate of a value -/

/-- The candidate that a value of a union belongs to, and its content. -/
def chosen : (variants : List (String × Shape)) → VariantVal variants →
    (c : String × Shape) × c.2.Val
  | [], x => nomatch x
  | (name, s) :: variants, x =>
    match x with
    | .inl x => ⟨(name, s), x⟩
    | .inr x => chosen variants x

theorem chosen_mem {variants : List (String × Shape)} (x : VariantVal variants) :
    (chosen variants x).1 ∈ variants := by
  induction variants with
  | nil => exact nomatch x
  | cons c variants ih =>
    cases x with
    | inl x => exact List.mem_cons_self
    | inr x => exact List.mem_cons_of_mem _ (ih x)

/-- Where the candidates differ, a value of the union is determined by its candidate and content. -/
theorem chosen_injective {variants : List (String × Shape)} (hn : variants.Nodup) :
    Function.Injective (chosen variants) := by
  induction variants with
  | nil => exact fun x => nomatch x
  | cons c variants ih =>
    obtain ⟨hc, hn⟩ := List.nodup_cons.mp hn
    intro x y hxy
    cases x with
    | inl x =>
      cases y with
      | inl y =>
        have hxy : (⟨c, x⟩ : (c : String × Shape) × c.2.Val) = ⟨c, y⟩ := hxy
        cases hxy
        rfl
      | inr y =>
        have hfst : c = (chosen variants y).1 := congrArg Sigma.fst hxy
        exact absurd (hfst ▸ chosen_mem y) hc
    | inr x =>
      cases y with
      | inl y =>
        have hfst : (chosen variants x).1 = c := congrArg Sigma.fst hxy
        exact absurd (hfst ▸ chosen_mem x) hc
      | inr y => exact congrArg Sum.inr (ih hn hxy)

/-- A union writes what the candidate of the value writes. -/
theorem encodeVariants_eq {V : Type} [Host V] {variants : List (String × Shape)}
    (x : VariantVal variants) :
    encodeVariants V variants x = (chosen variants x).1.2.encode V (chosen variants x).2 := by
  induction variants with
  | nil => exact nomatch x
  | cons c variants ih =>
    cases x with
    | inl y => rfl
    | inr x => exact ih x

theorem encode_union {V : Type} [Host V] {name : String} {variants : List (String × Shape)}
    (x : (union name variants).Val) : (union name variants).encode V x =
      (chosen variants x).1.2.encode V (chosen variants x).2 :=
  encodeVariants_eq x

/-- A union reads what the candidate reads that it commits to. -/
theorem map_chosen_decode {V : Type} [Host V] (name : String) (variants : List (String × Shape))
    (v : V) :
    ((union name variants).decode v).map (chosen variants) =
      match committed variants v with
      | some c => (c.2.decode v).map (Sigma.mk c)
      | none => .error (.here (.noVariant name (Host.typeName v))) := by
  rw [decode]
  induction variants with
  | nil => rfl
  | cons c variants ih =>
    rw [committed_cons]
    cases hc : c.2.probe v with
    | true =>
      rw [decodeVariants_cons_of_probe hc, if_pos rfl]
      show ((c.2.decode v).map Sum.inl).map (chosen (c :: variants)) =
        (c.2.decode v).map (Sigma.mk c)
      cases c.2.decode v <;> rfl
    | false =>
      rw [decodeVariants_cons_of_not_probe hc, if_neg Bool.false_ne_true, ← ih]
      cases decodeVariants name variants v <;> rfl

/-- The candidate of a value that was read is the one that the union committed to, and has read its
content. -/
theorem committed_of_decode {name : String} {variants : List (String × Shape)} {v : Value}
    {x : VariantVal variants} (h : (union name variants).decode v = .ok x) :
    committed variants v = some (chosen variants x).1 ∧
      (chosen variants x).1.2.decode v = .ok (chosen variants x).2 := by
  have hread := map_chosen_decode name variants v
  rw [h] at hread
  cases hc : committed variants v with
  | none =>
    rw [hc] at hread
    cases hread
  | some c =>
    rw [hc] at hread
    obtain ⟨y, hy, hchosen⟩ := Except.map_eq_ok.1 hread.symm
    rw [← hchosen]
    exact ⟨rfl, hy⟩

/-! ### Exclusive candidates -/

/-- What looks like the one candidate does not look like the other. -/
def Apart (c c' : String × Shape) : Prop :=
  ∀ v : Value, c.2.probe v = true → c'.2.probe v = false

theorem Apart.symm {c c' : String × Shape} (h : Apart c c') : Apart c' c := by
  intro v hc'
  rw [← Bool.not_eq_true]
  intro hc
  rw [h v hc] at hc'
  cases hc'

instance : Std.Symm Apart := ⟨fun _ _ h => h.symm⟩

/-- No value looks like two of the candidates. -/
def Exclusive (variants : List (String × Shape)) : Prop := variants.Pairwise Apart

namespace Exclusive

variable {variants reordered : List (String × Shape)}

theorem perm (h : Exclusive variants) (hp : variants.Perm reordered) : Exclusive reordered :=
  (hp.pairwise_iff fun h => h.symm).mp h

/-- Two candidates that accept one value are the same. -/
theorem eq_of_probe (h : Exclusive variants) {c c' : String × Shape} (hc : c ∈ variants)
    (hc' : c' ∈ variants) {v : Value} (hv : c.2.probe v = true) (hv' : c'.2.probe v = true) :
    c = c' := by
  by_contra hne
  have hfalse := h.forall hc hc' hne v hv
  rw [hv'] at hfalse
  cases hfalse

/-- At most one candidate accepts a value, also when candidates are counted as often as they
occur. -/
theorem countP_le_one (h : Exclusive variants) (v : Value) :
    variants.countP (fun c => c.2.probe v) ≤ 1 := by
  induction h with
  | nil => exact Nat.zero_le 1
  | cons hc _ ih =>
    rw [List.countP_cons]
    split
    · rename_i hv
      have hnone := List.countP_eq_zero.mpr fun c' hc' => Bool.eq_false_iff.mp (hc c' hc' v hv)
      exact Nat.le_of_eq (congrArg (· + 1) hnone)
    · exact ih

/-- The union commits to the candidate that accepts, wherever it stands. -/
theorem committed_eq_some_iff (h : Exclusive variants) {c : String × Shape} {v : Value} :
    committed variants v = some c ↔ c ∈ variants ∧ c.2.probe v = true := by
  refine ⟨committed_eq_some, fun ⟨hc, hv⟩ => ?_⟩
  have hsome : (committed variants v).isSome :=
    List.find?_isSome.mpr ⟨c, hc, by simpa using hv⟩
  obtain ⟨c', hc'⟩ := Option.isSome_iff_exists.mp hsome
  obtain ⟨hmem, hv'⟩ := committed_eq_some hc'
  rw [hc', h.eq_of_probe hmem hc hv' hv]

theorem committed_perm (h : Exclusive variants) (hp : variants.Perm reordered) (v : Value) :
    committed reordered v = committed variants v := by
  ext c
  rw [h.committed_eq_some_iff, (h.perm hp).committed_eq_some_iff, hp.mem_iff]

/-- However the candidates are arranged, the same one reads the same content, or reading fails in
the same way. -/
theorem chosen_decode_perm (h : Exclusive variants) (hp : variants.Perm reordered) (name : String)
    (v : Value) :
    ((union name reordered).decode v).map (chosen reordered) =
      ((union name variants).decode v).map (chosen variants) := by
  rw [map_chosen_decode, map_chosen_decode, h.committed_perm hp]

/-- What a candidate reads is what the union reads. -/
theorem decode_eq_ok (h : Exclusive variants) (hn : variants.Nodup) {name : String} {v : Value}
    {x : VariantVal variants} {c : String × Shape} {y : c.2.Val}
    (hx : chosen variants x = ⟨c, y⟩) (hy : c.2.decode v = .ok y) :
    (union name variants).decode v = .ok x := by
  have hc : c ∈ variants := by
    have hmem := chosen_mem x
    rwa [hx] at hmem
  have hcommitted := h.committed_eq_some_iff.mpr ⟨hc, probe_of_decode hy⟩
  have hread : ((union name variants).decode v).map (chosen variants) = .ok ⟨c, y⟩ := by
    rw [map_chosen_decode, hcommitted]
    show (c.2.decode v).map (fun y => (⟨c, y⟩ : (c : String × Shape) × c.2.Val)) = _
    rw [hy]
    rfl
  obtain ⟨x', hx', hchosen⟩ := Except.map_eq_ok.1 hread
  exact hx'.trans (congrArg Except.ok (chosen_injective hn (hchosen.trans hx.symm)))

end Exclusive

/-! ### Instances -/

/-- Literals of different texts exclude each other. -/
theorem exclusive_literals (texts : List (String × String)) (hn : (texts.map Prod.snd).Nodup) :
    Exclusive (texts.map fun t => (t.1, literal t.2)) := by
  apply List.pairwise_map.2
  apply (List.pairwise_map.1 hn).imp
  intro t t' hne v hv
  have hv : Value.string? v = some t.2 := eq_of_beq hv
  show (Value.string? v == some t'.2) = false
  rw [hv]
  exact beq_false_of_ne fun he => hne (Option.some.inj he)

end Parley.Shape
