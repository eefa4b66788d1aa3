import Parley.Proofs.Shape.RoundTrip

/-!
# Unions with overlapping candidates

Where candidates overlap, a value that was written by one of them may be read by another. It is then
one that was declared before: every shape accepts what it has written
(`DistinctWires.probe_of_encode`), so that the first candidate that accepts does not come after the
one that wrote (`drifts_forward`). Nothing is said about what it reads.
-/

namespace Parley.Shape

open Codec

/-! ### Candidates by their number -/

/-- A value of the candidate with the given number. -/
def VariantVal.ofIndex : (variants : List (String × Shape)) → (i : Fin variants.length) →
    (variants.get i).2.Val → VariantVal variants
  | _ :: _, ⟨0, _⟩, x => .inl x
  | _ :: variants, ⟨i + 1, hi⟩, x => .inr (ofIndex variants ⟨i, Nat.lt_of_succ_lt_succ hi⟩ x)

/-- The candidate is the first whose probe accepts. -/
structure CommitsTo {V : Type} [Host V] (variants : List (String × Shape)) (v : V)
    (j : Fin variants.length) : Prop where
  accepts : (variants.get j).2.probe v = true
  before : ∀ k < j, (variants.get k).2.probe v = false

section

variable {V : Type} [Host V] {variants : List (String × Shape)} {v : V}

theorem encodeVariants_ofIndex (i : Fin variants.length) (x : (variants.get i).2.Val) :
    encodeVariants V variants (.ofIndex variants i x) = (variants.get i).2.encode V x := by
  induction variants with
  | nil => exact i.elim0
  | cons c variants ih =>
    obtain ⟨i, hi⟩ := i
    cases i with
    | zero => rfl
    | succ i => exact ih ⟨i, Nat.lt_of_succ_lt_succ hi⟩ x

/-- If a candidate accepts, the first one that does stands there or before. -/
theorem exists_commitsTo {i : Fin variants.length} (hi : (variants.get i).2.probe v = true) :
    ∃ j ≤ i, CommitsTo variants v j := by
  induction hn : i.val using Nat.strongRecOn generalizing i with
  | _ n ih =>
    by_cases hearlier : ∃ k < i, (variants.get k).2.probe v = true
    · obtain ⟨k, hk, hp⟩ := hearlier
      obtain ⟨j, hj, hcommits⟩ := ih k.val (hn ▸ hk) hp rfl
      exact ⟨j, Nat.le_trans hj (Nat.le_of_lt hk), hcommits⟩
    · exact ⟨i, Nat.le_refl _, hi, fun k hk => Bool.eq_false_iff.2 fun hp => hearlier ⟨k, hk, hp⟩⟩

/-- What is read is what the first candidate reads that accepts. -/
theorem CommitsTo.decode {j : Fin variants.length} (h : CommitsTo variants v j) (name : String) :
    (union name variants).decode v =
      ((variants.get j).2.decode v).map (VariantVal.ofIndex variants j) := by
  show decodeVariants name variants v = _
  induction variants with
  | nil => exact j.elim0
  | cons c variants ih =>
    obtain ⟨j, hj⟩ := j
    cases j with
    | zero => exact decodeVariants_cons_of_probe h.accepts
    | succ j =>
      have hc : c.2.probe v = false := h.before ⟨0, Nat.succ_pos _⟩ (Nat.succ_pos j)
      have htail : CommitsTo variants v ⟨j, Nat.lt_of_succ_lt_succ hj⟩ :=
        ⟨h.accepts, fun k hk => h.before k.succ (Nat.succ_lt_succ hk)⟩
      rw [decodeVariants_cons_of_not_probe hc, ih htail]
      show _ = ((variants.get ⟨j, Nat.lt_of_succ_lt_succ hj⟩).2.decode v).map _
      cases (variants.get ⟨j, Nat.lt_of_succ_lt_succ hj⟩).2.decode v <;> rfl

end

/-! ### What was written is accepted -/

/-- Every shape accepts what it has written, if structs name their properties apart. -/
theorem DistinctWires.probe_of_encode {s : Shape} (hs : s.DistinctWires) {x : s.Val} {v : Value}
    (hk : s.WellKinded x) (h : s.encode Value x = .ok v) : s.probe v = true := by
  induction s generalizing v with
  | bool | number | string | int | null | unit | blob | literal =>
    -- a leaf is read again, and so it was accepted
    refine probe_of_decode (RoundTrippable.restores ?_ x v hk h)
    trivial
  | option content ih =>
    cases x with
    | none =>
      cases h
      rfl
    | some y =>
      obtain ⟨hy, -⟩ := present_eq_ok h
      have hp : content.probe v = true := ih hs.2 hk hy
      rw [probe, hp, Bool.or_true]
  | list item ih =>
    rw [encode] at h
    obtain ⟨ws, -, rfl⟩ := Except.map_eq_ok.1 h
    rfl
  | record entry ih =>
    obtain ⟨ws, rfl, -⟩ := encode_record_eq_ok h
    rfl
  | struct name fields ih =>
    obtain ⟨hn, hfields⟩ := throughout_struct.1 hs
    have hprops := property_of_encodeFields hn (fun _ _ => rfl) h
    obtain ⟨os, rfl, -⟩ := encodeFields_frame h
    have hp : probeFields fields (Value.object os) = true := by
      apply probeFields_iff.2
      intro f hf
      -- a field that was left out reads as undefined, which is what it was written as
      obtain ⟨y, hy⟩ := exists_mem_fieldList x hf
      exact ih f hf (hfields f hf) (wellKindedFields_iff.1 hk _ hy) (hprops _ hy)
    rw [probe, hp, Bool.and_true]
    rfl
  | union name variants ih =>
    obtain ⟨-, hvariants⟩ := throughout_union.1 hs
    obtain ⟨c, hc, y, hky, hy⟩ := encodeVariants_eq_ok hk h
    rw [probe]
    exact probeVariants_iff.2 ⟨c, hc, ih c hc (hvariants c hc) hky hy⟩

/-! ### Main statement -/

/-- What a candidate of a union has written is accepted by the union, which reads it by the first
candidate that accepts: this one or one before it. An error then lies inside, and is never that no
candidate accepts. -/
theorem drifts_forward (name : String) (variants : List (String × Shape))
    (hs : (union name variants).DistinctWires) (i : Fin variants.length)
    (x : (variants.get i).2.Val) (hx : (variants.get i).2.WellKinded x) (v : Value)
    (h : (union name variants).encode Value (.ofIndex variants i x) = .ok v) :
    (union name variants).probe v = true ∧
      (∀ found, (union name variants).decode v ≠ .error (.here (.noVariant name found))) ∧
      ∃ j ≤ i, CommitsTo variants v j ∧
        (union name variants).decode v =
          ((variants.get j).2.decode v).map (VariantVal.ofIndex variants j) := by
  have hwritten : (variants.get i).2.encode Value x = .ok v :=
    (encodeVariants_ofIndex i x).symm.trans h
  have hmem : variants.get i ∈ variants := List.get_mem _ _
  have hi : (variants.get i).2.probe v = true :=
    DistinctWires.probe_of_encode ((throughout_union.1 hs).2 _ hmem) hx hwritten
  have hp : (union name variants).probe v = true := probeVariants_iff.2 ⟨_, hmem, hi⟩
  refine ⟨hp, fun found hd => ?_, ?_⟩
  · obtain ⟨g, hg, -⟩ := (fails_of_decode hd).inside hp
    exact absurd hg List.not_mem_nil
  · obtain ⟨j, hj, hcommits⟩ := exists_commitsTo hi
    exact ⟨j, hj, hcommits, hcommits.decode name⟩

/-- A mark leaves no property behind, so that what was marked is read as a note that is absent. -/
theorem drifts_forward_omitted :
    ∃ (variants : List (String × Shape)) (i : Fin variants.length) (x : (variants.get i).2.Val)
      (v : Value), (union "Remark" variants).DistinctWires ∧ (variants.get i).2.WellKinded x ∧
      (union "Remark" variants).encode Value (.ofIndex variants i x) = .ok v ∧
      (union "Remark" variants).probe v = true ∧ ∃ j < i, CommitsTo variants v j := by
  let variants : List (String × Shape) :=
    [("Noted", struct "Noted" [(⟨"note", "note"⟩, option string)]),
      ("Marked", struct "Marked" [(⟨"mark", "mark"⟩, unit)])]
  let x : (struct "Marked" [(⟨"mark", "mark"⟩, unit)]).Val := ((), ())
  have hs : (union "Remark" variants).DistinctWires := by
    simp [variants, DistinctWires, Throughout, ThroughoutVariants, ThroughoutFields, wires]
  have hx : (struct "Marked" [(⟨"mark", "mark"⟩, unit)]).WellKinded x := ⟨trivial, trivial⟩
  obtain ⟨hp, -, j, hj, hcommits, -⟩ :=
    drifts_forward "Remark" variants hs ⟨1, by decide⟩ x hx (.object []) rfl
  refine ⟨variants, ⟨1, by decide⟩, x, .object [], hs, hx, rfl, hp, j, ?_, hcommits⟩
  -- the mark does not decide, since the note accepts before it
  rcases Nat.lt_or_eq_of_le hj with hlt | heq
  · exact hlt
  · have hfirst := hcommits.before ⟨0, by decide⟩ (by rw [Fin.lt_def, heq]; decide)
    cases hfirst

end Parley.Shape
