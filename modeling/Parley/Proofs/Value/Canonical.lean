import Parley.Proofs.Double.Nearest
import Parley.Proofs.Number

/-!
# The normal form of a number

A number is held as a small integer wherever its double is one, except for minus zero, and as the
double otherwise (`number_eq_int_iff`, `number_eq_double_iff`). The double comes back with all its
bits, so that numbers have the same normal form if and only if they have the same double
(`number_canonical`).
-/

namespace Parley.Value

/-- A small integer stands for every double that is this integer, but not for minus zero. -/
theorem number_eq_int_iff {d : Double} {n : Int32} :
    number d = int n ↔ d ≠ Double.negativeZero ∧ d.StandsFor n.toInt := by
  rw [← Double.toInt?_eq_some_iff, number]
  cases hm : d.toInt? with
  | none => simp
  | some m =>
    have hrange := And.intro n.le_toInt n.toInt_lt
    simp only [Option.some_inj]
    split
    · rename_i hsmall
      obtain ⟨hlow, hhigh, hz⟩ := hsmall
      have hword : (Int32.ofInt m).toInt = m := Int32.toInt_ofInt_of_le hlow hhigh
      constructor
      · rintro ⟨⟩
        exact ⟨hz, hword.symm⟩
      · rintro ⟨-, rfl⟩
        rw [Int32.ofInt_toInt]
    · rename_i hsmall
      constructor
      · rintro ⟨⟩
      · rintro ⟨hz, rfl⟩
        exact absurd ⟨hrange.1, hrange.2, hz⟩ hsmall

/-- What is no small integer stays the double that it is. -/
theorem number_eq_double_iff {d : Double} :
    number d = double d ↔ d = Double.negativeZero ∨ ∀ n : Int32, ¬d.StandsFor n.toInt := by
  constructor
  · intro h
    by_contra hnot
    obtain ⟨hz, hint⟩ := not_or.1 hnot
    obtain ⟨n, hn⟩ := not_forall_not.1 hint
    rw [number_eq_int_iff.2 ⟨hz, hn⟩] at h
    cases h
  · intro h
    rcases number_eq d with ⟨n, hn⟩ | hd
    · obtain ⟨hz, hstands⟩ := number_eq_int_iff.1 hn
      rcases h with rfl | hnone
      · exact absurd rfl hz
      · exact absurd hstands (hnone n)
    · exact hd

/-- The value with its number, if it holds one, in normal form. -/
def canonical (v : Value) : Value :=
  match v.number? with
  | some d => number d
  | none => v

theorem canonical_of_number? {v : Value} {d : Double} (h : v.number? = some d) :
    v.canonical = number d := by
  simp only [canonical, h]

@[simp] theorem canonical_number (d : Double) : (number d).canonical = number d :=
  canonical_of_number? (number?_number d)

@[simp] theorem number?_canonical (v : Value) : v.canonical.number? = v.number? := by
  cases h : v.number? with
  | none => simp only [canonical, h]
  | some d => rw [canonical_of_number? h, number?_number]

@[simp] theorem canonical_canonical (v : Value) : v.canonical.canonical = v.canonical := by
  cases h : v.number? with
  | none => simp only [canonical, h]
  | some d => rw [canonical_of_number? h, canonical_number]

/-- Normal forms of numbers tell their doubles apart, and nothing else. -/
theorem canonical_eq_iff {v w : Value} {d e : Double} (hv : v.number? = some d)
    (hw : w.number? = some e) : v.canonical = w.canonical ↔ d = e := by
  constructor
  · intro h
    have hnumber := congrArg number? h
    rw [number?_canonical, number?_canonical, hv, hw] at hnumber
    exact Option.some_inj.1 hnumber
  · rintro rfl
    rw [canonical_of_number? hv, canonical_of_number? hw]

/-- The normal form of a number is a small integer exactly if its double is one, minus zero apart,
and otherwise the double. No bit of the double is lost, a normal form is its own normal form, and
numbers with the same double have the same one. -/
theorem number_canonical :
    (∀ (d : Double) (n : Int32),
      number d = int n ↔ d ≠ Double.negativeZero ∧ d.StandsFor n.toInt) ∧
    (∀ d : Double,
      number d = double d ↔ d = Double.negativeZero ∨ ∀ n : Int32, ¬d.StandsFor n.toInt) ∧
    (∀ d : Double, (number d).number? = some d) ∧
    (∀ (v : Value) (d : Double), v.number? = some d →
      v.canonical = number d ∧ v.canonical.number? = some d ∧
        v.canonical.canonical = v.canonical) ∧
    ∀ (v w : Value) (d e : Double), v.number? = some d → w.number? = some e →
      (v.canonical = w.canonical ↔ d = e) := by
  refine ⟨fun _ _ => number_eq_int_iff, fun _ => number_eq_double_iff, number?_number, ?_, ?_⟩
  · intro v d hv
    refine ⟨canonical_of_number? hv, ?_, canonical_canonical v⟩
    rw [number?_canonical, hv]
  · intro v w d e hv hw
    exact canonical_eq_iff hv hw

/-- Zero has one normal form in both representations, and minus zero has another. -/
theorem number_canonical_zero :
    (int 0).canonical = (double (Double.ofInt 0)).canonical ∧
      (int 0).canonical ≠ (double Double.negativeZero).canonical := by
  constructor
  · exact (number_canonical.2.2.2.2 (int 0) (double (Double.ofInt 0)) _ _ rfl rfl).2 rfl
  · intro h
    have hbits := (number_canonical.2.2.2.2 (int 0) (double Double.negativeZero) _ _ rfl rfl).1 h
    exact absurd hbits (by decide)

end Parley.Value
