import Parley.Proofs.Double
import Parley.Shape.Codec

/-!
# Numbers on the wire

A number keeps its double in the normal form of dynamic values (`Value.number?_number`), and an
integer that may be written is read again as the same integer (`Codec.readInt_of_writeInt`). The range
is tested on the rounded integer; what the test lets through has not been rounded.
-/

namespace Parley

theorem Value.number_eq (d : Double) :
    (∃ n, Value.number d = .int n) ∨ Value.number d = .double d := by
  rw [Value.number]
  split
  · split
    · exact Or.inl ⟨_, rfl⟩
    · exact Or.inr rfl
  · exact Or.inr rfl

theorem Value.isUndefined_number (d : Double) : (Value.number d).isUndefined = false := by
  rcases Value.number_eq d with ⟨n, hn⟩ | hd
  · rw [hn]
    rfl
  · rw [hd]
    rfl

/-- The normal form of a number loses nothing of its double. -/
theorem Value.number?_number (d : Double) : (Value.number d).number? = some d := by
  rw [Value.number]
  split
  · rename_i n hn
    split
    · rename_i hrange
      obtain ⟨hlow, hhigh, hz⟩ := hrange
      rw [Value.number?, Int32.toInt_ofInt_of_le hlow hhigh, Double.ofInt_of_toInt? hn hz]
    · rfl
  · rfl

namespace IntKind

/-- A word is determined by its integer. -/
theorem ofInt_toInt (kind : IntKind) (n : kind.Word) : kind.ofInt (kind.toInt n) = n := by
  cases kind with
  | uint32 => exact UInt32.ofNat_toNat
  | int64 => exact Int64.ofInt_toInt n
  | uint64 => exact UInt64.ofNat_toNat

/-- An integer in range is the one that its word stands for. -/
theorem toInt_ofInt {kind : IntKind} {n : Int} (h : kind.inRange n = true) :
    kind.toInt (kind.ofInt n) = n := by
  rw [inRange, Bool.and_eq_true, decide_eq_true_eq, decide_eq_true_eq] at h
  cases kind with
  | uint32 =>
    simp only [least, greatest] at h
    show ((UInt32.ofNat n.toNat).toNat : Int) = n
    rw [UInt32.toNat_ofNat_of_lt' (by simp only [UInt32.size]; omega)]
    omega
  | int64 =>
    simp only [least, greatest, maxSafe] at h
    exact Int64.toInt_ofInt_of_le (by omega) (by omega)
  | uint64 =>
    simp only [least, greatest, maxSafe] at h
    show ((UInt64.ofNat n.toNat).toNat : Int) = n
    rw [UInt64.toNat_ofNat_of_lt' (by simp only [UInt64.size]; omega)]
    omega

theorem natAbs_toInt_lt (kind : IntKind) (n : kind.Word) : (kind.toInt n).natAbs < 2 ^ 64 := by
  cases kind with
  | uint32 =>
    have h := UInt32.toNat_lt n
    show ((UInt32.toNat n : Nat) : Int).natAbs < _
    omega
  | int64 =>
    have hlow := Int64.le_toInt n
    have hhigh := Int64.toInt_lt n
    show (Int64.toInt n).natAbs < _
    omega
  | uint64 =>
    have h := UInt64.toNat_lt n
    show ((UInt64.toNat n : Nat) : Int).natAbs < _
    omega

theorem log2_toInt_lt (kind : IntKind) (n : kind.Word) : (kind.toInt n).natAbs.log2 < 1023 := by
  rcases Nat.eq_zero_or_pos (kind.toInt n).natAbs with hz | hpos
  · rw [hz]
    decide
  · have hlog := (Nat.log2_lt (by omega)).2 (kind.natAbs_toInt_lt n)
    omega

/-- A word may travel if it stands for one of the integers that are doubles of their own. -/
theorem inRange_toInt (kind : IntKind) {n : kind.Word} :
    kind.inRange (kind.toInt n) = true ↔ ((kind.toInt n).natAbs : Int) ≤ maxSafe := by
  rw [inRange, Bool.and_eq_true, decide_eq_true_eq, decide_eq_true_eq]
  cases kind with
  | uint32 =>
    have h := UInt32.toNat_lt n
    simp only [least, greatest, maxSafe, toInt]
    omega
  | int64 =>
    simp only [least, greatest, maxSafe]
    omega
  | uint64 =>
    simp only [least, greatest, maxSafe, toInt]
    omega

/-- Integers that may travel are below the first one that shares its double with another. -/
theorem natAbs_lt_of_inRange {kind : IntKind} {n : Int} (h : kind.inRange n = true) :
    n.natAbs < 2 ^ 53 := by
  rw [inRange, Bool.and_eq_true, decide_eq_true_eq, decide_eq_true_eq] at h
  cases kind <;> simp only [least, greatest, maxSafe] at h <;> omega

end IntKind

namespace Codec

/-- The test after rounding has the same outcome as one before. -/
theorem any_inRange (kind : IntKind) (n : kind.Word) :
    (Double.ofInt (kind.toInt n)).toInt?.any kind.inRange = kind.inRange (kind.toInt n) := by
  cases hrange : kind.inRange (kind.toInt n) with
  | true =>
    rw [Double.toInt?_ofInt_of_lt (IntKind.natAbs_lt_of_inRange hrange)]
    exact hrange
  | false =>
    rw [Bool.eq_false_iff]
    intro hany
    obtain ⟨m, hm, hmrange⟩ := (Option.any_eq_true _ _).1 hany
    have hmn : m = kind.toInt n :=
      Double.eq_of_toInt?_ofInt (kind.log2_toInt_lt n) hm (IntKind.natAbs_lt_of_inRange hmrange)
    rw [← hmn, hmrange] at hrange
    cases hrange

theorem writeInt_eq {V : Type} [Host V] (kind : IntKind) (n : kind.Word) :
    writeInt (V := V) kind n =
      if kind.inRange (kind.toInt n) then .ok (Host.ofNumber (Double.ofInt (kind.toInt n)))
      else .error (.here (.unrepresentable (toString (kind.toInt n)) kind.label)) := by
  rw [writeInt, any_inRange]

/-- An integer is written only if it is in range, and then as its own double. -/
theorem writeInt_eq_ok {kind : IntKind} {n : kind.Word} {v : Value}
    (h : writeInt kind n = .ok v) :
    v = Value.number (Double.ofInt (kind.toInt n)) ∧
      (Double.ofInt (kind.toInt n)).toInt? = some (kind.toInt n) ∧
      kind.inRange (kind.toInt n) = true := by
  rw [writeInt] at h
  split at h
  · rename_i hany
    obtain ⟨m, hm, hrange⟩ := (Option.any_eq_true _ _).1 hany
    have hmn : m = kind.toInt n :=
      Double.eq_of_toInt?_ofInt (kind.log2_toInt_lt n) hm (IntKind.natAbs_lt_of_inRange hrange)
    cases h
    exact ⟨rfl, hmn ▸ hm, hmn ▸ hrange⟩
  · cases h

/-- What is read as an integer is a number that equals it, and can be written. -/
theorem writeInt_of_readInt {kind : IntKind} {v : Value} {n : kind.Word}
    (h : readInt kind v = .ok n) :
    v.number?.bind Double.toInt? = some (kind.toInt n) ∧
      writeInt kind n = .ok (Value.number (Double.ofInt (kind.toInt n))) := by
  have hnumber : Host.number? v = v.number? := rfl
  rw [readInt, hnumber] at h
  cases hd : v.number? with
  | none =>
    rw [hd] at h
    cases h
  | some d =>
    simp only [hd] at h
    cases hm : d.toInt? with
    | none =>
      simp only [hm] at h
      cases h
    | some m =>
      simp only [hm] at h
      split at h
      · rename_i hrange
        cases h
        rw [kind.toInt_ofInt hrange]
        refine ⟨hm, ?_⟩
        rw [writeInt_eq, kind.toInt_ofInt hrange, if_pos hrange]
        rfl
      · cases h

/-- What is written as an integer is read as the same integer. -/
theorem readInt_of_writeInt {kind : IntKind} {n : kind.Word} {v : Value}
    (h : writeInt kind n = .ok v) : readInt kind v = .ok n := by
  obtain ⟨rfl, hint, hrange⟩ := writeInt_eq_ok h
  have hread : Host.number? (Value.number (Double.ofInt (kind.toInt n))) =
      some (Double.ofInt (kind.toInt n)) := Value.number?_number _
  simp only [readInt, hread, hint, hrange, if_true, kind.ofInt_toInt]

end Codec

end Parley
