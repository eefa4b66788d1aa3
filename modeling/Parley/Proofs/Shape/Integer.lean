import Parley.Proofs.Double.Nearest
import Parley.Proofs.Number
import Parley.Proofs.Shape.Codec

/-!
# Integers on the wire

An integer travels as the double nearest to it. Past `2 ^ 53` integers share their doubles, so that
only those in a narrower range may travel (`IntKind.OnWire`), and nothing outside of this range is
ever mistaken for something inside (`Shape.integer_boundary`): writing and reading, which look at the
double alone, draw the line at the same place.

Reading a number has three outcomes, and the number that the double stands for tells which
(`Codec.readInt_cases`).
-/

namespace Parley

namespace IntKind

/-- The integers that may travel: all that are 32 bits wide, and those up to the last one that
shares its double with no other integer. -/
def OnWire : IntKind → Int → Prop
  | uint32, m => 0 ≤ m ∧ m < 2 ^ 32
  | int64, m => |m| ≤ 2 ^ 53 - 1
  | uint64, m => 0 ≤ m ∧ m ≤ 2 ^ 53 - 1

theorem inRange_iff {kind : IntKind} {m : Int} : kind.inRange m = true ↔ kind.OnWire m := by
  rw [inRange, Bool.and_eq_true, decide_eq_true_eq, decide_eq_true_eq]
  cases kind with
  | uint32 =>
    simp only [least, greatest, OnWire]
    omega
  | int64 =>
    simp only [least, greatest, maxSafe, OnWire, abs_le]
    omega
  | uint64 =>
    simp only [least, greatest, maxSafe, OnWire]
    omega

theorem onWire_uint32 (n : UInt32) : uint32.OnWire (uint32.toInt n) := by
  have h := n.toNat_lt
  simp only [OnWire, toInt]
  omega

theorem onWire_zero (kind : IntKind) : kind.OnWire 0 := by
  cases kind <;> simp [OnWire]

end IntKind

namespace Codec

open Double

/-- A number that is no integer, an integer that may not travel, and one that may. -/
theorem readInt_cases (kind : IntKind) {v : Value} {d : Double} (hd : v.number? = some d) :
    ((∀ m, ¬d.StandsFor m) ∧ readInt kind v = .error (.here (.notInteger d))) ∨
      (∃ m, d.StandsFor m ∧ ¬kind.OnWire m ∧
        readInt kind v = .error (.here (.outOfRange d kind.label))) ∨
      ∃ m, d.StandsFor m ∧ kind.OnWire m ∧ readInt kind v = .ok (kind.ofInt m) := by
  have hread : Host.number? v = some d := hd
  cases hm : d.toInt? with
  | none =>
    left
    constructor
    · intro m h
      rw [toInt?_eq_some_iff.2 h] at hm
      cases hm
    · simp only [readInt, hread, hm]
  | some m =>
    right
    have hstands := toInt?_eq_some_iff.1 hm
    by_cases hrange : kind.inRange m = true
    · right
      refine ⟨m, hstands, IntKind.inRange_iff.1 hrange, ?_⟩
      simp only [readInt, hread, hm, if_pos hrange]
    · left
      refine ⟨m, hstands, fun h => hrange (IntKind.inRange_iff.2 h), ?_⟩
      simp only [readInt, hread, hm, if_neg hrange]

section Reading

variable {kind : IntKind} {v : Value} {d : Double} (hd : v.number? = some d)
include hd

theorem readInt_eq_ok_iff {n : kind.Word} :
    readInt kind v = .ok n ↔ d.StandsFor (kind.toInt n) ∧ kind.OnWire (kind.toInt n) := by
  rcases readInt_cases kind hd with ⟨hnone, h⟩ | ⟨m, hm, hrange, h⟩ | ⟨m, hm, hrange, h⟩ <;> rw [h]
  · simp [hnone]
  · simp only [reduceCtorEq, false_iff, not_and]
    intro hn
    rw [hn.unique hm]
    exact hrange
  · have hword : kind.toInt (kind.ofInt m) = m := kind.toInt_ofInt (IntKind.inRange_iff.2 hrange)
    constructor
    · rintro ⟨⟩
      rw [hword]
      exact ⟨hm, hrange⟩
    · rintro ⟨hn, -⟩
      rw [← hn.unique hm, kind.ofInt_toInt]

theorem readInt_eq_notInteger_iff :
    readInt kind v = .error (.here (.notInteger d)) ↔ ∀ m, ¬d.StandsFor m := by
  rcases readInt_cases kind hd with ⟨hnone, h⟩ | ⟨m, hm, hrange, h⟩ | ⟨m, hm, hrange, h⟩ <;> rw [h]
  · simp [hnone]
  · simpa [DecodeError.here] using ⟨m, hm⟩
  · simpa using ⟨m, hm⟩

theorem readInt_eq_outOfRange_iff :
    readInt kind v = .error (.here (.outOfRange d kind.label)) ↔
      ∃ m, d.StandsFor m ∧ ¬kind.OnWire m := by
  rcases readInt_cases kind hd with ⟨hnone, h⟩ | ⟨m, hm, hrange, h⟩ | ⟨m, hm, hrange, h⟩ <;> rw [h]
  · simp [hnone, DecodeError.here]
  · simpa using ⟨m, hm, hrange⟩
  · simp only [reduceCtorEq, false_iff, not_exists, not_and, not_not]
    intro k hk
    rw [hk.unique hm]
    exact hrange

theorem isOk_readInt_iff : (readInt kind v).isOk = true ↔ ∃ m, d.StandsFor m ∧ kind.OnWire m := by
  rcases readInt_cases kind hd with ⟨hnone, h⟩ | ⟨m, hm, hrange, h⟩ | ⟨m, hm, hrange, h⟩ <;> rw [h]
  · simp [hnone, Except.isOk, Except.toBool]
  · simp only [Except.isOk, Except.toBool, Bool.false_eq_true, false_iff, not_exists, not_and]
    intro k hk
    rw [hk.unique hm]
    exact hrange
  · simpa [Except.isOk, Except.toBool] using ⟨m, hm, hrange⟩

end Reading

/-- The test on the rounded integer lets the same integers through as one on the integer itself. -/
theorem toRat_ofInt_between_iff (kind : IntKind) (n : kind.Word) :
    ((kind.least : ℚ) ≤ (Double.ofInt (kind.toInt n)).toRat ∧
        (Double.ofInt (kind.toInt n)).toRat ≤ kind.greatest) ↔ kind.OnWire (kind.toInt n) := by
  have hint := Double.toInt?_ofInt (kind.log2_toInt_lt n)
  have hany := any_inRange kind n
  rw [← IntKind.inRange_iff, ← hany, hint, (toInt?_eq_some_iff.1 hint).2, Int.cast_le, Int.cast_le]
  simp [IntKind.inRange]

theorem writeInt_isOk_iff {kind : IntKind} {n : kind.Word} :
    (∃ v : Value, writeInt kind n = .ok v) ↔ kind.OnWire (kind.toInt n) := by
  rw [writeInt_eq, ← IntKind.inRange_iff]
  split
  · rename_i h
    simp [h]
  · rename_i h
    simp [h]

end Codec

namespace Shape

open Codec

/-- Writing and reading integers draw the same line. An integer is written if it may travel, though
what is tested is the double nearest to it, and it is read again unchanged. A number is read as an
integer, and looks like one, if its double is one that may travel; the integer read is the one that
the double stands for, zero for minus zero. Otherwise the error says whether there is no such
integer or whether it may not travel. -/
theorem integer_boundary (kind : IntKind) :
    (∀ n : kind.Word,
      (Double.ofInt (kind.toInt n)).Rounds (kind.toInt n) ∧
      ((∃ v, (int kind).encode Value n = .ok v) ↔
        (kind.least : ℚ) ≤ (Double.ofInt (kind.toInt n)).toRat ∧
          (Double.ofInt (kind.toInt n)).toRat ≤ kind.greatest) ∧
      ((∃ v, (int kind).encode Value n = .ok v) ↔ kind.OnWire (kind.toInt n)) ∧
      ∀ v, (int kind).encode Value n = .ok v →
        v = Value.number (Double.ofInt (kind.toInt n)) ∧ (int kind).decode v = .ok n) ∧
    (∀ (v : Value) (d : Double), v.number? = some d →
      ((int kind).probe v = true ↔ ∃ n, (int kind).decode v = .ok n) ∧
      ((int kind).probe v = true ↔ ∃ m, d.StandsFor m ∧ kind.OnWire m) ∧
      (∀ n, (int kind).decode v = .ok n ↔
        d.StandsFor (kind.toInt n) ∧ kind.OnWire (kind.toInt n)) ∧
      ((int kind).decode v = .error (.here (.notInteger d)) ↔ ∀ m, ¬d.StandsFor m) ∧
      ((int kind).decode v = .error (.here (.outOfRange d kind.label)) ↔
        ∃ m, d.StandsFor m ∧ ¬kind.OnWire m)) ∧
    (∃ n, kind.toInt n = 0 ∧ (int kind).decode (Value.double Double.negativeZero) = .ok n) ∧
    (kind = .uint32 → ∀ n, ∃ v, (int kind).encode Value n = .ok v) := by
  refine ⟨?_, ?_, ?_, ?_⟩
  · intro n
    refine ⟨Double.rounds_ofInt (kind.log2_toInt_lt n), ?_, writeInt_isOk_iff, ?_⟩
    · rw [toRat_ofInt_between_iff]
      exact writeInt_isOk_iff
    · intro v h
      exact ⟨(writeInt_eq_ok h).1, readInt_of_writeInt h⟩
  · intro v d hd
    exact ⟨Except.isOk_iff, isOk_readInt_iff hd, fun n => readInt_eq_ok_iff hd,
      readInt_eq_notInteger_iff hd, readInt_eq_outOfRange_iff hd⟩
  · have hzero : kind.toInt (kind.ofInt 0) = 0 :=
      kind.toInt_ofInt (IntKind.inRange_iff.2 kind.onWire_zero)
    refine ⟨kind.ofInt 0, hzero, (readInt_eq_ok_iff rfl).2 ?_⟩
    rw [hzero]
    exact ⟨Double.standsFor_negativeZero, kind.onWire_zero⟩
  · rintro rfl n
    exact writeInt_isOk_iff.2 (IntKind.onWire_uint32 n)

/-- The least positive integer that is rounded to another one is out of range with it. -/
theorem integer_boundary_rounded :
    (Value.double (Double.ofInt (2 ^ 53 + 1))).number? = some (Double.ofInt (2 ^ 53 + 1)) ∧
      (int .int64).decode (Value.double (Double.ofInt (2 ^ 53 + 1))) =
        .error (.here (.outOfRange (Double.ofInt (2 ^ 53 + 1)) "i64")) := by
  have hint : (Double.ofInt (2 ^ 53 + 1)).toInt? = some (2 ^ 53) := by decide
  have hwire : ¬IntKind.OnWire .int64 (2 ^ 53) := by
    simp [IntKind.OnWire]
  refine ⟨rfl, ?_⟩
  exact ((integer_boundary .int64).2.1 (.double _) _ rfl).2.2.2.2.2
    ⟨2 ^ 53, Double.toInt?_eq_some_iff.1 hint, hwire⟩

end Shape

end Parley
