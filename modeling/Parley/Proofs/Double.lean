import Mathlib.Algebra.Group.Nat.Defs
import Parley.Double

/-!
# Doubles and integers

The magnitude of a finite double is a whole number of units `2 ^ (-1074)` (`Double.units`), so that
being equal to an integer is a statement about natural numbers (`magnitude?_eq_some`). Both ways
between the two follow from it:

* `toInt?_ofInt`: the double nearest to an integer is equal to the integer `rounded`, which up to
  `2 ^ 53` is the integer itself (`rounded_of_lt`) and never falls below `2 ^ 53` again
  (`le_rounded`);
* `ofInt_of_toInt?`: a double that is equal to an integer is the one nearest to it, minus zero apart.
-/

namespace Parley.Double

/-! ### Fields -/

theorem fraction_lt (d : Double) : d.fraction < 0x10000000000000 :=
  Nat.mod_lt _ (by decide)

/-- A double is put together from its sign, its exponent field and its fraction. -/
theorem toNat_bits (d : Double) :
    d.bits.toNat = d.exponentField * 0x10000000000000 + d.fraction +
      if d.isNegative then 0x8000000000000000 else 0 := by
  have hlt := d.bits.toNat_lt
  simp only [exponentField, fraction, isNegative, decide_eq_true_eq]
  split <;> omega

/-- The double with the given sign, and with the exponent field and the fraction that stand in
`size`. -/
def withSign (negative : Bool) (size : Nat) : Double :=
  ⟨UInt64.ofNat (size + if negative then 0x8000000000000000 else 0)⟩

theorem ofInt_eq (n : Int) : ofInt n = withSign (n < 0) (bitsOfNat n.natAbs) := by
  simp only [ofInt, withSign, decide_eq_true_eq]

section WithSign

variable {negative : Bool} {size : Nat} (h : size < 0x8000000000000000)
include h

theorem toNat_withSign :
    (withSign negative size).bits.toNat = size + if negative then 0x8000000000000000 else 0 := by
  rw [withSign, UInt64.toNat_ofNat_of_lt']
  have hs : UInt64.size = 0x10000000000000000 := rfl
  split <;> omega

theorem isNegative_withSign : (withSign negative size).isNegative = negative := by
  rw [isNegative, toNat_withSign h]
  cases negative with
  | false => simpa using h
  | true => simp

theorem exponentField_withSign :
    (withSign negative size).exponentField = size / 0x10000000000000 := by
  rw [exponentField, toNat_withSign h]
  split <;> omega

theorem fraction_withSign : (withSign negative size).fraction = size % 0x10000000000000 := by
  rw [fraction, toNat_withSign h]
  split <;> omega

end WithSign

/-! ### Units -/

/-- The exponent of the finest unit: every finite double is a multiple of `2 ^ (-finest)`. -/
def finest : Nat := 1074

/-- The magnitude in units of `2 ^ (-finest)`. -/
def units (d : Double) : Nat := d.significand * 2 ^ (max 1 d.exponentField - 1)

/-- A quotient that has to be exact. -/
theorem exact_quotient {m u a : Nat} (hu : 0 < u) :
    (if m % u = 0 then some (m / u) else none) = some a ↔ a * u = m := by
  constructor
  · intro h
    split at h
    · rename_i hmod
      cases h
      exact Nat.div_mul_cancel (Nat.dvd_of_mod_eq_zero hmod)
    · cases h
  · intro h
    rw [← h, Nat.mul_mod_left, if_pos rfl, Nat.mul_div_cancel _ hu]

/-- A magnitude is the natural number that has as many units. -/
theorem magnitude?_eq_some {d : Double} {a : Nat} :
    d.magnitude? = some a ↔ a * 2 ^ finest = d.units := by
  have hfinest : finest = 1074 := rfl
  have hscale : d.scale = ((max 1 d.exponentField : Nat) : Int) - 1075 := rfl
  obtain ⟨p, hp⟩ : ∃ p, max 1 d.exponentField = p + 1 := ⟨max 1 d.exponentField - 1, by omega⟩
  rw [hp] at hscale
  rw [magnitude?, units, hp, Nat.add_sub_cancel]
  by_cases hle : finest ≤ p
  · -- At least one: the units of a magnitude are units of the significand, multiplied.
    obtain ⟨k, rfl⟩ := Nat.exists_eq_add_of_le hle
    have hk : d.scale.toNat = k := by omega
    rw [if_pos (by omega), hk, Option.some_inj, Nat.pow_eq, Nat.pow_add', ← Nat.mul_assoc,
      Nat.mul_left_inj (Nat.ne_of_gt (Nat.two_pow_pos finest)), eq_comm]
  · -- A fraction of the significand, which has to be exact.
    obtain ⟨k, hk⟩ := Nat.exists_eq_add_of_lt (Nat.lt_of_not_le hle)
    have hk' : (-d.scale).toNat = k + 1 := by omega
    rw [if_neg (by omega), hk', Nat.pow_eq]
    have hpow : 2 ^ finest = 2 ^ (k + 1) * 2 ^ p := by
      rw [← Nat.pow_add, hk]
      congr 1
      omega
    rw [hpow, ← Nat.mul_assoc, Nat.mul_left_inj (Nat.ne_of_gt (Nat.two_pow_pos p))]
    exact exact_quotient (Nat.two_pow_pos _)

/-! ### From integers to doubles -/

/-- The significand of the double nearest to a positive integer. Where rounding carries it is
`2 ^ 53`, one more than a significand can be. -/
def leading (n : Nat) : Nat :=
  if n.log2 ≤ 52 then n * 2 ^ (52 - n.log2) else roundShift n (n.log2 - 52)

/-- The natural number that the double nearest to `n` is equal to. -/
def rounded (n : Nat) : Nat :=
  if n.log2 ≤ 52 then n else leading n * 2 ^ (n.log2 - 52)

theorem le_roundShift (n k : Nat) : n / 2 ^ k ≤ roundShift n k := by
  simp only [roundShift, Nat.pow_eq]
  split <;> omega

theorem roundShift_le (n k : Nat) : roundShift n k ≤ n / 2 ^ k + 1 := by
  simp only [roundShift, Nat.pow_eq]
  split <;> omega

/-- Nothing is rounded where nothing is cut off. -/
theorem roundShift_mul (m k : Nat) : roundShift (m * 2 ^ k) k = m := by
  have hpos := Nat.two_pow_pos k
  simp only [roundShift, Nat.pow_eq, Nat.mul_mod_left, Nat.mul_div_cancel m hpos]
  rw [if_pos (Or.inl (by omega))]

theorem leading_bounds {n : Nat} (hn : n ≠ 0) :
    0x10000000000000 ≤ leading n ∧ leading n ≤ 0x20000000000000 := by
  have hle := Nat.log2_self_le hn
  have hlt := @Nat.lt_log2_self n
  rw [leading]
  generalize n.log2 = k at *
  split
  · -- The digits are shifted up to the top of the significand.
    rename_i hk
    have hpos := Nat.two_pow_pos (52 - k)
    have hlow := Nat.mul_le_mul_right (2 ^ (52 - k)) hle
    have hhigh := Nat.mul_lt_mul_of_pos_right hlt hpos
    have e1 : k + (52 - k) = 52 := by omega
    have e2 : k + 1 + (52 - k) = 53 := by omega
    rw [← Nat.pow_add, e1] at hlow
    rw [← Nat.pow_add, e2] at hhigh
    omega
  · -- The digits that do not fit are cut off, and rounding adds at most one.
    rename_i hk
    have e1 : k = 52 + (k - 52) := by omega
    have e2 : k + 1 = 53 + (k - 52) := by omega
    have hpos := Nat.two_pow_pos (k - 52)
    have hlow : 2 ^ 52 ≤ n / 2 ^ (k - 52) := by
      rw [Nat.le_div_iff_mul_le hpos, ← Nat.pow_add, ← e1]
      exact hle
    have hhigh : n / 2 ^ (k - 52) < 2 ^ 53 := by
      rw [Nat.div_lt_iff_lt_mul hpos, ← Nat.pow_add, ← e2]
      exact hlt
    have h1 := le_roundShift n (k - 52)
    have h2 := roundShift_le n (k - 52)
    omega

/-- The units of the double nearest to `n` are those of `rounded n`. -/
theorem leading_mul (n : Nat) : leading n * 2 ^ (n.log2 + 1022) = rounded n * 2 ^ finest := by
  have hfinest : finest = 1074 := rfl
  rw [rounded]
  split
  · rename_i hk
    have e : 52 - n.log2 + (n.log2 + 1022) = finest := by omega
    rw [leading, if_pos hk, Nat.mul_assoc, ← Nat.pow_add, e]
  · rename_i hk
    have e : n.log2 + 1022 = n.log2 - 52 + finest := by omega
    rw [e, Nat.pow_add, Nat.mul_assoc]

theorem bitsOfNat_eq {n : Nat} (hn : n ≠ 0) (hlog : n.log2 < 1024) :
    bitsOfNat n = (n.log2 + 1022) * 0x10000000000000 + leading n := by
  have hbounds := leading_bounds hn
  rw [bitsOfNat, if_neg hn]
  simp only [leading, Nat.pow_eq] at hbounds ⊢
  rw [Nat.min_eq_left]
  omega

theorem bitsOfNat_lt {n : Nat} (hlog : n.log2 < 1023) : bitsOfNat n < 2047 * 0x10000000000000 := by
  by_cases hn : n = 0
  · subst hn
    decide
  · have hbounds := leading_bounds hn
    rw [bitsOfNat_eq hn (by omega)]
    omega

/-- The double nearest to `n` has the units of `rounded n`. -/
theorem units_withSign {negative : Bool} {n : Nat} (hlog : n.log2 < 1023) :
    (withSign negative (bitsOfNat n)).units = rounded n * 2 ^ finest := by
  have hlt := bitsOfNat_lt hlog
  have hsize : bitsOfNat n < 0x8000000000000000 := by omega
  rw [units, significand, exponentField_withSign hsize, fraction_withSign hsize]
  by_cases hn : n = 0
  · subst hn
    have hzero : rounded 0 = 0 := by decide
    have hbits : bitsOfNat 0 = 0 := rfl
    rw [hzero, hbits, Nat.zero_mul, if_pos (Nat.zero_div _), Nat.zero_mod, Nat.zero_mul]
  · obtain ⟨hlow, hhigh⟩ := leading_bounds hn
    rw [← leading_mul, bitsOfNat_eq hn (by omega), if_neg (by omega)]
    by_cases hcarry : leading n = 0x20000000000000
    · -- The carry goes to the exponent, and the significand starts again.
      have hdiv : ((n.log2 + 1022) * 0x10000000000000 + leading n) / 0x10000000000000 =
        n.log2 + 1024 := by omega
      have hmod : ((n.log2 + 1022) * 0x10000000000000 + leading n) % 0x10000000000000 = 0 := by
        omega
      have hmax : max 1 (n.log2 + 1024) - 1 = n.log2 + 1022 + 1 := by omega
      rw [hdiv, hmod, hmax, hcarry, Nat.pow_succ']
      omega
    · have hdiv : ((n.log2 + 1022) * 0x10000000000000 + leading n) / 0x10000000000000 =
        n.log2 + 1023 := by omega
      have hmod : ((n.log2 + 1022) * 0x10000000000000 + leading n) % 0x10000000000000 =
        leading n - 0x10000000000000 := by omega
      have hmax : max 1 (n.log2 + 1023) - 1 = n.log2 + 1022 := by omega
      have hsig : 0x10000000000000 + (leading n - 0x10000000000000) = leading n := by omega
      rw [hdiv, hmod, hmax, hsig]

/-- The double nearest to an integer is equal to the rounded integer. -/
theorem toInt?_ofInt {n : Int} (hlog : n.natAbs.log2 < 1023) :
    (ofInt n).toInt? =
      some (if n < 0 then -(rounded n.natAbs : Int) else (rounded n.natAbs : Int)) := by
  have hlt := bitsOfNat_lt hlog
  have hsize : bitsOfNat n.natAbs < 0x8000000000000000 := by omega
  have hfinite : (withSign (n < 0) (bitsOfNat n.natAbs)).isFinite = true := by
    rw [isFinite, exponentField_withSign hsize, decide_eq_true_eq]
    omega
  have hmagnitude : (withSign (n < 0) (bitsOfNat n.natAbs)).magnitude? =
      some (rounded n.natAbs) :=
    magnitude?_eq_some.2 (units_withSign hlog).symm
  rw [ofInt_eq, toInt?, if_pos hfinite, hmagnitude, isNegative_withSign hsize]
  show some (if decide (n < 0) = true then _ else _) = _
  simp only [decide_eq_true_eq]

/-- Integers below `2 ^ 53` are doubles of their own. -/
theorem rounded_of_lt {n : Nat} (h : n < 2 ^ 53) : rounded n = n := by
  by_cases hn : n = 0
  · subst hn
    decide
  · have hlog : n.log2 < 53 := (Nat.log2_lt hn).2 h
    rw [rounded, if_pos (by omega)]

theorem toInt?_ofInt_of_lt {n : Int} (h : n.natAbs < 2 ^ 53) : (ofInt n).toInt? = some n := by
  have hlog : n.natAbs.log2 < 1023 := by
    by_cases hn : n.natAbs = 0
    · rw [hn]
      decide
    · have hlog := (Nat.log2_lt hn).2 h
      omega
  rw [toInt?_ofInt hlog, rounded_of_lt h, Option.some_inj]
  split <;> omega

/-- What is not below `2 ^ 53` is not rounded below it. -/
theorem le_rounded {n : Nat} (h : 2 ^ 53 ≤ n) : 2 ^ 53 ≤ rounded n := by
  have hn : n ≠ 0 := by omega
  have hlog : 53 ≤ n.log2 := (Nat.le_log2 hn).2 h
  obtain ⟨hlow, _⟩ := leading_bounds hn
  obtain ⟨k, hk⟩ := Nat.exists_eq_add_of_le hlog
  have e : n.log2 - 52 = k + 1 := by omega
  have hpos := Nat.two_pow_pos k
  rw [rounded, if_neg (by omega), e, Nat.pow_succ]
  calc 2 ^ 53 = 0x10000000000000 * (1 * 2) := by decide
    _ ≤ leading n * (2 ^ k * 2) := Nat.mul_le_mul hlow (Nat.mul_le_mul_right 2 hpos)

/-- A double below `2 ^ 53` that comes from an integer is equal to that integer. -/
theorem eq_of_toInt?_ofInt {n m : Int} (hlog : n.natAbs.log2 < 1023)
    (h : (ofInt n).toInt? = some m) (hm : m.natAbs < 2 ^ 53) : m = n := by
  rw [toInt?_ofInt hlog] at h
  have habs : m.natAbs = rounded n.natAbs := by
    rw [← Option.some_inj.1 h]
    split <;> omega
  have hlt : n.natAbs < 2 ^ 53 := by
    apply Nat.lt_of_not_le
    intro hle
    have hround := le_rounded hle
    omega
  rw [rounded_of_lt hlt] at h
  rw [← Option.some_inj.1 h]
  split <;> omega

/-! ### From doubles to integers -/

/-- A double is equal to an integer if it is finite and has the units of its magnitude. -/
theorem toInt?_eq_some {d : Double} {n : Int} :
    d.toInt? = some n ↔ d.isFinite = true ∧ ∃ a : Nat, a * 2 ^ finest = d.units ∧
      n = if d.isNegative then -(a : Int) else (a : Int) := by
  rw [toInt?]
  by_cases hf : d.isFinite = true
  · rw [if_pos hf]
    constructor
    · intro h
      cases hm : d.magnitude? with
      | none => rw [hm] at h; cases h
      | some a =>
        rw [hm] at h
        exact ⟨hf, a, magnitude?_eq_some.1 hm, (Option.some_inj.1 h).symm⟩
    · rintro ⟨_, a, ha, rfl⟩
      rw [magnitude?_eq_some.2 ha]
      rfl
  · rw [if_neg hf]
    constructor
    · intro h
      cases h
    · rintro ⟨h, _⟩
      exact absurd h hf

theorem eq_withSign (d : Double) :
    d = withSign d.isNegative (d.exponentField * 0x10000000000000 + d.fraction) := by
  have h : UInt64.ofNat d.bits.toNat = d.bits := UInt64.ofNat_toNat
  rw [toNat_bits] at h
  rw [withSign, h]

theorem log2_mul_two_pow {n : Nat} (hn : n ≠ 0) (k : Nat) : (n * 2 ^ k).log2 = n.log2 + k := by
  induction k with
  | zero => rw [Nat.pow_zero, Nat.mul_one, Nat.add_zero]
  | succ k ih =>
    have hne : n * 2 ^ k ≠ 0 := Nat.mul_ne_zero hn (Nat.ne_of_gt (Nat.two_pow_pos k))
    rw [Nat.pow_succ', Nat.mul_left_comm, Nat.log2_two_mul hne, ih, Nat.add_assoc]

/-- A number with the units of `m * 2 ^ p`, where `m` is a normal significand, has `m` as its leading
digits and fixes `p`. -/
theorem leading_of_units {a m p : Nat} (ha : a ≠ 0) (hlow : 0x10000000000000 ≤ m)
    (hhigh : m < 0x20000000000000) (h : a * 2 ^ finest = m * 2 ^ p) :
    p = a.log2 + 1022 ∧ leading a = m := by
  have hfinest : finest = 1074 := rfl
  have hm : m ≠ 0 := by omega
  have hlog : m.log2 = 52 := (Nat.log2_eq_iff hm).2 ⟨hlow, hhigh⟩
  -- Both sides have their top digit in the same place.
  have hp : p = a.log2 + 1022 := by
    have hlogs := congrArg Nat.log2 h
    rw [log2_mul_two_pow ha, log2_mul_two_pow hm, hlog] at hlogs
    omega
  refine ⟨hp, ?_⟩
  rw [hp] at h
  rw [leading]
  split
  · rename_i hk
    have e : 52 - a.log2 + (a.log2 + 1022) = finest := by omega
    rw [← e, Nat.pow_add, ← Nat.mul_assoc] at h
    exact Nat.eq_of_mul_eq_mul_right (Nat.two_pow_pos _) h
  · rename_i hk
    have e : a.log2 + 1022 = a.log2 - 52 + finest := by omega
    rw [e, Nat.pow_add, ← Nat.mul_assoc] at h
    have ha' : a = m * 2 ^ (a.log2 - 52) := Nat.eq_of_mul_eq_mul_right (Nat.two_pow_pos _) h
    have hround := roundShift_mul m (a.log2 - 52)
    rw [← ha'] at hround
    exact hround

/-- A double that is equal to a positive integer has the bits of the double nearest to it. -/
theorem bitsOfNat_of_units {d : Double} (hf : d.isFinite = true) {a : Nat} (ha : a ≠ 0)
    (h : a * 2 ^ finest = d.units) :
    bitsOfNat a = d.exponentField * 0x10000000000000 + d.fraction := by
  have hfrac := d.fraction_lt
  have hexp : d.exponentField < 2047 := by simpa [isFinite] using hf
  rw [units, significand] at h
  by_cases h0 : d.exponentField = 0
  · -- A fraction alone is less than one.
    rw [if_pos h0, h0, Nat.max_eq_left (by decide), Nat.sub_self, Nat.pow_zero, Nat.mul_one] at h
    have hone : 2 ^ 52 ≤ 2 ^ finest :=
      Nat.pow_le_pow_right (by decide : 0 < 2) (by decide : 52 ≤ finest)
    have hle : 1 * 2 ^ finest ≤ a * 2 ^ finest := Nat.mul_le_mul_right _ (Nat.pos_of_ne_zero ha)
    omega
  · rw [if_neg h0, Nat.max_eq_right (by omega)] at h
    obtain ⟨hp, hm⟩ := leading_of_units ha (by omega) (by omega) h
    rw [bitsOfNat_eq ha (by omega), hm]
    omega

/-- Without units a double is a zero. -/
theorem eq_withSign_zero {d : Double} (h : d.units = 0) : d = withSign d.isNegative 0 := by
  have hsig : d.significand = 0 :=
    (Nat.mul_eq_zero.1 h).resolve_right (Nat.ne_of_gt (Nat.two_pow_pos _))
  rw [significand] at hsig
  by_cases h0 : d.exponentField = 0
  · rw [if_pos h0] at hsig
    have heq := d.eq_withSign
    rw [h0, hsig] at heq
    exact heq
  · rw [if_neg h0] at hsig
    omega

/-- Minus zero is equal to zero. -/
theorem toInt?_negativeZero : negativeZero.toInt? = some 0 := by
  have hneg : negativeZero.isNegative = true := by decide
  have hsig : negativeZero.significand = 0 := by decide
  refine toInt?_eq_some.2 ⟨by decide, 0, ?_, ?_⟩
  · rw [units, hsig, Nat.zero_mul, Nat.zero_mul]
  · rw [hneg]
    rfl

/-- No other double than the nearest one is equal to an integer, minus zero apart. -/
theorem ofInt_of_toInt? {d : Double} {n : Int} (h : d.toInt? = some n) (hz : d ≠ negativeZero) :
    ofInt n = d := by
  obtain ⟨hf, a, ha, rfl⟩ := toInt?_eq_some.1 h
  by_cases h0 : a = 0
  · -- Only the sign is left to tell the zeros apart.
    subst h0
    rw [Nat.zero_mul] at ha
    have heq := eq_withSign_zero ha.symm
    cases hneg : d.isNegative with
    | true =>
      rw [hneg] at heq
      exact absurd heq hz
    | false =>
      rw [hneg] at heq
      exact heq.symm
  · have habs : (if d.isNegative then -(a : Int) else (a : Int)).natAbs = a := by
      cases d.isNegative <;> simp
    have hneg : decide ((if d.isNegative then -(a : Int) else (a : Int)) < 0) = d.isNegative := by
      cases d.isNegative with
      | false => simp
      | true => simpa using Nat.pos_of_ne_zero h0
    rw [ofInt_eq, habs, hneg, bitsOfNat_of_units hf h0 ha]
    exact d.eq_withSign.symm

end Parley.Double
