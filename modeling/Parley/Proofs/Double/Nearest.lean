import Mathlib.Algebra.Order.Field.Basic
import Mathlib.Data.Rat.Cast.Order
import Mathlib.Tactic.Linarith
import Mathlib.Tactic.NormNum
import Mathlib.Tactic.Positivity
import Mathlib.Tactic.Ring
import Parley.Proofs.Double

/-!
# The numbers that doubles stand for

A finite double stands for a rational number, its significand times its power of two, with its sign
(`Double.toRat`).

* `toInt?` finds the integer that this number is, if it is one (`toInt?_eq_some_iff`).
* `ofInt` rounds to nearest: no finite double is nearer to the integer, and of two that are equally
  near it takes the one whose significand is even (`rounds_ofInt`).

Around an integer with more digits than a significand holds, the doubles stand on the multiples of a
power of two (`abs_toRat_le_or_le`), which is where nearness is decided.
-/

namespace Parley.Double

/-- The number that a finite double stands for. -/
def toRat (d : Double) : ℚ := (if d.isNegative then -1 else 1) * d.significand * 2 ^ d.scale

/-! ### Magnitudes -/

theorem abs_toRat_mul (d : Double) : |d.toRat| * 2 ^ finest = (d.units : ℚ) := by
  have hscale : d.scale = ((max 1 d.exponentField - 1 : Nat) : Int) - (finest : Nat) := by
    have hfinest : finest = 1074 := rfl
    rw [scale]
    omega
  have hsign : |if d.isNegative then (-1 : ℚ) else 1| = 1 := by
    split <;> simp
  have hpow : (2 : ℚ) ^ d.scale * 2 ^ finest = 2 ^ (max 1 d.exponentField - 1) := by
    rw [hscale, zpow_sub₀ two_ne_zero, zpow_natCast, zpow_natCast,
      div_mul_cancel₀ _ (pow_ne_zero _ two_ne_zero)]
  have hpos : (0 : ℚ) < 2 ^ d.scale := zpow_pos two_pos _
  rw [toRat, abs_mul, abs_mul, hsign, one_mul, Nat.abs_cast, abs_of_pos hpos, mul_assoc, hpow,
    units]
  push_cast
  rfl

theorem toRat_eq (d : Double) : d.toRat = if d.isNegative then -|d.toRat| else |d.toRat| := by
  have hpos : (0 : ℚ) < 2 ^ d.scale := zpow_pos two_pos _
  have hmag : (0 : ℚ) ≤ d.significand * 2 ^ d.scale := by positivity
  rw [toRat]
  cases d.isNegative with
  | true =>
    rw [if_pos rfl, if_pos rfl, neg_one_mul, neg_mul, abs_neg, abs_of_nonneg hmag]
  | false =>
    rw [if_neg Bool.false_ne_true, if_neg Bool.false_ne_true, one_mul, abs_of_nonneg hmag]

/-- The magnitude is the natural number that has as many units. -/
theorem abs_toRat_eq_iff {d : Double} {a : Nat} : |d.toRat| = a ↔ a * 2 ^ finest = d.units := by
  have hpos : (0 : ℚ) < 2 ^ finest := by positivity
  rw [← mul_left_inj' hpos.ne', abs_toRat_mul, eq_comm, ← Nat.cast_inj (R := ℚ)]
  push_cast
  rfl

/-- The double is exactly the integer: it is finite, and the number that it stands for is the
integer. -/
def StandsFor (d : Double) (n : Int) : Prop := d.isFinite = true ∧ d.toRat = n

theorem toInt?_eq_some_iff {d : Double} {n : Int} : d.toInt? = some n ↔ d.StandsFor n := by
  rw [toInt?_eq_some, StandsFor]
  apply and_congr_right
  intro _
  constructor
  · rintro ⟨a, ha, rfl⟩
    rw [toRat_eq, abs_toRat_eq_iff.2 ha]
    cases d.isNegative <;> simp
  · intro hn
    have habs : |d.toRat| = (n.natAbs : ℚ) := by
      rw [hn, Nat.cast_natAbs, Int.cast_abs]
    have hsign := d.toRat_eq
    rw [habs, hn] at hsign
    refine ⟨n.natAbs, abs_toRat_eq_iff.1 habs, ?_⟩
    rw [← Int.cast_inj (α := ℚ), hsign]
    cases d.isNegative <;> simp

theorem StandsFor.unique {d : Double} {n m : Int} (hn : d.StandsFor n) (hm : d.StandsFor m) :
    n = m := by
  apply Int.cast_injective (α := ℚ)
  rw [← hn.2, ← hm.2]

theorem standsFor_negativeZero : negativeZero.StandsFor 0 :=
  toInt?_eq_some_iff.1 toInt?_negativeZero

/-! ### The doubles around an integer -/

theorem significand_lt (d : Double) : d.significand < 2 ^ 53 := by
  have h := d.fraction_lt
  rw [significand]
  split <;> omega

/-- The units of a double are a multiple of a power of two, or fewer than a significand at this
power has. -/
theorem dvd_units_or_lt (d : Double) (p : Nat) : 2 ^ p ∣ d.units ∨ d.units < 2 ^ (52 + p) := by
  rw [units]
  generalize max 1 d.exponentField - 1 = e
  rcases Nat.lt_or_ge e p with h | h
  · right
    calc d.significand * 2 ^ e < 2 ^ 53 * 2 ^ e :=
        Nat.mul_lt_mul_of_pos_right d.significand_lt (Nat.two_pow_pos e)
      _ = 2 ^ (53 + e) := (Nat.pow_add 2 53 e).symm
      _ ≤ 2 ^ (52 + p) := Nat.pow_le_pow_right (by decide) (by omega)
  · left
    exact Dvd.dvd.mul_left (Nat.pow_dvd_pow 2 h) _

/-- Between two neighbouring multiples of the last digit that the significand of an integer keeps,
there are no units of a double. -/
theorem units_le_or_le (d : Double) {n u : Nat} (hn : 52 ≤ n.log2) (hu : u = 2 ^ (n.log2 - 52)) :
    d.units ≤ n / u * u * 2 ^ finest ∨ (n / u + 1) * u * 2 ^ finest ≤ d.units := by
  have hdigits : 2 ^ 52 ≤ n / u := by
    have hne : n ≠ 0 := by
      rintro rfl
      exact absurd hn (by decide)
    have e : 52 + (n.log2 - 52) = n.log2 := by omega
    rw [hu, Nat.le_div_iff_mul_le (Nat.two_pow_pos _), ← Nat.pow_add, e]
    exact Nat.log2_self_le hne
  have hunit : 2 ^ (n.log2 - 52 + finest) = u * 2 ^ finest := by
    rw [Nat.pow_add, hu]
  rcases d.dvd_units_or_lt (n.log2 - 52 + finest) with ⟨j, hj⟩ | hlt
  · rw [hunit, Nat.mul_comm, ← Nat.mul_assoc] at hj
    rw [hj]
    rcases Nat.lt_or_ge (n / u) j with h | h
    · right
      exact Nat.mul_le_mul_right _ (Nat.mul_le_mul_right u h)
    · left
      exact Nat.mul_le_mul_right _ (Nat.mul_le_mul_right u h)
  · left
    rw [Nat.pow_add, hunit, ← Nat.mul_assoc] at hlt
    exact hlt.le.trans (Nat.mul_le_mul_right _ (Nat.mul_le_mul_right u hdigits))

/-- No double stands between these multiples. -/
theorem abs_toRat_le_or_le (d : Double) {n u : Nat} (hn : 52 ≤ n.log2)
    (hu : u = 2 ^ (n.log2 - 52)) :
    |d.toRat| ≤ (n / u * u : Nat) ∨ ((n / u + 1) * u : Nat) ≤ |d.toRat| := by
  have hpos : (0 : ℚ) < 2 ^ finest := by positivity
  have hcast (m : Nat) : (m : ℚ) * 2 ^ finest = ((m * 2 ^ finest : Nat) : ℚ) := by
    rw [Nat.cast_mul, Nat.cast_pow, Nat.cast_ofNat]
  apply (d.units_le_or_le hn hu).imp
  · intro h
    rw [← mul_le_mul_iff_left₀ hpos, abs_toRat_mul, hcast]
    exact Nat.cast_le.2 h
  · intro h
    rw [← mul_le_mul_iff_left₀ hpos, abs_toRat_mul, hcast]
    exact Nat.cast_le.2 h

/-- A shift rounds down or up, to the nearer side. -/
theorem roundShift_cases (n k : Nat) :
    (roundShift n k = n / 2 ^ k ∧ 2 * (n % 2 ^ k) ≤ 2 ^ k) ∨
      (roundShift n k = n / 2 ^ k + 1 ∧ 2 ^ k ≤ 2 * (n % 2 ^ k)) := by
  simp only [roundShift, Nat.pow_eq]
  split <;> omega

/-- From half way a shift rounds to the even side. -/
theorem roundShift_even {n k : Nat} (h : 2 * (n % 2 ^ k) = 2 ^ k) : roundShift n k % 2 = 0 := by
  simp only [roundShift, Nat.pow_eq]
  split <;> omega

theorem leading_eq_roundShift {n : Nat} (hlog : 52 ≤ n.log2) :
    leading n = roundShift n (n.log2 - 52) := by
  rw [leading]
  split
  · have h : n.log2 = 52 := by omega
    have hround := roundShift_mul n 0
    rw [Nat.pow_zero, Nat.mul_one] at hround
    rw [h, Nat.sub_self, Nat.pow_zero, Nat.mul_one, hround]
  · rfl

/-- Of all that is not strictly between `a` and `b`, the nearer of the two is nearest to what is
between them; something else is equally near only to the middle. -/
theorem nearest_end {a b c n x : ℚ} (ha : a ≤ n) (hb : n ≤ b)
    (hc : (c = a ∧ n - a ≤ b - n) ∨ (c = b ∧ b - n ≤ n - a)) (hx : x ≤ a ∨ b ≤ x) :
    |c - n| ≤ |x - n| ∧ (|c - n| = |x - n| → x ≠ c → n - a = b - n) := by
  have hdist : (x ≤ a ∧ |x - n| = n - x) ∨ (b ≤ x ∧ |x - n| = x - n) := by
    apply hx.imp
    · intro h
      exact ⟨h, by rw [abs_of_nonpos (by linarith), neg_sub]⟩
    · intro h
      exact ⟨h, abs_of_nonneg (by linarith)⟩
  rcases hc with ⟨rfl, hhalf⟩ | ⟨rfl, hhalf⟩
  · rw [abs_of_nonpos (sub_nonpos.2 ha)]
    rcases hdist with ⟨h, hd⟩ | ⟨h, hd⟩ <;> rw [hd]
    · exact ⟨by linarith, fun he hne => absurd (by linarith) hne⟩
    · exact ⟨by linarith, fun he _ => by linarith⟩
  · rw [abs_of_nonneg (sub_nonneg.2 hb)]
    rcases hdist with ⟨h, hd⟩ | ⟨h, hd⟩ <;> rw [hd]
    · exact ⟨by linarith, fun he _ => by linarith⟩
    · exact ⟨by linarith, fun he hne => absurd (by linarith) hne⟩

/-- No double is nearer to a natural number than the rounded one. If one is equally near, the
rounded one is even. -/
theorem abs_rounded_sub_le (d : Double) (n : Nat) :
    |(rounded n : ℚ) - n| ≤ |(|d.toRat|) - n| ∧
      (|(rounded n : ℚ) - n| = |(|d.toRat|) - n| → |d.toRat| ≠ rounded n → leading n % 2 = 0) := by
  rw [rounded]
  split
  · -- nothing is cut off, so that the distance is zero
    rw [sub_self, abs_zero]
    refine ⟨abs_nonneg _, ?_⟩
    intro h hne
    exact absurd (sub_eq_zero.1 (abs_eq_zero.1 h.symm)) hne
  · rename_i hlog
    have hlog : 52 ≤ n.log2 := by omega
    have hgrid := d.abs_toRat_le_or_le hlog rfl
    have hround := roundShift_cases n (n.log2 - 52)
    have heven := @roundShift_even n (n.log2 - 52)
    have hsplit := Nat.div_add_mod' n (2 ^ (n.log2 - 52))
    have hr := Nat.mod_lt n (Nat.two_pow_pos (n.log2 - 52))
    rw [leading_eq_roundShift hlog]
    generalize roundShift n (n.log2 - 52) = m at *
    generalize 2 ^ (n.log2 - 52) = u at *
    generalize n / u = q at *
    generalize n % u = r at *
    -- `q * u` and `(q + 1) * u` are the neighbours
    have hn : (n : ℚ) = q * u + r := by exact_mod_cast hsplit.symm
    have hr : (r : ℚ) < u := by exact_mod_cast hr
    push_cast at hgrid ⊢
    have hnearer : (m * u : ℚ) = q * u ∧ (n : ℚ) - q * u ≤ (q + 1) * u - n ∨
        (m * u : ℚ) = (q + 1) * u ∧ (q + 1) * u - (n : ℚ) ≤ n - q * u := by
      apply hround.imp
      · rintro ⟨rfl, hhalf⟩
        have hhalf : 2 * (r : ℚ) ≤ u := by exact_mod_cast hhalf
        exact ⟨rfl, by linarith⟩
      · rintro ⟨rfl, hhalf⟩
        have hhalf : (u : ℚ) ≤ 2 * r := by exact_mod_cast hhalf
        exact ⟨by push_cast; rfl, by linarith⟩
    obtain ⟨hle, hmiddle⟩ := nearest_end (by linarith [Nat.cast_nonneg (α := ℚ) r]) (by linarith)
      hnearer hgrid
    refine ⟨hle, ?_⟩
    intro h hne
    have htwice : 2 * (r : ℚ) = u := by linarith [hmiddle h hne]
    exact heven (by exact_mod_cast htwice)

/-! ### The nearest double -/

/-- The last digit of the significand is the last digit of the bits. -/
theorem significand_mod_two {negative : Bool} {size : Nat} (h : size < 0x8000000000000000) :
    (withSign negative size).significand % 2 = size % 2 := by
  rw [significand, fraction_withSign h]
  split <;> omega

/-- An even number of leading digits makes an even significand. -/
theorem significand_even {negative : Bool} {n : Nat} (hlog : n.log2 < 1023)
    (h : leading n % 2 = 0) : (withSign negative (bitsOfNat n)).significand % 2 = 0 := by
  have hlt := bitsOfNat_lt hlog
  rw [significand_mod_two (by omega)]
  by_cases hn : n = 0
  · subst hn
    rfl
  · rw [bitsOfNat_eq hn (by omega)]
    omega

theorem intCast_eq (n : Int) :
    (n : ℚ) = if n < 0 then -(n.natAbs : ℚ) else (n.natAbs : ℚ) := by
  have h : n = if n < 0 then -(n.natAbs : Int) else (n.natAbs : Int) := by
    split <;> omega
  conv_lhs => rw [h]
  split <;> simp

/-- The double nearest to an integer is finite and stands for the rounded integer. -/
theorem toRat_ofInt {n : Int} (hlog : n.natAbs.log2 < 1023) :
    (ofInt n).isFinite = true ∧
      (ofInt n).toRat = if n < 0 then -(rounded n.natAbs : ℚ) else rounded n.natAbs := by
  obtain ⟨hfinite, hrat⟩ := toInt?_eq_some_iff.1 (toInt?_ofInt hlog)
  refine ⟨hfinite, ?_⟩
  rw [hrat]
  split <;> simp

/-- Rounding keeps the sign, so that the distance is the one of the magnitudes. -/
theorem abs_toRat_ofInt_sub {n : Int} (hlog : n.natAbs.log2 < 1023) :
    |(ofInt n).toRat - n| = |(rounded n.natAbs : ℚ) - n.natAbs| := by
  rw [(toRat_ofInt hlog).2, intCast_eq n]
  split
  · rw [neg_sub_neg, abs_sub_comm]
  · rfl

theorem eq_zero_of_rounded {n : Nat} (h : rounded n = 0) : n = 0 := by
  rcases Nat.lt_or_ge n (2 ^ 53) with hlt | hle
  · rw [rounded_of_lt hlt] at h
    exact h
  · have hround := le_rounded hle
    omega

/-- Two numbers of one magnitude are equally far only from zero. -/
theorem eq_zero_of_abs_neg_sub {a q : ℚ} (h : |a - q| = |-a - q|) : a = 0 ∨ q = 0 := by
  rcases abs_eq_abs.1 h with h | h
  · left
    linarith
  · right
    linarith

/-- A double rounds a number to nearest, ties to even: it is finite, no finite double is nearer, and
if another one is equally near, then its significand is even. -/
structure Rounds (d : Double) (q : ℚ) : Prop where
  finite : d.isFinite = true
  nearest : ∀ e : Double, e.isFinite = true → |d.toRat - q| ≤ |e.toRat - q|
  even : ∀ e : Double, e.isFinite = true → |d.toRat - q| = |e.toRat - q| → e.toRat ≠ d.toRat →
    d.significand % 2 = 0

/-- The double of an integer rounds it to nearest, ties to even. -/
theorem rounds_ofInt {n : Int} (hlog : n.natAbs.log2 < 1023) : (ofInt n).Rounds n := by
  obtain ⟨hfinite, hrat⟩ := toRat_ofInt hlog
  have hdist := abs_toRat_ofInt_sub hlog
  have hnatAbs : (n.natAbs : ℚ) = |(n : ℚ)| := by
    rw [Nat.cast_natAbs, Int.cast_abs]
  -- taking the signs off brings numbers no further apart
  have hsigns : ∀ e : Double, |(|e.toRat|) - n.natAbs| ≤ |e.toRat - n| := by
    intro e
    rw [hnatAbs]
    exact abs_abs_sub_abs_le_abs_sub _ _
  refine ⟨hfinite, ?_, ?_⟩
  · intro e _
    rw [hdist]
    exact (e.abs_rounded_sub_le n.natAbs).1.trans (hsigns e)
  · intro e _ heq hne
    obtain ⟨hle, heven⟩ := e.abs_rounded_sub_le n.natAbs
    rw [ofInt_eq]
    apply significand_even hlog
    by_cases hmag : |e.toRat| = rounded n.natAbs
    · -- the other one has the opposite sign, and that is equally near only where all is zero
      have hopposite : e.toRat = -(ofInt n).toRat := by
        have habs : |e.toRat| = |(ofInt n).toRat| := by
          rw [hmag, hrat]
          split <;> simp
        exact (abs_eq_abs.1 habs).resolve_left hne
      rw [hopposite] at heq
      have hzero : n.natAbs = 0 := by
        rcases eq_zero_of_abs_neg_sub heq with h | h
        · rw [hopposite, h, neg_zero, abs_zero] at hmag
          exact eq_zero_of_rounded (by exact_mod_cast hmag.symm)
        · exact Int.natAbs_eq_zero.2 (by exact_mod_cast h)
      rw [hzero]
      rfl
    · apply heven _ hmag
      apply le_antisymm hle
      rw [← hdist, heq]
      exact hsigns e

end Parley.Double
