/-!
# Doubles

A 64-bit binary floating-point number, kept as its bits so that every number, both zeros and every
not-a-number included, is told apart by `=`. Its meaning is exact integer arithmetic: a finite
double is a sign, a significand and a power of two (`significand`, `scale`).

* `Double.toInt?` reads off the integer a double is equal to, if there is one.
* `Double.ofInt` rounds an integer to the nearest double, a half going to the even neighbour.
* `Double.same` is numeric equality: zeros are equal, a not-a-number equals nothing.
-/

namespace Parley

/-- A binary64 number, given by its bits: one for the sign, eleven for the exponent, fifty-two for
the fraction. -/
structure Double where
  bits : UInt64
deriving DecidableEq, Repr, Inhabited

namespace Double

/-! ### Fields -/

/-- The sign bit is set. -/
def isNegative (d : Double) : Bool := 0x8000000000000000 ≤ d.bits.toNat

/-- The eleven exponent bits. -/
def exponentField (d : Double) : Nat := d.bits.toNat / 0x10000000000000 % 0x800

/-- The fifty-two fraction bits. -/
def fraction (d : Double) : Nat := d.bits.toNat % 0x10000000000000

/-- An exponent field of ones is kept for the infinities and the not-a-numbers. -/
def isFinite (d : Double) : Bool := d.exponentField < 2047

/-- Neither finite nor an infinity. -/
def isNaN (d : Double) : Bool := !d.isFinite && d.fraction ≠ 0

/-- The significand of a finite double: normal numbers have a hidden leading one. -/
def significand (d : Double) : Nat :=
  if d.exponentField = 0 then d.fraction else 0x10000000000000 + d.fraction

/-- The power of two that a finite double's significand is multiplied by. -/
def scale (d : Double) : Int :=
  (max 1 d.exponentField : Nat) - 1075

/-- The bits of minus zero. -/
def negativeZero : Double := ⟨0x8000000000000000⟩

/-- Either of the two zeros. -/
def isZero (d : Double) : Bool := d.bits.toNat % 0x8000000000000000 = 0

/-- Numeric equality. It differs from `=` in two ways: the zeros are equal, and a not-a-number is
equal to nothing. -/
def same (a b : Double) : Bool :=
  !a.isNaN && !b.isNaN && (a == b || a.isZero && b.isZero)

/-! ### Integers -/

/-- The natural number `significand * 2 ^ scale`, if it is one. -/
def magnitude? (d : Double) : Option Nat :=
  if 0 ≤ d.scale then some (d.significand * Nat.pow 2 d.scale.toNat)
  else
    let unit := Nat.pow 2 (-d.scale).toNat
    if d.significand % unit = 0 then some (d.significand / unit) else none

/-- The integer that a double is exactly equal to. Infinities, not-a-numbers and doubles with a
fractional part equal none; minus zero equals zero. -/
def toInt? (d : Double) : Option Int :=
  if d.isFinite then
    d.magnitude?.map fun n => if d.isNegative then -(n : Int) else n
  else none

/-- `n / 2 ^ k` to the nearest natural number, a half to the even one. -/
def roundShift (n k : Nat) : Nat :=
  let unit := Nat.pow 2 k
  let q := n / unit
  let twice := 2 * (n % unit)
  if twice < unit ∨ (twice = unit ∧ q % 2 = 0) then q else q + 1

/-- The bits of the double nearest to a natural number. The rounded significand is added to the
exponent field, its hidden leading one included, so that a carry out of the significand moves to
the next exponent by itself; past the largest finite double there is infinity. -/
def bitsOfNat (n : Nat) : Nat :=
  if n = 0 then 0
  else
    let k := n.log2
    let m := if k ≤ 52 then n * Nat.pow 2 (52 - k) else roundShift n (k - 52)
    min ((k + 1022) * 0x10000000000000 + m) (2047 * 0x10000000000000)

/-- The double nearest to an integer, ties to even. The integer zero is plus zero. -/
def ofInt (n : Int) : Double :=
  ⟨UInt64.ofNat (bitsOfNat n.natAbs + if n < 0 then 0x8000000000000000 else 0)⟩

/-! ### Reading a decimal -/

/-- `num / den` to the nearest natural number, a half to the even one. -/
def roundQuotient (num den : Nat) : Nat :=
  let q := num / den
  let twice := 2 * (num % den)
  if twice < den ∨ (twice = den ∧ q % 2 = 0) then q else q + 1

/-- The bits of the double nearest to `num / den`. The unit in the last place is `2 ^ u`, chosen so
that the quotient by it has fifty-three bits, but never below the least unit `2 ^ (-1074)`. -/
def bitsOfRatio (num den : Nat) : Nat :=
  if num = 0 then 0
  else
    let estimate : Int := (num.log2 : Int) - den.log2
    let top : Int :=
      if num * Nat.pow 2 (-estimate).toNat < den * Nat.pow 2 estimate.toNat then estimate - 1
      else estimate
    let u : Int := max (top - 52) (-1074)
    let m := roundQuotient (num * Nat.pow 2 (-u).toNat) (den * Nat.pow 2 u.toNat)
    min ((u + 1074).toNat * 0x10000000000000 + m) (2047 * 0x10000000000000)

/-- The double nearest to `± digits * 10 ^ exponent`, ties to even. An exponent that leads far out
of the range of doubles is drawn nearer to it, where the answer is the same. -/
def ofDecimal (negative : Bool) (digits : Nat) (exponent : Int) : Double :=
  let size := bitsOfRatio (digits * Nat.pow 10 (min exponent.toNat 400))
    (Nat.pow 10 (min (-exponent).toNat (400 + digits.log2)))
  ⟨UInt64.ofNat (size + if negative then 0x8000000000000000 else 0)⟩

/-! ### Products and quotients -/

/-- The magnitude of a finite double as a quotient. -/
def ratio (d : Double) : Nat × Nat :=
  (d.significand * Nat.pow 2 d.scale.toNat, Nat.pow 2 (-d.scale).toNat)

/-- The double nearest to the product of two finite magnitudes. -/
def times (a b : Double) : Double :=
  ⟨UInt64.ofNat (bitsOfRatio (a.ratio.1 * b.ratio.1) (a.ratio.2 * b.ratio.2))⟩

/-- The double nearest to the quotient of two finite magnitudes. -/
def dividedBy (a b : Double) : Double :=
  ⟨UInt64.ofNat (bitsOfRatio (a.ratio.1 * b.ratio.2) (a.ratio.2 * b.ratio.1))⟩

end Double

end Parley
