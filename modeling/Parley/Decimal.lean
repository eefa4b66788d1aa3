import Parley.Double

/-!
# The shortest decimal of a double

Among the decimals that read back as a given double, `Double.shortest` finds one with the fewest
digits, and of those the nearest. A decimal reads back when it lies between the midpoints to the
two neighbouring doubles, ends included exactly when the significand is even (`Double.readsBack`).

If some multiple of a power of ten lies in that interval, so does one of the double's own two
neighbours among the multiples: it is therefore enough to test those two, for one digit, for two
digits, and so on.
-/

namespace Parley

/-- The number `digits * 10 ^ exponent`. -/
structure Decimal where
  digits : Nat
  exponent : Int
deriving DecidableEq, Repr, Inhabited

/-- Which of two equally near decimals is taken. -/
inductive Tie where
  | toEven
  | awayFromZero
deriving DecidableEq, Repr

/-- Compares `a * 10 ^ i` with `n * 2 ^ j`. -/
def Decimal.compareScaled (a : Nat) (i : Int) (n : Nat) (j : Int) : Ordering :=
  compare (a * Nat.pow 10 i.toNat * Nat.pow 2 (-j).toNat)
    (n * Nat.pow 2 j.toNat * Nat.pow 10 (-i).toNat)

/-- Moves trailing zeros of the digits into the exponent; at most `fuel` of them. -/
def Decimal.strip : Nat → Decimal → Decimal
  | 0, c => c
  | fuel + 1, c =>
    if c.digits % 10 = 0 ∧ c.digits ≠ 0 then strip fuel ⟨c.digits / 10, c.exponent + 1⟩ else c

namespace Double

/-- The gap to the double below is half the gap to the double above: so it is at a power of two,
unless the number below has the same exponent. -/
def narrowBelow (d : Double) : Bool := d.fraction = 0 && 1 < d.exponentField

/-- The decimal lies among the reals that round to the magnitude of `d`. -/
def readsBack (d : Double) (c : Decimal) : Bool :=
  let m := d.significand
  let low := if d.narrowBelow then 4 * m - 1 else 4 * m - 2
  let closed := m % 2 = 0
  let atLow := Decimal.compareScaled c.digits c.exponent low (d.scale - 2)
  let atHigh := Decimal.compareScaled c.digits c.exponent (4 * m + 2) (d.scale - 2)
  (atLow == .gt || closed && atLow == .eq) && (atHigh == .lt || closed && atHigh == .eq)

/-- The least `k` with the magnitude of `d` below `10 ^ k`. The binary logarithm gives it up to
one or two. -/
def decimalTop (d : Double) : Int :=
  let estimate := ((d.significand.log2 : Int) + d.scale) * 30103 / 100000
  [estimate - 1, estimate, estimate + 1].find?
      (fun k => Decimal.compareScaled 1 k d.significand d.scale == .gt)
    |>.getD (estimate + 2)

/-- The nearer of `c` and the next decimal on the same grid. -/
def nearer (tie : Tie) (d : Double) (c : Decimal) : Decimal :=
  let next : Decimal := ⟨c.digits + 1, c.exponent⟩
  match Decimal.compareScaled (2 * c.digits + 1) c.exponent (2 * d.significand) d.scale with
  | .gt => c
  | .lt => next
  | .eq =>
    match tie with
    | .toEven => if c.digits % 2 = 0 then c else next
    | .awayFromZero => next

/-- A decimal of at most `count` digits that reads back, if there is one. -/
def candidate (tie : Tie) (d : Double) (top : Int) (count : Nat) : Option Decimal :=
  let i := top - count
  let below : Decimal :=
    ⟨d.significand * Nat.pow 2 d.scale.toNat * Nat.pow 10 (-i).toNat
      / (Nat.pow 2 (-d.scale).toNat * Nat.pow 10 i.toNat), i⟩
  let above : Decimal := ⟨below.digits + 1, i⟩
  match d.readsBack below, d.readsBack above with
  | true, true => some (nearer tie d below)
  | true, false => some below
  | false, true => some above
  | false, false => none

/-- The exact decimal of a finite double's magnitude. -/
def exactDecimal (d : Double) : Decimal :=
  if 0 ≤ d.scale then ⟨d.significand * Nat.pow 2 d.scale.toNat, 0⟩
  else ⟨d.significand * Nat.pow 5 (-d.scale).toNat, d.scale⟩

/-- The shortest decimal that reads back as the magnitude of a finite double, without trailing
zeros. Seventeen digits always suffice. -/
def shortest (tie : Tie) (d : Double) : Decimal :=
  if d.significand = 0 then ⟨0, 0⟩
  else
    let top := d.decimalTop
    let found := (List.range 17).findSome? fun n => candidate tie d top (n + 1)
    Decimal.strip 1100 (found.getD d.exactDecimal)

end Double

end Parley
