import Parley.Json
import Parley.Json.Fault

/-!
# Numbers in JSON texts

A number without a fraction and without an exponent is an integer, every other one and minus zero a
double. Only as many digits count as fit into sixty-four bits; a double is then reached by one
multiplication with a power of ten or one division by it, each of the three rounded. The result can
differ from the nearest double in the last place.
-/

namespace Parley.Json

/-! ### Digits -/

/-- Puts decimal digits behind a number as long as it does not pass a limit. Gives the number and
how many digits were put there. -/
def appendDigits (limit n : Nat) : List Char → Nat × Nat
  | [] => (n, 0)
  | c :: cs =>
    let longer := 10 * n + (c.toNat - '0'.toNat)
    if longer ≤ limit then
      let (n, count) := appendDigits limit longer cs
      (n, count + 1)
    else (n, 0)

/-- The greatest number that is kept digit for digit. -/
def maxDigits : Nat := 0xffffffffffffffff

/-- The greatest exponent. -/
def maxExponent : Nat := 0x7fffffff

/-! ### Doubles -/

/-- The power of ten as a double. -/
def tenTo (k : Nat) : Double := Double.ofDecimal false 1 k

/-- The magnitude `digits * 10 ^ exponent` as a double, by rounded steps; none if it is too large.
Where the power of ten is out of range it is divided by the largest one first; doing so twice is
enough to come down to zero. -/
def magnitude? (digits : Nat) (exponent : Int) : Option Double :=
  go 3 (.ofInt digits) exponent
where
  go : Nat → Double → Int → Option Double
    | 0, d, _ => some d
    | fuel + 1, d, e =>
      if e.natAbs ≤ 308 then
        if 0 ≤ e then
          let product := d.times (tenTo e.toNat)
          if product.isFinite then some product else none
        else some (d.dividedBy (tenTo e.natAbs))
      else if d.isZero then some d
      else if 0 ≤ e then none
      else go fuel (d.dividedBy (tenTo 308)) (e + 308)

/-- A double with its sign. -/
def signed (negative : Bool) (d : Double) : Json :=
  double (if negative then ⟨d.bits + Double.negativeZero.bits⟩ else d)

/-! ### Reading -/

/-- Reads the exponent after its letter. One that grows too large puts the number out of range,
unless the number is zero or the exponent is negative; then the greatest exponent stands for it. -/
def readExponent (digits : Nat) (cs : List Char) : Except Fault (Int × List Char) := do
  let (negative, cs) := match cs with
    | '-' :: cs => (true, cs)
    | '+' :: cs => (false, cs)
    | cs => (false, cs)
  let ds := cs.takeWhile Char.isDigit
  let (n, count) := appendDigits maxExponent 0 ds
  if ds = [] then
    .error (if cs = [] then .before .endInValue [] else .at .invalidNumber cs)
  else if count < ds.length ∧ digits ≠ 0 ∧ !negative then
    .error (.before .numberOutOfRange (cs.drop (count + 1)))
  else
    let n : Int := if count < ds.length then maxExponent else n
    return (if negative then -n else n, cs.drop ds.length)

/-- Reads what follows the digits of a double, whose point has been moved so far: an exponent, if
there is one. -/
def finishDouble (negative : Bool) (digits : Nat) (moved : Int) (cs : List Char) :
    Except Fault (Json × List Char) := do
  let (exponent, cs) ← match cs with
    | 'e' :: cs | 'E' :: cs => readExponent digits cs
    | cs => .ok (0, cs)
  match magnitude? digits (moved + exponent) with
  | some d => return (signed negative d, cs)
  | none => .error (.before .numberOutOfRange cs)

/-- Reads a number after its sign. -/
def readNumber (negative : Bool) (cs : List Char) : Except Fault (Json × List Char) := do
  let whole := cs.takeWhile Char.isDigit
  let rest := cs.drop whole.length
  if whole = [] then
    .error (if cs = [] then .before .endInValue [] else .at .invalidNumber cs)
  else if whole.head? = some '0' ∧ whole.length ≠ 1 then .error (.at .invalidNumber (cs.drop 1))
  else
    let (n, count) := appendDigits maxDigits 0 whole
    let surplus : Int := whole.length - count
    match rest with
    | '.' :: rest =>
      let fraction := rest.takeWhile Char.isDigit
      if fraction = [] then
        .error (if rest = [] then .before .endInValue [] else .at .invalidNumber rest)
      else
        let (n, count) := appendDigits maxDigits n fraction
        finishDouble negative n (surplus - count) (rest.drop fraction.length)
    | 'e' :: _ | 'E' :: _ => finishDouble negative n surplus rest
    | rest =>
      if surplus ≠ 0 then finishDouble negative n surplus rest
      else if negative ∧ n = 0 then return (double .negativeZero, rest)
      else return (int (if negative then -(n : Int) else n), rest)

end Parley.Json
