import Parley.Decimal

/-!
# Writing doubles

A `Layout` holds the decisions that turn a double's shortest decimal into text: where positional
notation ends, whether a whole number shows a decimal point, and which way a tie between two equally
near decimals goes. Two layouts are used: `Layout.message` inside error messages and `Layout.json`
in JSON text.
-/

namespace Parley

/-- How numbers are written. -/
structure Layout where
  /-- Least power of ten of the leading digit that is still written positionally. -/
  positionalFrom : Option Int
  /-- First power of ten of the leading digit that is no longer written positionally. -/
  positionalBelow : Option Int
  /-- What a whole number in positional notation ends with. -/
  wholeMark : String
  /-- The choice between two equally near decimals. -/
  tie : Tie
deriving Repr

namespace Layout

/-- Numbers in messages are always positional, and a whole number shows no decimal point. -/
def message : Layout := ⟨none, none, "", .awayFromZero⟩

/-- Numbers in JSON are positional from `0.00001` up to below `10 ^ 16`, and a whole number still
shows a decimal point. -/
def json : Layout := ⟨some (-5), some 16, ".0", .toEven⟩

/-- The digits `ds` of a decimal whose first digit stands for `10 ^ lead`, positionally. -/
def positional (l : Layout) (ds : List Char) (lead : Int) : List Char :=
  if lead < 0 then
    '0' :: '.' :: List.replicate (-lead - 1).toNat '0' ++ ds
  else
    let whole := lead.toNat + 1
    if ds.length ≤ whole then
      ds ++ List.replicate (whole - ds.length) '0' ++ l.wholeMark.toList
    else ds.take whole ++ '.' :: ds.drop whole

/-- The digits of a decimal with an exponent, which always shows its sign. -/
def scientific (ds : List Char) (lead : Int) : List Char :=
  let fraction := match ds with
    | d :: e :: rest => d :: '.' :: e :: rest
    | short => short
  fraction ++ 'e' :: (if lead < 0 then '-' else '+') :: Nat.toDigits 10 lead.natAbs

/-- The text of a finite double without its sign. -/
def magnitude (l : Layout) (d : Double) : List Char :=
  let c := d.shortest l.tie
  let ds := Nat.toDigits 10 c.digits
  let lead := if c.digits = 0 then 0 else c.exponent + ds.length - 1
  if l.positionalFrom.all (· ≤ lead) && l.positionalBelow.all (lead < ·) then l.positional ds lead
  else scientific ds lead

/-- The text of a double; the infinities and the not-a-numbers have names. -/
def write (l : Layout) (d : Double) : String :=
  if d.isNaN then "NaN"
  else
    let size := if d.isFinite then String.ofList (l.magnitude d) else "inf"
    if d.isNegative then "-" ++ size else size

end Layout

/-- The text of a double inside a message. -/
def Double.text (d : Double) : String := Layout.message.write d

end Parley
