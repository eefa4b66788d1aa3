/-!
# Hexadecimal digits
-/

namespace Parley.Text

/-- The value of a hexadecimal digit. -/
def hexDigit? (c : Char) : Option Nat :=
  if '0' ≤ c ∧ c ≤ '9' then some (c.toNat - '0'.toNat)
  else if 'a' ≤ c ∧ c ≤ 'f' then some (c.toNat - 'a'.toNat + 10)
  else if 'A' ≤ c ∧ c ≤ 'F' then some (c.toNat - 'A'.toNat + 10)
  else none

/-- The number that hexadecimal digits stand for. -/
def hex? (cs : List Char) : Option Nat :=
  cs.foldlM (fun n c => (hexDigit? c).map (16 * n + ·)) 0

/-- The number in the first `count` characters, and the characters after them. -/
def hexPrefix? (count : Nat) (cs : List Char) : Option (Nat × List Char) :=
  if cs.length < count then none else (hex? (cs.take count)).map (·, cs.drop count)

/-- The character with a number; surrogates and numbers past the last one have none. -/
def charOfNat? (n : Nat) : Option Char :=
  if h : n.isValidChar then some (Char.ofNatAux n h) else none

end Parley.Text
