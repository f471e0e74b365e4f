import YangTypes.Binary64
import YangTypes.Text.Literal

/-!
Numbers in JSON texts, as they are written.

A numeral without point and exponent stands for an integer of any size. Whether any other numeral
has a value is a question of double precision. Only the digits that fit 64 bits count for it: they
are rounded, the power of ten by which they are shifted is rounded, and the product must not be too
large. `isFinite` decides this.
-/

namespace YangTypes.Json

/-- A number as it is written: the digits before the point, those after it, and the exponent. -/
structure Numeral where
  negative : Bool
  whole : List Char
  fraction : Option (List Char)
  exponent : Option Int
deriving DecidableEq, Repr

namespace Numeral

/-- The integer that a numeral stands for. Minus zero is not one. -/
def toInt? (n : Numeral) : Option Int :=
  match n.fraction, n.exponent, Text.digitsValue? 10 n.whole with
  | none, none, some value =>
    if n.negative then if value = 0 then none else some (-(value : Int)) else some value
  | _, _, _ => none

/-- Reads digits on top of the value of those before them, as long as the value fits 64 bits: the
value, and the digits that are left. -/
def leadingValue (value : Nat) : List Char → Nat × List Char
  | [] => (value, [])
  | c :: cs =>
    let next := value * 10 + (c.toNat - '0'.toNat)
    if next < twoPow 64 then leadingValue next cs else (value, c :: cs)

/-- The digits that count, as an integer, and the power of ten that it is multiplied with. Digits
before the point that do not count leave their places, those after it leave none. -/
def scientific (n : Numeral) : Nat × Int :=
  let fraction := n.fraction.getD []
  let (value, wholeLeft) := leadingValue 0 n.whole
  let (value, fractionLeft) := leadingValue value fraction
  (value, n.exponent.getD 0 + wholeLeft.length - (fraction.length - fractionLeft.length : Nat))

/-- Whether a numeral has a value in double precision. -/
def isFinite (n : Numeral) : Bool :=
  let (value, power) := n.scientific
  if value = 0 ∨ power < 0 then true
  else if 308 < power then false
  else ((Binary64.quotient value 1).times (Binary64.quotient (tenPow power.toNat) 1)).isFinite

end Numeral

end YangTypes.Json
