import YangTypes.Decimal.Order
import YangTypes.Decimal.Text

/-!
Numbers that bound ranges and lengths: integers and decimals.

They are compared as numbers, so an integer equals a decimal that denotes it.
-/

namespace YangTypes

/-- An integer or a decimal. -/
inductive Number where
  | integer (n : Int)
  | decimal (d : Decimal)
deriving DecidableEq

namespace Number

/-- The text of a number. -/
def text : Number → String
  | integer n => toString n
  | decimal d => d.canonical

/-- The order of an integer and a decimal: by the integer part, then by the sign of the
fraction. -/
def mixedOrder (n : Int) (d : Decimal) : Ordering :=
  if n = d.intPart then compare 0 (if d.fracPart = 0 then 0 else d.signum)
  else compare n d.intPart

/-- The order of two numbers. -/
def order : Number → Number → Ordering
  | integer a, integer b => compare a b
  | decimal a, decimal b => a.order b
  | integer a, decimal b => mixedOrder a b
  | decimal a, integer b => (mixedOrder b a).swap

/-- Whether two numbers are equal. -/
def numEq (a b : Number) : Bool := a.order b == .eq

/-- Whether a number is at most another. -/
def le (a b : Number) : Bool := a.order b != .gt

/-- The number in 128 bits, such that equal numbers have equal data: a whole number fills them all,
and otherwise the integer part takes the low half and the fraction the high half. Different numbers
may have equal data. -/
def key : Number → Nat
  | integer n => wrap 128 n
  | decimal d =>
    if d.fracPart = 0 then wrap 128 d.intPart
    else wrap 64 d.intPart + twoPow 64 * wrap 64 d.normalizedFrac
where
  /-- The low bits of an integer, in two's complement. -/
  wrap (bits : Nat) (n : Int) : Nat := (n % twoPow bits).toNat

end Number

end YangTypes
