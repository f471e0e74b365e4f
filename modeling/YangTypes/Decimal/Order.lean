import YangTypes.Binary64
import YangTypes.Decimal.Basic

/-!
Equality and order of decimals.

Two decimals are equal if they denote the same number, whatever their scales. At one scale the
order is exact. Across scales it compares approximations in double precision first, and the exact
parts only if these agree.
-/

namespace YangTypes.Decimal

/-- Integer part and fraction at the largest scale: the data that stands for the number. -/
def key (d : Decimal) : Int × Int := (d.intPart, d.normalizedFrac)

/-- Whether two decimals denote the same number. -/
def numEq (a b : Decimal) : Bool :=
  if a.scale = b.scale then a.unscaled == b.unscaled else a.key == b.key

/-- The order of integer parts, then of fractions. -/
def keyOrder (a b : Decimal) : Ordering :=
  (compare a.intPart b.intPart).then (compare a.normalizedFrac b.normalizedFrac)

/-- The number in double precision: the unscaled value is rounded first, then the quotient. -/
def approx (d : Decimal) : Binary64 :=
  (Binary64.quotient d.unscaled 1).divNat (tenPow d.scale)

/-- The order of two decimals: exact at one scale, through approximations across scales. -/
def order (a b : Decimal) : Ordering :=
  if a.scale = b.scale then compare a.unscaled b.unscaled
  else if a.numEq b then .eq
  else (a.approx.order b.approx).then (keyOrder a b)

end YangTypes.Decimal
