import YangTypes.Power
import YangTypes.Violation

/-!
Decimal numbers with a fixed number of fraction digits.

A `Decimal` is a signed 64-bit integer together with a scale from 1 to 18, and denotes the integer
divided by ten to the scale. Both bounds are part of the type. This module has the constructors
from numbers, the parts of a decimal and its exact integer conversions.
-/

namespace YangTypes

/-- The integers that fit a number of signed bits. -/
def FitsSigned (bits : Nat) (n : Int) : Prop :=
  -(twoPow (bits - 1) : Int) ≤ n ∧ n < (twoPow (bits - 1) : Int)

instance (bits : Nat) (n : Int) : Decidable (FitsSigned bits n) :=
  inferInstanceAs (Decidable (_ ∧ _))

/-- The largest number of fraction digits. -/
def maxScale : Nat := 18

/-- The numbers of fraction digits that a decimal can have. -/
def ValidScale (scale : Nat) : Prop :=
  1 ≤ scale ∧ scale ≤ maxScale

instance (scale : Nat) : Decidable (ValidScale scale) :=
  inferInstanceAs (Decidable (_ ∧ _))

/-- The number `unscaled / 10 ^ scale`, kept with its scale. -/
structure Decimal where
  scale : Nat
  unscaled : Int
  scale_valid : ValidScale scale
  unscaled_fits : FitsSigned 64 unscaled

namespace Decimal

instance : DecidableEq Decimal
  | ⟨s, u, _, _⟩, ⟨s', u', _, _⟩ =>
    if h : s = s' ∧ u = u' then
      isTrue (by obtain ⟨rfl, rfl⟩ := h; rfl)
    else
      isFalse fun e => h (by cases e; exact ⟨rfl, rfl⟩)

/-- The least unscaled value. -/
def minUnscaled : Int := -9223372036854775808

/-- The greatest unscaled value. -/
def maxUnscaled : Int := 9223372036854775807

/-- A decimal of a given scale and unscaled value, if both are in their bounds. -/
def ofParts? (scale : Nat) (unscaled : Int) : Option Decimal :=
  if hs : ValidScale scale then
    if hu : FitsSigned 64 unscaled then some ⟨scale, unscaled, hs, hu⟩ else none
  else none

/-- The decimal of a given scale whose unscaled value is a 64-bit integer. -/
def of (scale : Nat) (unscaled : Int) (fits : FitsSigned 64 unscaled) :
    Except ValueError Decimal :=
  if h : ValidScale scale then .ok ⟨scale, unscaled, h, fits⟩
  else .error (.scaleOutOfBounds scale)

/-- The least decimal of a scale. -/
def least (scale : Nat) : Except ValueError Decimal :=
  of scale minUnscaled (by decide)

/-- The greatest decimal of a scale. -/
def greatest (scale : Nat) : Except ValueError Decimal :=
  of scale maxUnscaled (by decide)

/-- Ten to the scale. -/
def divisor (d : Decimal) : Int := tenPow d.scale

/-- The integer part, toward zero. -/
def intPart (d : Decimal) : Int := d.unscaled.tdiv d.divisor

/-- The fraction digits with the sign of the number, as an integer. -/
def signedFrac (d : Decimal) : Int := d.unscaled.tmod d.divisor

/-- The fraction digits as a natural number. -/
def fracPart (d : Decimal) : Nat := d.signedFrac.natAbs

/-- The signed fraction written with the largest number of digits. -/
def normalizedFrac (d : Decimal) : Int := d.signedFrac * tenPow (maxScale - d.scale)

/-- The sign of the number: -1, 0 or 1. -/
def signum (d : Decimal) : Int := d.unscaled.sign

/-- Whether the number is zero. -/
def isZero (d : Decimal) : Bool := d.unscaled == 0

/-- The structural form of a decimal. -/
def describe (d : Decimal) : String :=
  "Decimal64 \x7b scale: " ++ toString d.scale ++ ", value: " ++ toString d.unscaled ++ " \x7d"

/-- An integer at a given scale. The error shows the integers that fit the scale. -/
def ofInteger (scale : Nat) (value : Int) : Except ValueError Decimal :=
  if hs : ValidScale scale then
    if hu : FitsSigned 64 (value * tenPow scale) then .ok ⟨scale, value * tenPow scale, hs, hu⟩
    else .error <|
      .outOfRange value (minUnscaled.tdiv (tenPow scale)) (maxUnscaled.tdiv (tenPow scale))
  else .error (.scaleOutOfBounds scale)

end Decimal

end YangTypes
