import YangTypes.Decimal.Text

/-!
Rescaling of decimals.

A decimal can be written with more fraction digits as long as the unscaled value fits, and with
fewer if a rounding mode says what becomes of the digits that are lost. Integer conversions are the
case in which nothing may be lost.
-/

namespace YangTypes

/-- What becomes of digits that are lost. -/
inductive RoundingMode where
  | up
  | down
  | ceiling
  | floor
  | halfUp
  | halfDown
  | halfEven
  | unnecessary
deriving DecidableEq, Repr

namespace RoundingMode

/-- Every rounding mode. -/
def all : List RoundingMode :=
  [up, down, ceiling, floor, halfUp, halfDown, halfEven, unnecessary]

/-- The name of a rounding mode. -/
def name : RoundingMode → String
  | up => "up"
  | down => "down"
  | ceiling => "ceiling"
  | floor => "floor"
  | halfUp => "half-up"
  | halfDown => "half-down"
  | halfEven => "half-even"
  | unnecessary => "unnecessary"

/-- The rounding mode of a name. -/
def ofName? (text : String) : Option RoundingMode :=
  all.find? fun mode => mode.name == text

/-- Reads a rounding mode. -/
def parse (text : String) : Except ValueError RoundingMode :=
  match ofName? text with
  | some mode => .ok mode
  | none => .error (.patternMismatch "rounding_mode" text)

end RoundingMode

/-- Why a conversion of a decimal has no exact or representable result. -/
inductive ArithmeticError where
  | overflow (value : Decimal) (scale : Nat)
  | roundingNecessary (value : Decimal) (scale : Nat)
  | lostFraction (value : Decimal)
  | outOfTargetRange (value : Int) (target : String)
  | scaleOutOfBounds (scale : Nat)
deriving DecidableEq

/-- The wording of an error. -/
def ArithmeticError.message : ArithmeticError → String
  | overflow value scale => value.canonical ++ s!" cannot be represented with scale {scale}"
  | roundingNecessary value scale =>
    "rounding necessary to represent " ++ value.canonical ++ s!" with scale {scale}"
  | lostFraction value => "conversion of " ++ value.canonical ++ " would lose fraction"
  | outOfTargetRange value target => s!"value {value} is outside of {target} range"
  | scaleOutOfBounds scale => s!"scale {scale} is outside of allowed range [1..18]"

namespace Decimal

/-- Whether a quotient toward zero moves away from zero, given the remainder that it leaves; `none`
if the mode allows no remainder. -/
def roundsAway? (mode : RoundingMode) (positive : Bool) (quotient : Int) (remainder half : Nat) :
    Option Bool :=
  match mode with
  | .up => some true
  | .down => some false
  | .ceiling => some positive
  | .floor => some !positive
  | .halfUp => some (half ≤ remainder)
  | .halfDown => some (half < remainder)
  | .halfEven => some (half < remainder || (half == remainder && quotient.tmod 2 != 0))
  | .unnecessary => none

/-- The same number with fewer fraction digits. -/
def narrow (d : Decimal) (scale : Nat) (mode : RoundingMode) : Except ArithmeticError Int :=
  let divisor : Int := tenPow (d.scale - scale)
  let quotient := d.unscaled.tdiv divisor
  let remainder := d.unscaled.tmod divisor
  if remainder = 0 then .ok quotient
  else
    match roundsAway? mode (0 < d.unscaled) quotient remainder.natAbs (divisor / 2).natAbs with
    | none => .error (.roundingNecessary d scale)
    | some true => .ok (quotient + d.unscaled.sign)
    | some false => .ok quotient

/-- The unscaled value of a decimal at another scale. -/
def rescaled (d : Decimal) (scale : Nat) (mode : RoundingMode) : Except ArithmeticError Int :=
  if d.scale ≤ scale then .ok (d.unscaled * tenPow (scale - d.scale))
  else d.narrow scale mode

/-- The same number at another scale. Adding digits fails if the unscaled value does not fit;
dropping digits rounds as `mode` says. -/
def scaleTo (d : Decimal) (scale : Nat) (mode : RoundingMode) : Except ArithmeticError Decimal :=
  if hs : ValidScale scale then
    match d.rescaled scale mode with
    | .error e => .error e
    | .ok unscaled =>
      if hu : FitsSigned 64 unscaled then .ok ⟨scale, unscaled, hs, hu⟩
      else .error (.overflow d scale)
  else .error (.scaleOutOfBounds scale)

/-- The number as an integer, if it has no fraction. -/
def toInteger (d : Decimal) : Except ArithmeticError Int :=
  if d.fracPart = 0 then .ok d.intPart else .error (.lostFraction d)

/-- The number as an integer of a number of signed bits; the error names the target type. -/
def toSigned (d : Decimal) (bits : Nat) : Except ArithmeticError Int := do
  let n ← d.toInteger
  if FitsSigned bits n then .ok n else .error (.outOfTargetRange n s!"i{bits}")

end Decimal

end YangTypes
