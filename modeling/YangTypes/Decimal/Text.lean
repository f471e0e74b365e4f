import YangTypes.Decimal.Basic

/-!
The text form of decimals.

A decimal is written with at least one digit on each side of the point, no superfluous zeros and a
minus sign if it is negative. Reading accepts an optional sign, digits, and optionally a point with
more digits; the scale of the result is the number of fraction digits that are left when the
trailing zeros are dropped, and at least one.
-/

namespace YangTypes.Decimal

/-! ### Writing -/

/-- Drops the zeros at the end of a list of digits. -/
def dropTrailingZeros (digits : List Char) : List Char :=
  (digits.reverse.dropWhile (· == '0')).reverse

/-- The fraction digits of a number below `10 ^ scale`: `scale` digits without the zeros at the
end, but at least one. -/
def fractionDigits (scale frac : Nat) : List Char :=
  match dropTrailingZeros ((Nat.toDigits 10 frac).leftpad scale '0') with
  | [] => ['0']
  | digits => digits

/-- The canonical form as a list of characters. -/
def canonicalChars (d : Decimal) : List Char :=
  let magnitude := d.unscaled.natAbs
  let digits := Nat.toDigits 10 (magnitude / tenPow d.scale) ++
    '.' :: fractionDigits d.scale (magnitude % tenPow d.scale)
  if d.unscaled < 0 then '-' :: digits else digits

/-- The canonical form: the shortest text with a digit on each side of the point. -/
def canonical (d : Decimal) : String :=
  String.ofList d.canonicalChars

/-! ### Reading -/

/-- Why a text is not a decimal. -/
inductive TextError where
  | empty
  | noDigitsAfterSign
  | integerTooLong
  | illegalCharacter (offset : Nat)
  | noIntegerDigits
  | noFractionDigits
  | fractionTooLong (limit : Nat)
  | outOfRange
deriving DecidableEq, Repr

/-- The wording of an error about `text`. -/
def TextError.message (text : String) : TextError → String
  | empty => "Empty string is not a valid decimal64 representation"
  | noDigitsAfterSign => "Missing digits after sign"
  | integerTooLong => s!"Integer part is longer than {maxScale} digits"
  | illegalCharacter offset => s!"Illegal character at offset {offset}"
  | noIntegerDigits => s!"Value '{text}' is missing integer digits"
  | noFractionDigits => s!"Value '{text}' is missing fraction digits"
  | fractionTooLong limit => s!"Fraction part longer than {limit} digits"
  | outOfRange => s!"Value '{text}' is outside of decimal64 range"

/-- The value of an ASCII decimal digit. -/
def digit? (c : Char) : Option Nat :=
  if '0' ≤ c ∧ c ≤ '9' then some (c.toNat - '0'.toNat) else none

/-- Reads a list of at most `room` digits on top of `acc`. The list stands at `offset` in the text,
and the length is checked before the character. -/
def readDigits (tooLong : TextError) : (room offset acc : Nat) → List Char → Except TextError Nat
  | _, _, acc, [] => .ok acc
  | 0, _, _, _ :: _ => .error tooLong
  | room + 1, offset, acc, c :: cs =>
    match digit? c with
    | none => .error (.illegalCharacter offset)
    | some d => readDigits tooLong room (offset + 1) (acc * 10 + d) cs

/-- Drops the zeros that stand before another digit. -/
def dropLeadingZeros : List Char → List Char
  | '0' :: c :: cs => if (digit? c).isSome then dropLeadingZeros (c :: cs) else '0' :: c :: cs
  | cs => cs

/-- Puts sign, integer part and fraction together. -/
def assemble (negative : Bool) (integer frac fracLength : Nat) : Except TextError Decimal :=
  let magnitude : Int := integer * tenPow fracLength + frac
  match ofParts? fracLength (if negative then -magnitude else magnitude) with
  | some d => .ok d
  | none => .error .outOfRange

/-- Reads what follows the integer digits, which are `count` many. -/
def readFraction (negative : Bool) (integer count offset : Nat) :
    List Char → Except TextError Decimal
  | [] => assemble negative integer 0 1
  | [_] => .error .noFractionDigits
  | _ :: c :: cs => do
    let digits := c :: dropTrailingZeros cs
    let limit := min (maxScale - count + 1) maxScale
    let frac ← readDigits (.fractionTooLong limit) limit (offset + 1) 0 digits
    assemble negative integer frac digits.length

/-- Reads a decimal without its sign; the list stands at `offset` in the text. -/
def readUnsigned (negative : Bool) (offset : Nat) (cs : List Char) : Except TextError Decimal := do
  let body := dropLeadingZeros cs
  let start := offset + (cs.length - body.length)
  let digits := body.takeWhile (· != '.')
  let integer ← readDigits .integerTooLong maxScale start 0 digits
  let rest := body.dropWhile (· != '.')
  if digits.isEmpty then .error .noIntegerDigits
  else readFraction negative integer digits.length (start + digits.length) rest

/-- Reads a list of characters as a decimal. -/
def readChars : List Char → Except TextError Decimal
  | [] => .error .empty
  | '-' :: [] | '+' :: [] => .error .noDigitsAfterSign
  | '-' :: cs => readUnsigned true 1 cs
  | '+' :: cs => readUnsigned false 1 cs
  | cs => readUnsigned false 0 cs

/-- Reads a text as a decimal. -/
def parse (text : String) : Except Violation Decimal :=
  match readChars text.toList with
  | .ok d => .ok d
  | .error e => .error (.ofMessage (e.message text))

end YangTypes.Decimal
