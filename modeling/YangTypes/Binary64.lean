import YangTypes.Power

/-!
Nearest numbers with 53 significant bits.

A `Binary64` is a signed integer times a power of two. `ofRatio` rounds a quotient of natural
numbers to 53 bits, a tie going to the even neighbour. All of this is exact integer arithmetic, so
that comparing two approximations is comparing two integers.
-/

namespace YangTypes

/-- The number `mantissa * 2 ^ exponent`. -/
structure Binary64 where
  mantissa : Int
  exponent : Int
deriving DecidableEq, Repr

namespace Binary64

/-- The quotient of two natural numbers, rounded to the nearest integer and to even on a tie. -/
def nearest (num den : Nat) : Nat :=
  let q := num / den
  let r := num % den
  if 2 * r < den then q
  else if den < 2 * r then q + 1
  else if q % 2 = 0 then q else q + 1

/-- A positive quotient of natural numbers, rounded to 53 significant bits. -/
def ofRatio (num den : Nat) : Nat × Int :=
  let k : Int := (num.log2 : Int) - (den.log2 : Int)
  -- the quotient lies between 2 ^ (k - 1) and 2 ^ (k + 1); find the power of two below it
  let atLeast : Bool :=
    if 0 ≤ k then den * twoPow k.toNat ≤ num else den ≤ num * twoPow (-k).toNat
  let exponent : Int := (if atLeast then k else k - 1) - 52
  let mantissa :=
    if 0 ≤ exponent then nearest num (den * twoPow exponent.toNat)
    else nearest (num * twoPow (-exponent).toNat) den
  (mantissa, exponent)

/-- A quotient of an integer by a natural number, rounded to 53 significant bits. -/
def quotient (num : Int) (den : Nat) : Binary64 :=
  if num = 0 then ⟨0, 0⟩
  else
    let (mantissa, exponent) := ofRatio num.natAbs den
    ⟨num.sign * mantissa, exponent⟩

/-- The quotient of an approximated number by a natural number. -/
def divNat (x : Binary64) (den : Nat) : Binary64 :=
  if 0 ≤ x.exponent then quotient (x.mantissa * twoPow x.exponent.toNat) den
  else quotient x.mantissa (den * twoPow (-x.exponent).toNat)

/-- The exact product. -/
def times (x y : Binary64) : Binary64 := ⟨x.mantissa * y.mantissa, x.exponent + y.exponent⟩

/-- The exact numeric order. -/
def order (x y : Binary64) : Ordering :=
  let low := min x.exponent y.exponent
  compare (x.mantissa * twoPow (x.exponent - low).toNat)
    (y.mantissa * twoPow (y.exponent - low).toNat)

/-- Half a unit above the greatest number of double precision: from there on, numbers are not
rounded to one of them. -/
def overflow : Binary64 := ⟨twoPow 54 - 1, 970⟩

/-- Whether a positive number is rounded to one of double precision. -/
def isFinite (x : Binary64) : Bool := x.order overflow == .lt

/-- The 64 bits of the number in double precision: sign, biased exponent, and the mantissa without
its leading bit. -/
def bits (x : Binary64) : Nat :=
  if x.mantissa = 0 then 0
  else
    let m := x.mantissa.natAbs
    let (m, e) := if m = twoPow 53 then (twoPow 52, x.exponent + 1) else (m, x.exponent)
    (if x.mantissa < 0 then twoPow 63 else 0) + (e + 1075).toNat * twoPow 52 + (m - twoPow 52)

end Binary64

end YangTypes
