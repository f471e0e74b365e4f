import YangTypes.Power

/-!
Integer literals: an optional sign followed by digits of some radix.

`digitValue?` reads one digit, `digitsValue?` a list of digits, `readInt?` a literal with its sign,
and `readInt128?` a literal whose value has to fit 128 signed bits.
-/

namespace YangTypes.Text

/-- The value of an ASCII digit or letter in a radix up to 36, in either case of the letter. -/
def digitValue? (radix : Nat) (c : Char) : Option Nat :=
  let value :=
    if '0' ≤ c ∧ c ≤ '9' then some (c.toNat - '0'.toNat)
    else if 'a' ≤ c ∧ c ≤ 'z' then some (c.toNat - 'a'.toNat + 10)
    else if 'A' ≤ c ∧ c ≤ 'Z' then some (c.toNat - 'A'.toNat + 10)
    else none
  value.filter (· < radix)

/-- Reads digits from the left, on top of the value of the digits before them. -/
def digitsValueFrom? (radix : Nat) (acc : Nat) : List Char → Option Nat
  | [] => some acc
  | c :: cs => (digitValue? radix c).bind fun d => digitsValueFrom? radix (acc * radix + d) cs

/-- The value of a list of one or more digits. -/
def digitsValue? (radix : Nat) : List Char → Option Nat
  | [] => none
  | cs => digitsValueFrom? radix 0 cs

/-- The value of an integer literal: at most one sign, then one or more digits. -/
def readInt? (radix : Nat) : List Char → Option Int
  | '-' :: cs => (digitsValue? radix cs).map fun n => -(n : Int)
  | '+' :: cs => (digitsValue? radix cs).map fun n => (n : Int)
  | cs => (digitsValue? radix cs).map fun n => (n : Int)

/-- The integers that fit 128 signed bits. -/
def FitsInt128 (n : Int) : Prop :=
  -(twoPow 127 : Int) ≤ n ∧ n < (twoPow 127 : Int)

instance (n : Int) : Decidable (FitsInt128 n) :=
  inferInstanceAs (Decidable (_ ∧ _))

/-- The value of an integer literal, if it fits 128 signed bits. -/
def readInt128? (radix : Nat) (text : String) : Option Int :=
  (readInt? radix text.toList).filter fun n => decide (FitsInt128 n)

end YangTypes.Text
