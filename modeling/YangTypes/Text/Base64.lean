/-!
Bytes written with 64 letters: four letters for three bytes, filled up with `=`.

Only the canonical form is read: the number of letters is a multiple of four, and the bits that are
not used at the end are zero.
-/

namespace YangTypes.Text.Base64

/-- The value of a letter. -/
def letterValue? (c : Char) : Option Nat :=
  if 'A' ≤ c ∧ c ≤ 'Z' then some (c.toNat - 'A'.toNat)
  else if 'a' ≤ c ∧ c ≤ 'z' then some (c.toNat - 'a'.toNat + 26)
  else if '0' ≤ c ∧ c ≤ '9' then some (c.toNat - '0'.toNat + 52)
  else if c = '+' then some 62
  else if c = '/' then some 63
  else none

/-- One byte from two letters at the end. -/
def lastByte? (a b : Char) : Option (List UInt8) := do
  let n := (← letterValue? a) * 64 + (← letterValue? b)
  if n % 16 = 0 then some [UInt8.ofNat (n / 16)] else none

/-- Two bytes from three letters at the end. -/
def lastTwoBytes? (a b c : Char) : Option (List UInt8) := do
  let n := ((← letterValue? a) * 64 + (← letterValue? b)) * 64 + (← letterValue? c)
  if n % 4 = 0 then some [UInt8.ofNat (n / 1024), UInt8.ofNat (n / 4 % 256)] else none

/-- Three bytes from four letters. -/
def threeBytes? (a b c d : Char) : Option (List UInt8) := do
  let n := (((← letterValue? a) * 64 + (← letterValue? b)) * 64 + (← letterValue? c)) * 64 +
    (← letterValue? d)
  some [UInt8.ofNat (n / 65536), UInt8.ofNat (n / 256 % 256), UInt8.ofNat (n % 256)]

/-- The bytes of a text, if it is in canonical form. -/
def decode? : List Char → Option (List UInt8)
  | [] => some []
  | [a, b, '=', '='] => lastByte? a b
  | [a, b, c, '='] => lastTwoBytes? a b c
  | a :: b :: c :: d :: rest => do
    let bytes ← threeBytes? a b c d
    return bytes ++ (← decode? rest)
  | _ => none

end YangTypes.Text.Base64
