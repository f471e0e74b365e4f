import YangTypes.Text.Literal
import YangTypes.Violation

/-!
Unsigned integers of 8, 16, 32 and 64 bits.

An `Unsigned w` is a natural number below two to the width. It is made from integers, checked or
clamped, and read from literals in any radix from 2 to 36.
-/

namespace YangTypes

/-- The widths of unsigned integers. -/
inductive Width where
  | w8
  | w16
  | w32
  | w64
deriving DecidableEq, Repr

namespace Width

/-- Every width. -/
def all : List Width := [w8, w16, w32, w64]

/-- The number of bits. -/
def bits : Width → Nat
  | w8 => 8
  | w16 => 16
  | w32 => 32
  | w64 => 64

/-- The number of bytes. -/
def bytes : Width → Nat
  | w8 => 1
  | w16 => 2
  | w32 => 4
  | w64 => 8

/-- The name of the integer type of a width. -/
def typeName : Width → String
  | w8 => "uint8"
  | w16 => "uint16"
  | w32 => "uint32"
  | w64 => "uint64"

/-- The width with a number of bits. -/
def ofBits? (n : Nat) : Option Width :=
  all.find? fun w => w.bits == n

/-- The greatest value of a width. -/
def maxValue (w : Width) : Nat := twoPow w.bits - 1

end Width

/-- A natural number below two to the width. -/
structure Unsigned (w : Width) where
  val : Nat
  lt : val < twoPow w.bits
deriving DecidableEq

namespace Unsigned

variable {w : Width}

/-- The value as an integer. -/
def toInt (u : Unsigned w) : Int := u.val

/-- Zero of a width. -/
def zero (w : Width) : Unsigned w := ⟨0, twoPow_pos _⟩

/-- The greatest value of a width. -/
def greatest (w : Width) : Unsigned w :=
  ⟨w.maxValue, Nat.sub_lt (twoPow_pos _) Nat.one_pos⟩

/-- The value of an integer that is in range. -/
def ofInt? (w : Width) (n : Int) : Option (Unsigned w) :=
  if 0 ≤ n then
    if h : n.toNat < twoPow w.bits then some ⟨n.toNat, h⟩ else none
  else none

/-- The value of an integer; the error shows the range of the width. -/
def of (w : Width) (n : Int) : Except ValueError (Unsigned w) :=
  match ofInt? w n with
  | some u => .ok u
  | none => .error (.outOfRange n 0 w.maxValue)

/-- The value nearest to an integer. -/
def clamp (w : Width) (n : Int) : Unsigned w :=
  if h : n.toNat < twoPow w.bits then ⟨n.toNat, h⟩ else greatest w

/-- Reads a literal in a radix. -/
def ofLiteral (w : Width) (text : String) (radix : Nat) : Except ValueError (Unsigned w) :=
  if 2 ≤ radix ∧ radix ≤ 36 then
    match Text.readInt128? radix text with
    | some n => of w n
    | none =>
      let name := w.typeName
      .error (.violation (.ofMessage s!"'{text}' is not a valid {name} in radix {radix}"))
  else .error (.invalidRadix radix)

/-- Reads a decimal literal, reporting every failure as a violation. -/
def parse (w : Width) (text : String) : Except Violation (Unsigned w) :=
  (ofLiteral w text 10).mapError ValueError.toViolation

/-- The canonical form: decimal digits. -/
def canonical (u : Unsigned w) : String := toString u.val

/-- The value with the bits of a signed integer. -/
def ofSignedBits (w : Width) (bits : Int) : Unsigned w :=
  ⟨(bits % (twoPow w.bits : Int)).toNat, by
    have hpos : (0 : Int) < twoPow w.bits := Int.natCast_pos.2 (twoPow_pos w.bits)
    have hlt := Int.emod_lt_of_pos bits hpos
    have hnonneg := Int.emod_nonneg bits (Int.ne_of_gt hpos)
    omega⟩

/-- The bits of a value as a signed integer of the same width. -/
def signedBits (u : Unsigned w) : Int :=
  if u.val < twoPow (w.bits - 1) then u.val else (u.val : Int) - twoPow w.bits

/-- The same value in another width. -/
def convert (u : Unsigned w) (target : Width) : Except ValueError (Unsigned target) :=
  of target u.toInt

end Unsigned

end YangTypes
