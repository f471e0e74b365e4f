import YangTypes.Wire.Bytes
import YangTypes.Decimal.Text

/-!
The wire form of scalar values: one tag byte, then a payload whose layout the tag fixes.

A decimal is one byte for the scale, counted from zero, and its unscaled value in eight bytes; an
unsigned integer is its bytes. Readers take a list of bytes and return what they leave.
-/

namespace YangTypes

/-- The types with a wire form. -/
inductive ScalarType where
  | decimal
  | unsigned (w : Width)
deriving DecidableEq, Repr

namespace ScalarType

/-- Every type with a wire form. -/
def all : List ScalarType :=
  [decimal, unsigned .w8, unsigned .w16, unsigned .w32, unsigned .w64]

/-- The name of a type. -/
def name : ScalarType → String
  | decimal => "decimal64"
  | unsigned w => w.typeName

/-- The tag of a type. -/
def tag : ScalarType → UInt8
  | decimal => 1
  | unsigned .w8 => 2
  | unsigned .w16 => 3
  | unsigned .w32 => 4
  | unsigned .w64 => 5

/-- The number of bytes after the tag. -/
def payloadLength : ScalarType → Nat
  | decimal => 9
  | unsigned w => w.bytes

/-- The type of a name. -/
def ofName? (text : String) : Option ScalarType :=
  all.find? fun t => t.name == text

/-- The type of a tag. -/
def ofTag? (tag : UInt8) : Option ScalarType :=
  all.find? fun t => t.tag == tag

end ScalarType

/-- A value with a wire form. -/
inductive Scalar where
  | decimal (d : Decimal)
  | unsigned (w : Width) (u : Unsigned w)
deriving DecidableEq

/-- Why bytes are not a wire form. -/
inductive WireError where
  /-- No type has this tag. -/
  | unknownTag (tag : UInt8)
  /-- The tag belongs to another type. -/
  | otherTag (expected found : UInt8)
  /-- The scale byte is too large. -/
  | scaleOffset (offset : UInt8)
  /-- The buffer does not have the length of the type. -/
  | wrongLength (expected found : Nat)
  /-- Fewer bytes are left than the next field takes. -/
  | tooShort (needed : Nat)
  /-- Bytes follow the payload. -/
  | trailing (count : Nat) (type : ScalarType)
deriving DecidableEq

/-- A hexadecimal digit. -/
def Wire.hexDigit (n : Nat) : Char :=
  if n < 10 then Char.ofNat ('0'.toNat + n) else Char.ofNat ('a'.toNat + (n - 10))

/-- Bytes as hexadecimal text, two digits a byte. -/
def Wire.toHex (bytes : List UInt8) : String :=
  String.ofList (bytes.flatMap fun b => [hexDigit (b.toNat / 16), hexDigit (b.toNat % 16)])

/-- The wording of an error. -/
def WireError.message : WireError → String
  | unknownTag tag => "unsupported format tag 0x" ++ Wire.toHex [tag]
  | otherTag expected found =>
    "unexpected format tag 0x" ++ Wire.toHex [found] ++ ", expected 0x" ++ Wire.toHex [expected]
  | scaleOffset offset =>
    "invalid payload: scale offset " ++ toString offset.toNat ++ " is out of range [0..17]"
  | wrongLength expected found => s!"invalid length: expected {expected} bytes, got {found}"
  | tooShort needed => s!"invalid length: input too short: need {needed} more bytes"
  | trailing count type =>
    s!"invalid length: {count} trailing bytes after " ++ type.name ++ " payload"

namespace Scalar

/-- The type of a value. -/
def type : Scalar → ScalarType
  | decimal _ => .decimal
  | unsigned w _ => .unsigned w

/-- The canonical form of a value. -/
def canonical : Scalar → String
  | decimal d => d.canonical
  | unsigned _ u => u.canonical

/-- Reads a canonical form. -/
def parse (type : ScalarType) (text : String) : Except Violation Scalar :=
  match type with
  | .decimal => (Decimal.parse text).map .decimal
  | .unsigned w => (Unsigned.parse w text).map (.unsigned w)

/-- The payload of a value. -/
def payload : Scalar → List UInt8
  | decimal d =>
    UInt8.ofNat (d.scale - 1) :: Wire.bigEndian 8 (d.unscaled % (twoPow 64 : Int)).toNat
  | unsigned w u => Wire.bigEndian w.bytes u.val

/-- The wire form of a value: tag and payload. -/
def encode (s : Scalar) : List UInt8 :=
  s.type.tag :: s.payload

end Scalar

namespace Wire

/-- Takes a number of bytes off the input. -/
def takeBytes (count : Nat) (input : List UInt8) :
    Except WireError ({ bytes : List UInt8 // bytes.length = count } × List UInt8) :=
  if h : count ≤ input.length then
    .ok (⟨input.take count, by simp [h]⟩, input.drop count)
  else .error (.tooShort count)

/-- Takes one byte off the input. -/
def takeByte : List UInt8 → Except WireError (UInt8 × List UInt8)
  | [] => .error (.tooShort 1)
  | b :: rest => .ok (b, rest)

/-- Reads the payload of a decimal. -/
def readDecimal (input : List UInt8) : Except WireError (Decimal × List UInt8) := do
  let (offset, input) ← takeByte input
  if h : offset.toNat < maxScale then
    let (bytes, input) ← takeBytes 8 input
    let value := unsignedOfBytes .w64 bytes.val bytes.property
    .ok (⟨offset.toNat + 1, value.signedBits, ⟨by omega, h⟩, signedBits_fits value⟩, input)
  else .error (.scaleOffset offset)

/-- Reads the payload of an unsigned integer. -/
def readUnsigned (w : Width) (input : List UInt8) :
    Except WireError (Unsigned w × List UInt8) := do
  let (bytes, input) ← takeBytes w.bytes input
  .ok (unsignedOfBytes w bytes.val bytes.property, input)

/-- Reads the payload of a type. -/
def readPayload (type : ScalarType) (input : List UInt8) :
    Except WireError (Scalar × List UInt8) :=
  match type with
  | .decimal => do
    let (d, rest) ← readDecimal input
    .ok (.decimal d, rest)
  | .unsigned w => do
    let (u, rest) ← readUnsigned w input
    .ok (.unsigned w u, rest)

/-- Reads a value of any type. -/
def read (input : List UInt8) : Except WireError (Scalar × List UInt8) := do
  let (tag, input) ← takeByte input
  match ScalarType.ofTag? tag with
  | some type => readPayload type input
  | none => .error (.unknownTag tag)

/-- Reads a value of one type, rejecting any other tag. -/
def readTyped (type : ScalarType) (input : List UInt8) :
    Except WireError (Scalar × List UInt8) := do
  let (tag, input) ← takeByte input
  if tag = type.tag then readPayload type input
  else
    match ScalarType.ofTag? tag with
    | some _ => .error (.otherTag type.tag tag)
    | none => .error (.unknownTag tag)

/-- Decodes a buffer that holds exactly one value. -/
def decode (bytes : List UInt8) : Except WireError Scalar := do
  let (value, rest) ← read bytes
  if rest.isEmpty then .ok value else .error (.trailing rest.length value.type)

/-- Decodes a buffer that holds exactly one value of a type; the length is checked first. -/
def decodeTyped (type : ScalarType) (bytes : List UInt8) : Except WireError Scalar := do
  if bytes.length = 1 + type.payloadLength then
    let (value, _) ← readTyped type bytes
    .ok value
  else .error (.wrongLength (1 + type.payloadLength) bytes.length)

/-- Reads at most `limit` values one after the other with a reader, up to the end of the input or
the first error, which is returned beside the values. -/
def readMany (reader : List UInt8 → Except WireError (Scalar × List UInt8)) :
    (limit : Nat) → List UInt8 → List Scalar × Option WireError
  | 0, _ => ([], none)
  | _ + 1, [] => ([], none)
  | limit + 1, input =>
    match reader input with
    | .error e => ([], some e)
    | .ok (value, rest) =>
      let (values, stopped) := readMany reader limit rest
      (value :: values, stopped)

/-- Reads values of any type up to the end of the input. A value takes at least one byte, so the
length of the input bounds their number. -/
def readAll (input : List UInt8) : List Scalar × Option WireError :=
  readMany read input.length input

/-- Reads values of one type up to the end of the input. -/
def readAllTyped (type : ScalarType) (input : List UInt8) : List Scalar × Option WireError :=
  readMany (readTyped type) input.length input

end Wire

end YangTypes
