import YangTypes.Command.Basic
import YangTypes.Command.Files
import YangTypes.Document.Derive
import YangTypes.Text.Quoted
import YangTypes.Wire.Scalar

/-!
What the commands print.
-/

namespace YangTypes

open Json (Value)

/-- Why hexadecimal text is not a list of bytes. -/
inductive HexError where
  | oddLength
  | invalidDigit (byte : UInt8) (position : Nat)
deriving DecidableEq

/-- The wording of an error; a byte is shown as the character with its number. -/
def HexError.message : HexError → String
  | oddLength => "Odd number of digits"
  | invalidDigit byte position =>
    "Invalid character " ++ Text.singleQuoted (Char.ofNat byte.toNat) ++ " at position " ++
      toString position

/-- The value of a hexadecimal digit at a position. -/
def hexValue (position : Nat) (byte : UInt8) : Except HexError Nat :=
  match Text.digitValue? 16 (Char.ofNat byte.toNat) with
  | some n => .ok n
  | none => .error (.invalidDigit byte position)

/-- The bytes that pairs of digits stand for, from a position on. -/
def hexBytes (position : Nat) : List UInt8 → Except HexError (List UInt8)
  | a :: b :: rest => do
    let high ← hexValue position a
    let low ← hexValue (position + 1) b
    return UInt8.ofNat (high * 16 + low) :: (← hexBytes (position + 2) rest)
  | _ => .ok []

/-- Reads hexadecimal text. -/
def parseHex (text : String) : Except HexError (List UInt8) :=
  let bytes := text.toUTF8.toList
  if bytes.length % 2 = 1 then .error .oddLength else hexBytes 0 bytes

namespace Command

/-- Where a command reads its document. -/
inductive Source where
  | standardInput
  | file (path : String)
deriving DecidableEq, Repr

/-- What a document from a source is called. -/
def Source.name : Source → String
  | standardInput => "<stdin>"
  | file path => path

/-- The source that an optional path stands for. -/
def Source.ofPath : Option String → Source
  | none => standardInput
  | some path => file path

/-- Where a command reads its document, if it reads one. -/
def source? : Command → Option Source
  | typedef path .. => some (.ofPath path)
  | _ => none

/-- Prints a decimal. -/
def runDecimal (value : String) (scale : Option Nat) (rounding : String) (json : Bool) :
    Except String String := do
  let d ← (Decimal.parse value).mapError fun v => "Invalid decimal64 '" ++ value ++ "': " ++ v.text
  let d ← match scale with
    | none => pure d
    | some scale => do
      let mode ← (RoundingMode.parse rounding).mapError fun e =>
        "Invalid rounding mode: " ++ e.message
      (d.scaleTo scale mode).mapError ArithmeticError.message
  if json then
    return (Value.object [("canonical", .string d.canonical), ("scale", .integer d.scale),
      ("unscaled", .integer d.unscaled)]).pretty
  else return d.canonical

/-- Reads an unsigned integer of a width. -/
def readUnsigned (w : Width) (value : String) (radix : Nat) (saturate : Bool) :
    Except String (Unsigned w) :=
  if saturate then
    match Text.readInt128? radix value with
    | some n => .ok (Unsigned.clamp w n)
    | none => .error ("'" ++ value ++ "' is not an integer in radix " ++ toString radix)
  else (Unsigned.ofLiteral w value radix).mapError ValueError.message

/-- Prints an unsigned integer. -/
def runUnsigned (width : Nat) (value : String) (radix : Nat) (saturate json : Bool) :
    Except String String := do
  if ¬ (2 ≤ radix ∧ radix ≤ 36) then throw s!"Invalid radix {radix}; expected 2..36"
  match Width.ofBits? width with
  | none => throw s!"Unsupported width {width}; expected 8, 16, 32 or 64"
  | some w =>
    let u ← readUnsigned w value radix saturate
    if json then
      return (Value.object [("type", .string w.typeName), ("value", .string u.canonical),
        ("wire", .string (Wire.toHex (Scalar.unsigned w u).encode))]).pretty
    else return u.canonical

/-- Prints a wire form. -/
def runEncode (type value : String) : Except String String := do
  match ScalarType.ofName? type with
  | none => throw ("Type " ++ type ++ " has no wire form")
  | some type =>
    let s ← (Scalar.parse type value).mapError Violation.text
    return Wire.toHex s.encode

/-- Prints the value of a wire form. -/
def runDecode (hex : String) (json : Bool) : Except String String := do
  let bytes ← (parseHex (Text.trim hex)).mapError fun e => "Invalid hex: " ++ e.message
  let s ← (Wire.decode bytes).mapError WireError.message
  if json then
    return (Value.object [("type", .string s.type.name), ("tag", .integer s.type.tag.toNat),
      ("value", .string s.canonical)]).pretty
  else return s.type.name ++ " " ++ s.canonical

/-- The typedefs that a name selects: one, or all if there is no name. -/
def select (types : Catalogue) : Option String → Except DocumentError (List TypeDef)
  | none => .ok (types.map Prod.snd)
  | some name =>
    match types.lookup name with
    | some t => .ok [t]
    | none => .error (.notDeclared name)

/-- Checks a value against typedefs. -/
def checkAll (value : String) : List TypeDef → Except String Unit
  | [] => .ok ()
  | t :: ts => do
    (t.check value).mapError fun v => "Invalid value '" ++ value ++ "': " ++ v.text
    checkAll value ts

/-- Prints typedefs, or that a value is valid. -/
def runTypedef (text origin : String) (strict : Bool) (name check : Option String) (json : Bool) :
    Except String String := do
  let types ← (deriveDocument text origin ⟨strict⟩).mapError DocumentError.message
  let selected ← (select types name).mapError DocumentError.message
  match check with
  | some value =>
    checkAll value selected
    if json then
      return (Value.object [("value", .string value), ("valid", .bool true)]).pretty
    else return "valid"
  | none =>
    let summaries := selected.map TypeDef.summary
    if json then return (Value.array (summaries.map Summary.toJson)).pretty
    else return "\n".intercalate (Summary.tableHeader ++ summaries.map Summary.row)

/-- Runs a command on the document that it reads: what it prints, or what is wrong. -/
def run (command : Command) (input : Except ReadFailure String) : Except String String :=
  match command with
  | decimal value scale rounding json => runDecimal value scale rounding json
  | unsigned width value radix saturate json => runUnsigned width value radix saturate json
  | encode type value => runEncode type value
  | decode hex json => runDecode hex json
  | typedef path strict name check json => do
    let text ← input.mapError fun failure =>
      match path with
      | none => failure.message
      | some path => "Failed to read file " ++ path ++ ": " ++ failure.message
    runTypedef text (Source.ofPath path).name strict name check json

end Command

end YangTypes
