import YangTypes.Text.Literal
import YangTypes.Unsigned.Basic
import YangTypes.Violation

/-!
The built-in types of the modelling language.
-/

namespace YangTypes

/-- The integer types. -/
inductive IntegerKind where
  | signed (w : Width)
  | unsigned (w : Width)
deriving DecidableEq, Repr

namespace IntegerKind

/-- Every integer type. -/
def all : List IntegerKind := Width.all.map signed ++ Width.all.map unsigned

/-- The keyword. -/
def name : IntegerKind → String
  | signed .w8 => "int8"
  | signed .w16 => "int16"
  | signed .w32 => "int32"
  | signed .w64 => "int64"
  | unsigned w => w.typeName

/-- The least value. -/
def low : IntegerKind → Int
  | signed w => -(twoPow (w.bits - 1) : Int)
  | unsigned _ => 0

/-- The greatest value. -/
def high : IntegerKind → Int
  | signed w => (twoPow (w.bits - 1) : Int) - 1
  | unsigned w => w.maxValue

/-- Whether no value is negative. -/
def isUnsigned : IntegerKind → Bool
  | signed _ => false
  | unsigned _ => true

/-- Reads an integer, of any size. -/
def readInteger (kind : IntegerKind) (text : String) : Except Violation Int :=
  match kind with
  | unsigned w => (Unsigned.parse w text).map Unsigned.toInt
  | signed _ =>
    match Text.readInt128? 10 text with
    | some n => .ok n
    | none => .error (.ofMessage ("'" ++ text ++ "' is not a valid " ++ kind.name))

/-- Reads a value. -/
def parse (kind : IntegerKind) (text : String) : Except Violation Int := do
  let n ← kind.readInteger text
  if kind.low ≤ n ∧ n ≤ kind.high then return n
  else throw (ValueError.outOfRange n kind.low kind.high).toViolation

end IntegerKind

/-- The built-in types. -/
inductive Kind where
  | binary
  | bits
  | boolean
  | decimal64
  | empty
  | enumeration
  | identityref
  | instanceIdentifier
  | integer (kind : IntegerKind)
  | leafref
  | string
  | union
deriving DecidableEq, Repr

namespace Kind

/-- Every built-in type, by keyword. -/
def all : List Kind :=
  [binary, bits, boolean, decimal64, empty, enumeration, identityref, instanceIdentifier] ++
    IntegerKind.all.map integer ++ [leafref, string, union]

/-- The keyword. -/
def name : Kind → String
  | binary => "binary"
  | bits => "bits"
  | boolean => "boolean"
  | decimal64 => "decimal64"
  | empty => "empty"
  | enumeration => "enumeration"
  | identityref => "identityref"
  | instanceIdentifier => "instance-identifier"
  | integer kind => kind.name
  | leafref => "leafref"
  | string => "string"
  | union => "union"

/-- The built-in type with a keyword. -/
def ofName? (name : String) : Option Kind := all.find? fun kind => kind.name == name

end Kind

/-- The built-in types that cannot be used without an argument: their statements make the type. -/
inductive RootKind where
  | bits
  | decimal64
  | enumeration
  | identityref
  | leafref
  | union
deriving DecidableEq, Repr

/-- The built-in type. -/
def RootKind.toKind : RootKind → Kind
  | bits => .bits
  | decimal64 => .decimal64
  | enumeration => .enumeration
  | identityref => .identityref
  | leafref => .leafref
  | union => .union

end YangTypes
