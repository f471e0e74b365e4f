import YangTypes.Decimal.Rounding
import YangTypes.Name.Basic
import YangTypes.Pattern.Basic
import YangTypes.Text.Base64
import YangTypes.TypeDef.Kind

/-!
Facets: what a type that is not a union asks of a text.
-/

namespace YangTypes

/-- Whether a definition is still in use. -/
inductive Status where
  | current
  | deprecated
  | obsolete
deriving DecidableEq, Repr

namespace Status

/-- Every status. -/
def all : List Status := [current, deprecated, obsolete]

/-- The argument that stands for a status. -/
def name : Status → String
  | current => "current"
  | deprecated => "deprecated"
  | obsolete => "obsolete"

/-- The status with a name. -/
def ofName? (name : String) : Option Status := all.find? fun status => status.name == name

end Status

/-- What a bit or an enum declares about itself. -/
structure MemberDoc where
  description : Option String
  reference : Option String
  status : Status
deriving DecidableEq, Repr

/-- A member that declares nothing about itself. -/
def MemberDoc.none : MemberDoc := ⟨.none, .none, .current⟩

/-- A bit with its position, or an enum with its value. -/
structure Member where
  name : String
  value : Int
  doc : MemberDoc
deriving DecidableEq, Repr

/-- What a type that is not a union asks of a text, with all restrictions of its ancestors. -/
inductive Facets where
  /-- The lengths count bytes. -/
  | binary (lengths : List Constraint)
  | bits (members : List Member)
  | boolean
  | decimal64 (fractionDigits : Nat) (ranges : List Constraint)
  | empty
  | enumeration (members : List Member)
  | identityref (identities : List QualifiedName)
  | instanceIdentifier (requireInstance : Bool)
  | integer (kind : IntegerKind) (ranges : List Constraint)
  | leafref (path : String) (requireInstance : Bool)
  /-- The lengths count characters. -/
  | string (lengths : List Constraint) (patterns : List Pattern)
deriving DecidableEq

namespace Facets

/-- The built-in type. -/
def kind : Facets → Kind
  | binary .. => .binary
  | bits .. => .bits
  | boolean => .boolean
  | decimal64 .. => .decimal64
  | empty => .empty
  | enumeration .. => .enumeration
  | identityref .. => .identityref
  | instanceIdentifier .. => .instanceIdentifier
  | integer kind _ => .integer kind
  | leafref .. => .leafref
  | string .. => .string

end Facets

/-- Checks names of bits in turn: each is a member, and none is among those before it. -/
def checkBits (members : List Member) (seen : List String) : List String → Except Violation Unit
  | [] => .ok ()
  | name :: names =>
    if members.all fun m => m.name != name then
      .error (.ofMessage ("'" ++ name ++ "' is not a bit of this type"))
    else if seen.contains name then
      .error (.ofMessage ("bit '" ++ name ++ "' is set more than once"))
    else checkBits members (name :: seen) names

/-- Reads a decimal with a number of fraction digits, without rounding. -/
def parseDecimal (fractionDigits : Nat) (text : String) : Except Violation Decimal := do
  let d ← Decimal.parse text
  (d.scaleTo fractionDigits .unnecessary).mapError fun e => .ofMessage e.message

/-- What types leave to others when they check a text. -/
structure Engine where
  /-- Whether a text matches the expression of a pattern. -/
  isMatch : Pattern → String → Bool
  /-- The bytes that characters stand for. -/
  decode? : List Char → Option (List UInt8)

/-- The engine in use. -/
def Engine.standard : Engine := ⟨Pattern.isMatch, Text.Base64.decode?⟩

/-- Checks a text against patterns; the first one that does not accept it reports. -/
def checkPatterns (engine : Engine) (text : String) : List Pattern → Except Violation Unit
  | [] => .ok ()
  | p :: ps => do
    p.check text engine.isMatch
    checkPatterns engine text ps

/-- Checks a text. The target of a reference is not looked up, only its form is checked. -/
def Facets.check (text : String) (facets : Facets) (engine : Engine := .standard) :
    Except Violation Unit :=
  match facets with
  | binary lengths =>
    match engine.decode? (Text.trimChars text.toList) with
    | none => .error (.ofMessage "invalid base64 value: not in canonical form")
    | some bytes => Constraint.check lengths (.integer bytes.length)
  | bits members => checkBits members [] (Text.words text)
  | boolean =>
    if text = "true" ∨ text = "false" then .ok ()
    else .error (.ofMessage ("'" ++ text ++ "' is not a valid boolean"))
  | decimal64 fractionDigits ranges => do
    let d ← parseDecimal fractionDigits text
    Constraint.check ranges (.decimal d)
  | empty => .error (.ofMessage "empty type does not have a value")
  | enumeration members =>
    if members.any fun m => m.name == text then .ok ()
    else .error (.ofMessage ("'" ++ text ++ "' is not an enum of this type"))
  | identityref _ => ((SchemaName.parse text).mapError ValueError.toViolation).map fun _ => ()
  | instanceIdentifier _ =>
    if text.toList.head? = some '/' then .ok ()
    else .error (.ofMessage ("'" ++ text ++ "' is not an absolute instance identifier"))
  | integer kind ranges => do
    let n ← kind.parse text
    Constraint.check ranges (.integer n)
  | leafref .. => .ok ()
  | string lengths patterns => do
    Constraint.check lengths (.integer text.length)
    checkPatterns engine text patterns

end YangTypes
