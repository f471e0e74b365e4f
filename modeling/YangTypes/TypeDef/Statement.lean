import YangTypes.Bound.Argument
import YangTypes.TypeDef.Basic

/-!
Statements: what is declared about a type, and where.
-/

namespace YangTypes

/-- The place of a declaration, as its author wrote it. -/
abbrev Location := String

/-- The keywords of statements. -/
inductive Keyword where
  | range
  | length
  | pattern
  | fractionDigits
  | base
  | path
  | requireInstance
  | bit
  | enum
  | type
  | description
  | reference
  | status
  | units
  | default
deriving DecidableEq, Repr

namespace Keyword

/-- The text of a keyword. -/
def name : Keyword → String
  | range => "range"
  | length => "length"
  | pattern => "pattern"
  | fractionDigits => "fraction-digits"
  | base => "base"
  | path => "path"
  | requireInstance => "require-instance"
  | bit => "bit"
  | enum => "enum"
  | type => "type"
  | description => "description"
  | reference => "reference"
  | status => "status"
  | units => "units"
  | default => "default"

end Keyword

/-- The keyword of a statement that restricts numbers. -/
def BoundKeyword.toKeyword : BoundKeyword → Keyword
  | range => .range
  | length => .length

/-- Whether a statement can be applied to a built-in type. What only describes a type can be
applied to all. -/
def Kind.allows (kind : Kind) : Keyword → Bool
  | .range => match kind with
    | .integer _ | .decimal64 => true
    | _ => false
  | .length => kind == .string || kind == .binary
  | .pattern => kind == .string
  | .fractionDigits => kind == .decimal64
  | .base => kind == .identityref
  | .path => kind == .leafref
  | .requireInstance => kind == .leafref || kind == .instanceIdentifier
  | .bit => kind == .bits
  | .enum => kind == .enumeration
  | .type => kind == .union
  | .description | .reference | .status | .units | .default => true

/-- A declared restriction of numbers. -/
structure BoundsDecl where
  parts : List BoundPair
  doc : RestrictionDoc
deriving DecidableEq, Repr

/-- A declared pattern. -/
structure PatternDecl where
  regex : String
  inverted : Bool
  doc : RestrictionDoc
deriving DecidableEq, Repr

/-- A declared bit or enum, perhaps with its position or value. -/
structure MemberDecl where
  name : String
  value : Option Int
  doc : MemberDoc
deriving DecidableEq, Repr

/-- What a statement declares. -/
inductive Declaration where
  | range (bounds : BoundsDecl)
  | length (bounds : BoundsDecl)
  | pattern (pattern : PatternDecl)
  | fractionDigits (digits : Nat)
  | base (identity : QualifiedName)
  | path (path : String)
  | requireInstance (required : Bool)
  | bit (member : MemberDecl)
  | enum (member : MemberDecl)
  | type (member : TypeDef)
  | description (text : String)
  | reference (text : String)
  | status (status : Status)
  | units (text : String)
  | default (value : String)
deriving DecidableEq

/-- The keyword of a declaration. -/
def Declaration.keyword : Declaration → Keyword
  | range _ => .range
  | length _ => .length
  | pattern _ => .pattern
  | fractionDigits _ => .fractionDigits
  | base _ => .base
  | path _ => .path
  | requireInstance _ => .requireInstance
  | bit _ => .bit
  | enum _ => .enum
  | type _ => .type
  | description _ => .description
  | reference _ => .reference
  | status _ => .status
  | units _ => .units
  | default _ => .default

/-- Something with the place where it was declared. -/
structure Located (α : Type) where
  value : α
  location : Location
deriving DecidableEq

/-- A statement. -/
abbrev Statement := Located Declaration

/-- The statements of one kind, in order. -/
def Statement.select {α : Type} (f : Declaration → Option α) (statements : List Statement) :
    List (Located α) :=
  statements.filterMap fun s => (f s.value).map fun a => ⟨a, s.location⟩

namespace Declaration

/-- A declared range. -/
def range? : Declaration → Option BoundsDecl
  | range bounds => some bounds
  | _ => none

/-- A declared length. -/
def length? : Declaration → Option BoundsDecl
  | length bounds => some bounds
  | _ => none

/-- A declared pattern. -/
def pattern? : Declaration → Option PatternDecl
  | pattern p => some p
  | _ => none

/-- Declared fraction digits. -/
def fractionDigits? : Declaration → Option Nat
  | fractionDigits digits => some digits
  | _ => none

/-- A declared base identity. -/
def base? : Declaration → Option QualifiedName
  | base identity => some identity
  | _ => none

/-- A declared path to a target. -/
def path? : Declaration → Option String
  | path p => some p
  | _ => none

/-- Whether a target is declared to be required. -/
def requireInstance? : Declaration → Option Bool
  | requireInstance required => some required
  | _ => none

/-- A declared bit. -/
def bit? : Declaration → Option MemberDecl
  | bit member => some member
  | _ => none

/-- A declared enum. -/
def enum? : Declaration → Option MemberDecl
  | enum member => some member
  | _ => none

/-- A declared member type. -/
def type? : Declaration → Option TypeDef
  | type member => some member
  | _ => none

/-- A declared description. -/
def description? : Declaration → Option String
  | description text => some text
  | _ => none

/-- A declared reference. -/
def reference? : Declaration → Option String
  | reference text => some text
  | _ => none

/-- A declared status. -/
def status? : Declaration → Option Status
  | status s => some s
  | _ => none

/-- Declared units. -/
def units? : Declaration → Option String
  | units text => some text
  | _ => none

/-- A declared default value. -/
def default? : Declaration → Option String
  | default value => some value
  | _ => none

end Declaration

end YangTypes
