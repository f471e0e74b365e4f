import YangTypes.Derivation.Build
import YangTypes.Document.Basic

/-!
Deriving the typedefs of a document.

They are derived in order, and each may refer to built-in types and to those before it. A prefix of
a type name is not looked at: every name belongs to the document.
-/

namespace YangTypes

open Json (ReadError)

/-- Why the typedefs of a document cannot be derived. -/
inductive DocumentError where
  | json (error : ReadError)
  | invalidName (error : ValueError)
  | unknownType (typedef name : String)
  | duplicateTypedef (typedef : String)
  /-- The name is the keyword of a built-in type. -/
  | reservedName (typedef : String)
  /-- A member is a built-in type that needs an argument. -/
  | incompleteMember (typedef name : String)
  | restriction (typedef : String) (keyword : BoundKeyword) (argument : String) (report : Violation)
  | type (typedef : String) (error : TypeError)
  /-- The typedef that was asked for is not there. -/
  | notDeclared (typedef : String)
deriving DecidableEq

/-- The wording of an error. -/
def DocumentError.message : DocumentError → String
  | json error => "Invalid typedef document: " ++ error.message
  | invalidName error => "Invalid name: " ++ error.message
  | unknownType typedef name => "typedef " ++ typedef ++ ": unknown type '" ++ name ++ "'"
  | duplicateTypedef typedef => "typedef " ++ typedef ++ " is declared more than once"
  | reservedName typedef => "typedef " ++ typedef ++ " shadows a built-in type"
  | incompleteMember typedef name =>
    "typedef " ++ typedef ++ ": member type " ++ name ++ " cannot be used without restrictions"
  | restriction typedef keyword argument report =>
    "typedef " ++ typedef ++ ": invalid " ++ keyword.name ++ " '" ++ argument ++ "': " ++
      report.text
  | type typedef error => "typedef " ++ typedef ++ ": " ++ error.message
  | notDeclared typedef => "typedef " ++ typedef ++ " is not declared in the document"

/-- Derived typedefs by name, in the order of the document. -/
abbrev Catalogue := List (String × TypeDef)

/-- Where typedefs are derived: the document, its module, and those before them. -/
structure Scope where
  /-- What the document is called in the places of errors. -/
  origin : String
  module : QualifiedName
  types : Catalogue

namespace Scope

/-- What a type name refers to. -/
def lookup (scope : Scope) (typedef name : String) : Except DocumentError DerivationStart :=
  let local_ := Text.afterLast ':' name
  match scope.types.lookup local_ with
  | some t => .ok (.type t)
  | none =>
    match Kind.ofName? local_ with
    | some kind => .ok (.ofKind kind)
    | none => .error (.unknownType typedef name)

/-- A member of a union. -/
def member (scope : Scope) (typedef name : String) : Except DocumentError TypeDef := do
  match ← scope.lookup typedef name with
  | .type t => return t
  | .root _ => throw (.incompleteMember typedef name)

/-- A declared range or length. -/
def bounds (typedef : String) (keyword : BoundKeyword) (decl : RestrictionDecl) :
    Except DocumentError BoundsDecl :=
  match BoundPair.parseList decl.argument with
  | .ok parts => .ok ⟨parts, decl.doc⟩
  | .error report => .error (.restriction typedef keyword decl.argument report)

/-- A base identity; every prefix stands for the module of the document. -/
def identity (scope : Scope) (typedef text : String) : Except DocumentError QualifiedName := do
  let name ← (SchemaName.parse text).mapError .invalidName
  match name.resolve fun _ => some scope.module with
  | some q => return q
  | none => throw (.unknownType typedef text)

/-- What a typedef declares, in the order in which faults are found. -/
def declarations (scope : Scope) (decl : TypedefDecl) :
    Except DocumentError (List Declaration) := do
  let range ← decl.range.toList.mapM (bounds decl.name .range)
  let length ← decl.length.toList.mapM (bounds decl.name .length)
  let bases ← decl.bases.mapM (scope.identity decl.name)
  let members ← decl.members.mapM (scope.member decl.name)
  return decl.fractionDigits.toList.map .fractionDigits ++ range.map .range ++ length.map .length ++
    decl.patterns.map .pattern ++ bases.map .base ++ decl.path.toList.map .path ++
    decl.requireInstance.toList.map .requireInstance ++ decl.bits.map .bit ++
    decl.enums.map .enum ++ members.map .type ++ decl.description.toList.map .description ++
    decl.reference.toList.map .reference ++ decl.status.toList.map .status ++
    decl.units.toList.map .units ++ decl.defaultValue.toList.map .default

/-- A declaration with its place: the document, the typedef and the keyword. -/
def statement (scope : Scope) (typedef : String) (d : Declaration) : Statement :=
  ⟨d, scope.origin ++ ":" ++ typedef ++ "/" ++ d.keyword.name⟩

/-- Derives a typedef. -/
def derive (scope : Scope) (options : DerivationOptions) (decl : TypedefDecl) :
    Except DocumentError TypeDef := do
  if (Kind.ofName? decl.name).isSome then throw (.reservedName decl.name)
  if (scope.types.lookup decl.name).isSome then throw (.duplicateTypedef decl.name)
  let name ← (Identifier.parse decl.name).mapError .invalidName
  let start ← scope.lookup decl.name decl.type
  let declarations ← scope.declarations decl
  let derivation : Derivation :=
    ⟨start, declarations.map (scope.statement decl.name),
      SchemaPath.root.push (scope.module.bind name), options⟩
  (derivation.build 0).mapError (.type decl.name)

/-- Derives typedefs in order. -/
def deriveAll (scope : Scope) (options : DerivationOptions) :
    List TypedefDecl → Except DocumentError Catalogue
  | [] => .ok scope.types
  | decl :: decls => do
    let t ← scope.derive options decl
    deriveAll { scope with types := scope.types ++ [(decl.name, t)] } options decls

end Scope

/-- Derives the typedefs of a document. -/
def Document.derive (document : Document) (origin : String) (options : DerivationOptions) :
    Except DocumentError Catalogue := do
  let decl := document.module
  let module ← (QualifiedName.create decl.space decl.revision decl.name).mapError .invalidName
  Scope.deriveAll ⟨origin, module, []⟩ options document.typedefs

/-- Reads a document and derives its typedefs. -/
def deriveDocument (text origin : String) (options : DerivationOptions) :
    Except DocumentError Catalogue := do
  let document ← (Document.parse text).mapError .json
  document.derive origin options

end YangTypes
