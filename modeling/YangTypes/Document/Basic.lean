import YangTypes.TypeDef.Json
import YangTypes.TypeDef.Statement

/-!
Documents: a module and its typedefs, written as JSON.
-/

namespace YangTypes

open Json (Tree ReadError Record)

/-- The module of a document. -/
structure ModuleDecl where
  name : String
  space : String
  revision : Option String
deriving DecidableEq, Repr

/-- A declared `range` or `length`: its argument and what it says about itself. -/
structure RestrictionDecl where
  argument : String
  doc : RestrictionDoc
deriving DecidableEq, Repr

/-- A declared typedef. -/
structure TypedefDecl where
  name : String
  type : String
  range : Option RestrictionDecl
  length : Option RestrictionDecl
  patterns : List PatternDecl
  fractionDigits : Option Nat
  bases : List String
  path : Option String
  requireInstance : Option Bool
  bits : List MemberDecl
  enums : List MemberDecl
  members : List String
  description : Option String
  reference : Option String
  status : Option Status
  units : Option String
  defaultValue : Option String
deriving DecidableEq, Repr

/-- A document. -/
structure Document where
  module : ModuleDecl
  typedefs : List TypedefDecl
deriving DecidableEq, Repr

/-! ### Reading -/

/-- Reads a module. -/
def ModuleDecl.ofJson (tree : Tree) : Except ReadError ModuleDecl := do
  let r ← Record.ofTree ["name", "namespace", "revision"] true tree
  return ⟨← r.required "name" Tree.asString, ← r.required "namespace" Tree.asString,
    ← r.text? "revision"⟩

/-- Reads a restriction: its argument, or an object with more. -/
def RestrictionDecl.ofJson : Tree → Except ReadError RestrictionDecl
  | .string (some argument) => .ok ⟨argument, .none⟩
  | tree => do
    let r ← Record.ofObject ("value" :: RestrictionDoc.fieldNames) false tree
    return ⟨← r.required "value" Tree.asString, ← RestrictionDoc.ofRecord r⟩

/-- Reads a pattern: its expression, or an object with more. -/
def PatternDecl.ofJson : Tree → Except ReadError PatternDecl
  | .string (some regex) => .ok ⟨regex, false, .none⟩
  | tree => do
    let r ← Record.ofObject ("regex" :: "invert-match" :: RestrictionDoc.fieldNames) false tree
    return ⟨← r.required "regex" Tree.asString, ← r.defaulted "invert-match" false Tree.asBool,
      ← RestrictionDoc.ofRecord r⟩

/-- Reads a bit or an enum, whose number is a field of the given name and has to be in range. -/
def MemberDecl.ofJson (valueName : String) (low high : Int) (tree : Tree) :
    Except ReadError MemberDecl := do
  let r ← Record.ofObject ("name" :: valueName :: MemberDoc.fieldNames) false tree
  let value ← r.defaulted valueName none (Tree.asOption (Tree.asInteger low high))
  return ⟨← r.required "name" Tree.asString, value, ← MemberDoc.ofRecord true r⟩

/-- Reads a bit. -/
def MemberDecl.bitOfJson : Tree → Except ReadError MemberDecl := ofJson "position" 0 4294967295

/-- Reads an enum. -/
def MemberDecl.enumOfJson : Tree → Except ReadError MemberDecl :=
  ofJson "value" (-2147483648) 2147483647

/-- Reads a typedef. -/
def TypedefDecl.ofJson (tree : Tree) : Except ReadError TypedefDecl := do
  let r ← Record.ofTree
    ["name", "type", "range", "length", "patterns", "fraction-digits", "bases", "path",
      "require-instance", "bits", "enums", "members", "description", "reference", "status", "units",
      "default"] true tree
  let digits ← r.defaulted "fraction-digits" none (Tree.asOption (Tree.asInteger 0 255))
  return {
    name := ← r.required "name" Tree.asString
    type := ← r.required "type" Tree.asString
    range := ← r.defaulted "range" none (Tree.asOption RestrictionDecl.ofJson)
    length := ← r.defaulted "length" none (Tree.asOption RestrictionDecl.ofJson)
    patterns := ← r.defaulted "patterns" [] (Tree.asList PatternDecl.ofJson)
    fractionDigits := digits.map Int.toNat
    bases := ← r.defaulted "bases" [] (Tree.asList Tree.asString)
    path := ← r.text? "path"
    requireInstance := ← r.defaulted "require-instance" none (Tree.asOption Tree.asBool)
    bits := ← r.defaulted "bits" [] (Tree.asList MemberDecl.bitOfJson)
    enums := ← r.defaulted "enums" [] (Tree.asList MemberDecl.enumOfJson)
    members := ← r.defaulted "members" [] (Tree.asList Tree.asString)
    description := ← r.text? "description"
    reference := ← r.text? "reference"
    status := ← r.defaulted "status" none (Tree.asOption (Status.ofJson false))
    units := ← r.text? "units"
    defaultValue := ← r.text? "default" }

/-- Reads a document. -/
def Document.ofJson (tree : Tree) : Except ReadError Document := do
  if ¬ tree.isSound then throw .unreadableValue
  let r ← Record.ofTree ["module", "typedefs"] true tree
  return ⟨← r.required "module" ModuleDecl.ofJson,
    ← r.defaulted "typedefs" [] (Tree.asList TypedefDecl.ofJson)⟩

/-- Reads the text of a document. -/
def Document.parse (text : String) : Except ReadError Document := do
  ofJson (← Tree.parse text)

end YangTypes
