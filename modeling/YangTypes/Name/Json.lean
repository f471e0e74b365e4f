import YangTypes.Json.Record
import YangTypes.Json.Value
import YangTypes.Name.Basic

/-!
Names and reports as JSON.
-/

namespace YangTypes

open Json (Value Tree ReadError Record)

/-! ### Writing -/

/-- The fields of a qualified name. -/
def QualifiedName.fields (q : QualifiedName) : List (String × Value) :=
  [("namespace", .string q.space.text)] ++
    Value.optionalString "revision" (q.revision.map Revision.text) ++
    [("local_name", .string q.name.text)]

/-- A qualified name as JSON. -/
def QualifiedName.toJson (q : QualifiedName) : Value := .object q.fields

/-- A schema name as JSON; a field tells which kind it is. -/
def SchemaName.toJson : SchemaName → Value
  | resolved name => .object (("kind", .string "resolved") :: name.fields)
  | qualified qualifier name =>
    .object [("kind", .string "qualified"), ("prefix", .string qualifier.text),
      ("local_name", .string name.text)]
  | unqualified name => .object [("kind", .string "unqualified"), ("local_name", .string name.text)]

/-- A report as JSON. -/
def Violation.toJson (v : Violation) : Value :=
  .object (Value.optionalString "app_tag" v.appTag ++ Value.optionalString "message" v.message)

/-! ### Reading -/

/-- Reads an identifier. -/
def Identifier.ofJson : Tree → Except ReadError Identifier := Tree.asWritten Identifier.parse

/-- Reads a revision. -/
def Revision.ofJson : Tree → Except ReadError Revision := Tree.asWritten Revision.parse

/-- Reads a namespace. -/
def Namespace.ofJson : Tree → Except ReadError Namespace := Tree.asWritten Namespace.parse

/-- The names of the fields of a qualified name. -/
def QualifiedName.fieldNames : List String := ["namespace", "revision", "local_name"]

/-- The qualified name in a record. -/
def QualifiedName.ofRecord (r : Record) : Except ReadError QualifiedName := do
  return ⟨← r.required "namespace" Namespace.ofJson, ← r.optional "revision" Revision.ofJson,
    ← r.required "local_name" Identifier.ofJson⟩

/-- Reads a qualified name. -/
def QualifiedName.ofJson (tree : Tree) : Except ReadError QualifiedName := do
  ofRecord (← Record.ofTree fieldNames false tree)

/-- Reads a schema name of a kind from the rest of its record. -/
def SchemaName.ofKind (kind : String) (rest : Tree) : Except ReadError SchemaName :=
  match kind with
  | "resolved" => (QualifiedName.ofJson rest).map resolved
  | "qualified" => do
    let r ← Record.ofTree ["prefix", "local_name"] false rest
    return .qualified (← r.required "prefix" Identifier.ofJson)
      (← r.required "local_name" Identifier.ofJson)
  | "unqualified" => do
    let r ← Record.ofTree ["local_name"] false rest
    return .unqualified (← r.required "local_name" Identifier.ofJson)
  | other => .error (.invalidValue other)

/-- Reads a schema name. Its kind is a field, or the first item of a list. -/
def SchemaName.ofJson (tree : Tree) : Except ReadError SchemaName := do
  if ¬ tree.isSound then throw .unreadableValue
  match tree with
  | .array (kind :: rest) => ofKind (← kind.asString) (.array rest)
  | .object fields =>
    match fields.filter fun field => field.1 == some "kind" with
    | [] => throw (.missingField "kind")
    | [(_, kind)] =>
      ofKind (← kind.asString) (.object (fields.filter fun field => field.1 != some "kind"))
    | _ => throw (.repeatedField "kind")
  | _ => throw .wrongType

/-- Reads a report. -/
def Violation.ofJson (tree : Tree) : Except ReadError Violation := do
  let r ← Record.ofTree ["app_tag", "message"] false tree
  return ⟨← r.optional "app_tag" Tree.asString, ← r.optional "message" Tree.asString⟩

end YangTypes
