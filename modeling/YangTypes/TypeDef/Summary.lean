import YangTypes.Json.Value
import YangTypes.TypeDef.Basic

/-!
Summaries of type definitions, as JSON and as rows of a table.
-/

namespace YangTypes

/-- What is in force for a type, flattened. -/
structure Summary where
  name : String
  kind : Kind
  path : String
  base : Option String
  depth : Nat
  description : Option String
  reference : Option String
  status : Status
  units : Option String
  defaultValue : Option String
  fractionDigits : Option Nat
  ranges : List Constraint
  lengths : List Constraint
  patterns : List Pattern
  requireInstance : Option Bool
  targetPath : Option String
  identities : List String
  bits : List Member
  enums : List Member
  members : List String
deriving DecidableEq

/-- The summary of a definition. -/
def TypeDef.summary (t : TypeDef) : Summary where
  name := t.info.name.text
  kind := t.kind
  path := t.info.path.text
  base := t.base.map fun base => base.info.name.text
  depth := t.depth
  description := t.info.description
  reference := t.info.reference
  status := t.info.status
  units := t.info.units
  defaultValue := t.info.defaultValue
  fractionDigits := t.fractionDigits?
  ranges := t.ranges
  lengths := t.lengths
  patterns := t.patterns
  requireInstance := t.requireInstance?
  targetPath := t.targetPath?
  identities := t.identities.map QualifiedName.text
  bits := t.bits
  enums := t.enums
  members := t.members.map fun member => member.info.name.text

/-! ### JSON -/

open Json (Value)

/-- The fields of what is reported about a constraint. -/
def ConstraintDoc.fields (doc : ConstraintDoc) : List (String × Value) :=
  Value.optionalString "description" doc.description ++
    Value.optionalString "reference" doc.reference ++
    [("error_app_tag", .string doc.errorAppTag), ("error_message", .string doc.errorMessage)]

/-- A constraint as JSON. -/
def Constraint.toJson (c : Constraint) : Value :=
  .object ([("min", .string c.interval.low.text), ("max", .string c.interval.high.text)] ++
    c.doc.fields)

/-- A pattern as JSON. -/
def Pattern.toJson (p : Pattern) : Value :=
  let inverted := if p.inverted then [("inverted", .bool true)] else []
  .object ([("regex", .string p.regex)] ++ inverted ++ p.doc.fields)

/-- The fields of what is known about a member. -/
def MemberDoc.fields (doc : MemberDoc) : List (String × Value) :=
  Value.optionalString "description" doc.description ++
    Value.optionalString "reference" doc.reference ++ [("status", .string doc.status.name)]

/-- A member as JSON, with the word for its number. -/
def Member.toJson (valueName : String) (m : Member) : Value :=
  .object ([("name", .string m.name), (valueName, .integer m.value)] ++ m.doc.fields)

/-- A summary as JSON; what is missing or empty is left out. -/
def Summary.toJson (s : Summary) : Value :=
  .object <|
    [("name", .string s.name), ("kind", .string s.kind.name), ("path", .string s.path)] ++
    Value.optionalString "base" s.base ++
    [("depth", .integer s.depth)] ++
    Value.optionalString "description" s.description ++
    Value.optionalString "reference" s.reference ++
    [("status", .string s.status.name)] ++
    Value.optionalString "units" s.units ++
    Value.optionalString "default" s.defaultValue ++
    Value.optional "fraction_digits" (s.fractionDigits.map fun digits => .integer digits) ++
    Value.nonempty "ranges" (s.ranges.map Constraint.toJson) ++
    Value.nonempty "lengths" (s.lengths.map Constraint.toJson) ++
    Value.nonempty "patterns" (s.patterns.map Pattern.toJson) ++
    Value.optional "require_instance" (s.requireInstance.map .bool) ++
    Value.optionalString "path_expression" s.targetPath ++
    Value.nonempty "identities" (s.identities.map .string) ++
    Value.nonempty "bits" (s.bits.map (Member.toJson "position")) ++
    Value.nonempty "enums" (s.enums.map (Member.toJson "value")) ++
    Value.nonempty "members" (s.members.map .string)

/-! ### Rows -/

/-- A text cut to a number of characters, with dots where something is missing. -/
def Text.truncate (width : Nat) (text : String) : String :=
  if text.length ≤ width then text else String.ofList (text.toList.take (width - 3)) ++ "..."

namespace Summary

/-- One line of a table with four columns. -/
def tableLine (name kind base constraints : String) : String :=
  Text.padRight 24 name ++ " " ++ Text.padRight 20 kind ++ " " ++ Text.padRight 20 base ++ " " ++
    constraints

/-- The first lines of a table. -/
def tableHeader : List String :=
  [tableLine "NAME" "KIND" "BASE" "CONSTRAINTS", String.ofList (List.replicate 90 '-')]

/-- A list with a keyword before it, unless it is empty. -/
def keywordList (keyword separator : String) (items : List String) : List String :=
  if items.isEmpty then [] else [keyword ++ " " ++ separator.intercalate items]

/-- The restrictions in a row. -/
def restrictions (s : Summary) : List String :=
  (s.fractionDigits.map fun digits => "fraction-digits " ++ toString digits).toList ++
  keywordList "range" " | " (s.ranges.map fun c => c.interval.text) ++
  keywordList "length" " | " (s.lengths.map fun c => c.interval.text) ++
  (s.patterns.map fun p => "pattern " ++ p.regex) ++
  keywordList "enum" "," (s.enums.map Member.name) ++
  keywordList "bit" "," (s.bits.map Member.name) ++
  keywordList "type" "," (s.members.map QualifiedName.localText) ++
  (s.targetPath.map fun path => "path " ++ path).toList ++
  (s.requireInstance.map fun required => "require-instance " ++ toString required).toList ++
  (s.defaultValue.map fun value => "default " ++ value).toList

/-- A row of the table. -/
def row (s : Summary) : String :=
  let constraints := if s.restrictions.isEmpty then "-" else "; ".intercalate s.restrictions
  tableLine (Text.truncate 24 (QualifiedName.localText s.name)) s.kind.name
    (Text.truncate 20 ((s.base.map QualifiedName.localText).getD "-")) constraints

end Summary

end YangTypes
