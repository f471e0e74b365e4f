import YangTypes.Json.Record
import YangTypes.TypeDef.Summary

/-!
What declarations say about themselves, as JSON.
-/

namespace YangTypes

open Json (Value Tree ReadError Record)

/-- The names of the fields of what a restriction says about itself. -/
def RestrictionDoc.fieldNames : List String :=
  ["description", "reference", "error-app-tag", "error-message"]

/-- What a restriction says about itself, in a record. -/
def RestrictionDoc.ofRecord (r : Record) : Except ReadError RestrictionDoc := do
  return ⟨← r.text? "description", ← r.text? "reference", ← r.text? "error-app-tag",
    ← r.text? "error-message"⟩

/-- Reads what a restriction says about itself. -/
def RestrictionDoc.ofJson (tree : Tree) : Except ReadError RestrictionDoc := do
  ofRecord (← Record.ofTree fieldNames false tree)

/-- What a restriction says about itself, as JSON. -/
def RestrictionDoc.toJson (doc : RestrictionDoc) : Value :=
  .object (Value.optionalString "description" doc.description ++
    Value.optionalString "reference" doc.reference ++
    Value.optionalString "error-app-tag" doc.errorAppTag ++
    Value.optionalString "error-message" doc.errorMessage)

/-- Reads a status. -/
def Status.ofJson (lenient : Bool) : Tree → Except ReadError Status :=
  Tree.asChoice lenient Status.ofName?

/-- The names of the fields of what a member says about itself. -/
def MemberDoc.fieldNames : List String := ["description", "reference", "status"]

/-- What a member says about itself, in a record. -/
def MemberDoc.ofRecord (lenient : Bool) (r : Record) : Except ReadError MemberDoc := do
  return ⟨← r.text? "description", ← r.text? "reference",
    ← r.defaulted "status" .current (Status.ofJson lenient)⟩

/-- Reads what a member says about itself. -/
def MemberDoc.ofJson (tree : Tree) : Except ReadError MemberDoc := do
  ofRecord false (← Record.ofTree fieldNames false tree)

/-- What a member says about itself, as JSON. -/
def MemberDoc.toJson (doc : MemberDoc) : Value := .object doc.fields

end YangTypes
