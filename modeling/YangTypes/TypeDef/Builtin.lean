import YangTypes.TypeDef.Basic

/-!
The built-in types that can be used as they are.
-/

namespace YangTypes

/-- The namespace of the built-in types. -/
def builtinNamespace : Namespace := ⟨"urn:ietf:params:xml:ns:yang:1", by decide +kernel⟩

/-- Every keyword of a built-in type is an identifier. -/
theorem Kind.name_isIdentifier (kind : Kind) : Name.isIdentifier kind.name.toList = true := by
  cases kind with
  | integer kind => cases kind <;> rename_i w <;> cases w <;> decide +kernel
  | _ => decide +kernel

/-- The qualified name of a built-in type. -/
def Kind.qualifiedName (kind : Kind) : QualifiedName :=
  ⟨builtinNamespace, none, ⟨kind.name, kind.name_isIdentifier⟩⟩

/-- All lengths: the numbers of 64 bits. -/
def fullLength : List Constraint :=
  [.make .length ⟨.integer 0, .integer (Width.maxValue .w64)⟩ .none]

/-- All values of an integer type. -/
def IntegerKind.fullRange (kind : IntegerKind) : List Constraint :=
  [.make .range ⟨.integer kind.low, .integer kind.high⟩ .none]

/-- The facets of a built-in type without restrictions, unless it needs an argument. -/
def Kind.facets? : Kind → Except RootKind Facets
  | .binary => .ok (.binary fullLength)
  | .boolean => .ok .boolean
  | .empty => .ok .empty
  | .instanceIdentifier => .ok (.instanceIdentifier false)
  | .integer kind => .ok (.integer kind kind.fullRange)
  | .string => .ok (.string fullLength [])
  | .bits => .error .bits
  | .decimal64 => .error .decimal64
  | .enumeration => .error .enumeration
  | .identityref => .error .identityref
  | .leafref => .error .leafref
  | .union => .error .union

/-- The definition of a built-in type with given facets. -/
def Kind.define (kind : Kind) (facets : Facets) : TypeDef :=
  let name := kind.qualifiedName
  ⟨⟨0, name, SchemaPath.root.push name, none, none, .current, none, none⟩, none, .simple facets⟩

/-- The definition of a built-in type, unless it needs an argument. -/
def TypeDef.builtin? (kind : Kind) : Option TypeDef :=
  match kind.facets? with
  | .ok facets => some (kind.define facets)
  | .error _ => none

end YangTypes
