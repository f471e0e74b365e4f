import YangTypes.Derivation.Accumulator
import YangTypes.Derivation.Members
import YangTypes.TypeDef.Builtin

/-!
Derivation: one step from a base, or from a built-in type that needs an argument, to a new type.

The statements that the built-in type does not allow are reported first. Then the body of the type
is narrowed, statement by statement, and at last the default value in force is checked.
-/

namespace YangTypes

/-- Where a derivation starts. -/
inductive DerivationStart where
  | type (base : TypeDef)
  | root (kind : RootKind)

namespace DerivationStart

/-- The start for a built-in type: its definition, if it can be used as it is. -/
def ofKind (kind : Kind) : DerivationStart :=
  match kind.facets? with
  | .ok facets => type (kind.define facets)
  | .error kind => root kind

/-- The built-in type. -/
def kind : DerivationStart → Kind
  | type base => base.kind
  | root kind => kind.toKind

/-- The base, unless the statements make the type. -/
def base? : DerivationStart → Option TypeDef
  | type base => some base
  | root _ => none

end DerivationStart

/-- One step of derivation. -/
structure Derivation where
  start : DerivationStart
  statements : List Statement
  path : SchemaPath
  options : DerivationOptions

/-! ### Bounds -/

/-- The number that an end stands for, with respect to the constraints of the base. -/
def resolveEnd (base : List Constraint) (read : String → Except Violation Number) :
    BoundEnd → Except TypeFault Number
  | .min =>
    match base.head? with
    | some c => .ok c.interval.low
    | none => .error (.invalidBound (.noBase .min))
  | .max =>
    match base.getLast? with
    | some c => .ok c.interval.high
    | none => .error (.invalidBound (.noBase .max))
  | .literal text =>
    match read text with
    | .ok n => .ok n
    | .error report => .error (.invalidBound (.literal text report))

/-- The constraints that parts of an argument stand for. -/
def resolveParts (keyword : BoundKeyword) (base : List Constraint)
    (read : String → Except Violation Number) (doc : RestrictionDoc) :
    List BoundPair → Except TypeFault (List Constraint)
  | [] => .ok []
  | pair :: pairs => do
    let low ← resolveEnd base read pair.low
    let high ← resolveEnd base read pair.high
    return .make keyword ⟨low, high⟩ doc :: (← resolveParts keyword base read doc pairs)

/-- Applies the ranges or the lengths of a step. -/
def applyBounds (keyword : BoundKeyword) (read : String → Except Violation Number)
    (acc : Accumulator) (decls : List (Located BoundsDecl)) : Except TypeError Accumulator :=
  foldLocated
    (fun acc decl => do
      acc.setBounds keyword
        (← resolveParts keyword (acc.base.bounds keyword) read decl.doc decl.parts))
    acc decls

/-- Reads a length. -/
def readLength (text : String) : Except Violation Number :=
  (Unsigned.parse .w64 text).map fun n => .integer n.toInt

/-- Applies the patterns of a step. -/
def applyPatterns (acc : Accumulator) (decls : List (Located PatternDecl)) :
    Except TypeError Accumulator :=
  foldLocated
    (fun acc decl =>
      match Pattern.make decl.regex decl.inverted decl.doc with
      | .ok pattern => .ok (acc.addPattern pattern)
      | .error reason => .error (.invalidPattern decl.regex reason))
    acc decls

/-- Applies the fraction digits of a step. -/
def applyFractionDigits (acc : Accumulator) (decls : List (Located Nat)) :
    Except TypeError Accumulator :=
  foldLocated Accumulator.setFractionDigits acc decls

/-! ### References and unions -/

/-- The only declaration; a second one is reported. -/
def atMostOne {α : Type} (keyword : Keyword) (decls : List (Located α)) :
    Except TypeError (Option (Located α)) :=
  match decls with
  | [] => .ok none
  | [decl] => .ok (some decl)
  | _ :: second :: _ => .error ⟨second.location, .repeated keyword⟩

/-- Whether a target is required, given what is inherited, if anything is. A requirement may not be
given up; where nothing is inherited or declared, there is one. -/
def deriveRequireInstance (inherited : Option Bool) (decls : List (Located Bool)) :
    Except TypeError Bool := do
  match ← atMostOne .requireInstance decls with
  | none => return inherited.getD true
  | some decl =>
    if inherited = some true ∧ ¬ decl.value then throw ⟨decl.location, .requireInstanceRelaxed⟩
    else return decl.value

/-- Checks that members derive from the members of the base in the same places. -/
def checkUnionMembers (index : Nat) :
    List (Located TypeDef) → List TypeDef → Except TypeError Unit
  | decl :: decls, base :: bases =>
    if decl.value.derivesFrom base then checkUnionMembers (index + 1) decls bases
    else
      .error ⟨decl.location,
        .unionMember index (.notDerived decl.value.info.name base.info.name)⟩
  | _, _ => .ok ()

/-- The members of a union that derives from another one. -/
def deriveUnionMembers (base : List TypeDef) (decls : List (Located TypeDef)) :
    Except TypeError (List TypeDef) :=
  match decls with
  | [] => .ok base
  | first :: _ =>
    if decls.length ≠ base.length then
      .error ⟨first.location,
        .unionMember (min decls.length base.length) (.count decls.length base.length)⟩
    else do
      checkUnionMembers 0 decls base
      return decls.map Located.value

namespace Derivation

/-! ### What is declared -/

/-- The declarations of one kind. -/
def declared {α : Type} (d : Derivation) (f : Declaration → Option α) : List (Located α) :=
  Statement.select f d.statements

/-- The last declaration of one kind, which is the one that counts. -/
def lastDeclared? {α : Type} (d : Derivation) (f : Declaration → Option α) : Option (Located α) :=
  (d.declared f).getLast?

/-- The place of the type: that of its first statement, or its path if it has none. -/
def location (d : Derivation) : Location :=
  match d.statements with
  | [] => d.path.text
  | first :: _ => first.location

/-- The first statement that the built-in type does not allow. -/
def unsupported? (d : Derivation) : Option Statement :=
  d.statements.find? fun s => !d.start.kind.allows s.value.keyword

/-! ### The body of a type without a base -/

/-- All decimals with a number of fraction digits. -/
def fullDecimalRange (digits : Nat) : Except ValueError (List Constraint) := do
  let low ← Decimal.least digits
  let high ← Decimal.greatest digits
  return [.make .range ⟨.decimal low, .decimal high⟩ .none]

/-- Reads a decimal bound. -/
def readDecimal (digits : Nat) (text : String) : Except Violation Number :=
  (parseDecimal digits text).map .decimal

/-- The facets of a decimal type that derives from another one. -/
def decimalFacets (d : Derivation) (digits : Nat) (ranges : List Constraint)
    (pending : List (Located Nat)) : Except TypeError Facets := do
  let base := { Restrictions.none with ranges, fractionDigits := some digits }
  let acc := Accumulator.start base d.options
  let acc ← applyFractionDigits acc pending
  let acc ← applyBounds .range (readDecimal digits) acc (d.declared Declaration.range?)
  return .decimal64 (acc.finish.fractionDigits.getD digits) acc.finish.ranges

/-- The facets of a decimal type without a base. -/
def rootDecimalFacets (d : Derivation) : Except TypeError Facets := do
  let decls := d.declared Declaration.fractionDigits?
  match decls with
  | [] => throw ⟨d.location, .missingFractionDigits⟩
  | first :: _ =>
    let acc ← applyFractionDigits (.start .none d.options) decls
    let digits := acc.effectiveDigits.getD first.value
    match fullDecimalRange digits with
    | .error _ => throw ⟨first.location, .invalidFractionDigits digits⟩
    | .ok ranges => d.decimalFacets digits ranges []

/-- The path to the target of a leaf reference, given what is inherited. -/
def targetPath (d : Derivation) (inherited : Option String) : Except TypeError String := do
  match ← atMostOne .path (d.declared Declaration.path?), inherited with
  | some decl, _ => return decl.value
  | none, some path => return path
  | none, none => throw ⟨d.location, .missingPath⟩

/-- The body of a type that the statements of a built-in type make. -/
def rootBody (d : Derivation) : RootKind → Except TypeError (Body TypeDef)
  | .bits => do
    return .simple (.bits (← rootMembers .bit d.location (d.declared Declaration.bit?)))
  | .decimal64 => do return .simple (← d.rootDecimalFacets)
  | .enumeration => do
    return .simple (.enumeration (← rootMembers .enum d.location (d.declared Declaration.enum?)))
  | .identityref =>
    match d.declared Declaration.base? with
    | [] => .error ⟨d.location, .missingBase⟩
    | decls => .ok (.simple (.identityref (decls.map Located.value)))
  | .leafref => do
    let path ← d.targetPath none
    let required ← deriveRequireInstance none (d.declared Declaration.requireInstance?)
    return .simple (.leafref path required)
  | .union =>
    match d.declared Declaration.type? with
    | [] => .error ⟨d.location, .emptyUnion⟩
    | decls => .ok (.union (decls.map Located.value))

/-! ### The body of a derived type -/

/-- The facets of a type that derives from one with given facets. -/
def derivedFacets (d : Derivation) : Facets → Except TypeError Facets
  | .binary lengths => do
    let acc := Accumulator.start { Restrictions.none with lengths } d.options
    let acc ← applyBounds .length readLength acc (d.declared Declaration.length?)
    return .binary acc.finish.lengths
  | .bits members => do
    return .bits (← derivedMembers .bit members (d.declared Declaration.bit?))
  | .boolean => .ok .boolean
  | .decimal64 digits ranges =>
    d.decimalFacets digits ranges (d.declared Declaration.fractionDigits?)
  | .empty => .ok .empty
  | .enumeration members => do
    return .enumeration (← derivedMembers .enum members (d.declared Declaration.enum?))
  | .identityref identities =>
    match d.declared Declaration.base? with
    | [] => .ok (.identityref identities)
    | decls => .ok (.identityref (decls.map Located.value))
  | .instanceIdentifier required => do
    return .instanceIdentifier
      (← deriveRequireInstance required (d.declared Declaration.requireInstance?))
  | .integer kind ranges => do
    let acc := Accumulator.start { Restrictions.none with ranges } d.options
    let read := fun text => (kind.parse text).map Number.integer
    let acc ← applyBounds .range read acc (d.declared Declaration.range?)
    return .integer kind acc.finish.ranges
  | .leafref path required => do
    let path ← d.targetPath path
    return .leafref path
      (← deriveRequireInstance required (d.declared Declaration.requireInstance?))
  | .string lengths patterns => do
    let acc := Accumulator.start { Restrictions.none with lengths, patterns } d.options
    let acc ← applyBounds .length readLength acc (d.declared Declaration.length?)
    let acc ← applyPatterns acc (d.declared Declaration.pattern?)
    return .string acc.finish.lengths acc.finish.patterns

/-- The body of a type that derives from one with a given body. -/
def derivedBody (d : Derivation) : Body TypeDef → Except TypeError (Body TypeDef)
  | .simple facets => (d.derivedFacets facets).map .simple
  | .union members =>
    (deriveUnionMembers members (d.declared Declaration.type?)).map .union

/-- The body of the new type. -/
def body (d : Derivation) : Except TypeError (Body TypeDef) :=
  match d.start with
  | .type base => d.derivedBody base.body
  | .root kind => d.rootBody kind

/-! ### The new type -/

/-- A text in force: the last one declared, or the one of the base. -/
def inherit (d : Derivation) (f : Declaration → Option String) (g : TypeInfo → Option String) :
    Option String :=
  (d.lastDeclared? f).map Located.value <|> d.start.base?.bind fun base => g base.info

/-- What the new type says about itself. -/
def info (mark : Nat) (d : Derivation) : TypeInfo where
  mark := mark
  name :=
    (d.path.last? <|> d.start.base?.map fun base => base.info.name).getD d.start.kind.qualifiedName
  path := d.path
  description := d.inherit Declaration.description? TypeInfo.description
  reference := d.inherit Declaration.reference? TypeInfo.reference
  status :=
    ((d.lastDeclared? Declaration.status?).map Located.value <|>
      d.start.base?.map fun base => base.info.status).getD .current
  units := d.inherit Declaration.units? TypeInfo.units
  defaultValue := d.inherit Declaration.default? TypeInfo.defaultValue

/-- Checks the default value in force. An inherited one is reported at the place of the type. -/
def checkDefault (d : Derivation) (t : TypeDef) (engine : Engine := .standard) :
    Except TypeError Unit :=
  match t.info.defaultValue with
  | none => .ok ()
  | some value =>
    match t.check value engine with
    | .ok () => .ok ()
    | .error report =>
      let location := ((d.lastDeclared? Declaration.default?).map Located.location).getD d.location
      .error ⟨location, .invalidDefault value report⟩

/-- Builds the new type, with a mark. -/
def build (d : Derivation) (mark : Nat) (engine : Engine := .standard) :
    Except TypeError TypeDef := do
  match d.unsupported? with
  | some s => throw ⟨s.location, .unsupported s.value.keyword d.start.kind⟩
  | none =>
    let t : TypeDef := ⟨d.info mark, d.start.base?, ← d.body⟩
    d.checkDefault t engine
    return t

end Derivation

end YangTypes
