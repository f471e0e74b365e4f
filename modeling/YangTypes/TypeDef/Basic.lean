import YangTypes.Schema.Path
import YangTypes.TypeDef.Facets

/-!
Type definitions.

A definition is a built-in type, a type made by the statements of a built-in type that needs some,
or one step of derivation on top of its base. It holds everything that is in force for it, so its
ancestors are not needed to check a text; they are kept because a definition derives from each of
them.

Definitions that agree in every field are one definition. Where the same statements may be built
twice and the results have to be told apart, they get different marks.
-/

namespace YangTypes

/-- What a type consists of: its facets, or the types of which one has to accept a text. -/
inductive Body (τ : Type) where
  | simple (facets : Facets)
  | union (members : List τ)

/-- What a definition says about itself. -/
structure TypeInfo where
  mark : Nat
  name : QualifiedName
  path : SchemaPath
  description : Option String
  reference : Option String
  status : Status
  units : Option String
  defaultValue : Option String
deriving DecidableEq

/-- A type definition; a type without a base is the root of those that derive from it. -/
structure TypeDef where
  info : TypeInfo
  base : Option TypeDef
  body : Body TypeDef

namespace TypeDef

/-! ### Equality -/

mutual

/-- Decides whether two definitions are equal. What is one object in memory is not looked into, so
unions of shared unions are compared fast. -/
def decEq (a b : TypeDef) : Decidable (a = b) :=
  withPtrEqDecEq a b fun _ =>
    match a, b with
    | ⟨info, base, body⟩, ⟨info', base', body'⟩ =>
      if hi : info = info' then
        match decEqBase base base' with
        | isTrue hb =>
          match decEqBody body body' with
          | isTrue hy => isTrue (by rw [hi, hb, hy])
          | isFalse hy => isFalse fun h => hy (TypeDef.mk.inj h).2.2
        | isFalse hb => isFalse fun h => hb (TypeDef.mk.inj h).2.1
      else isFalse fun h => hi (TypeDef.mk.inj h).1

/-- Decides whether two bases are equal. -/
def decEqBase : (a b : Option TypeDef) → Decidable (a = b)
  | none, none => isTrue rfl
  | none, some _ => isFalse nofun
  | some _, none => isFalse nofun
  | some a, some b =>
    match decEq a b with
    | isTrue h => isTrue (congrArg some h)
    | isFalse h => isFalse fun h' => h (Option.some.inj h')

/-- Decides whether two bodies are equal. -/
def decEqBody : (a b : Body TypeDef) → Decidable (a = b)
  | .simple a, .simple b =>
    if h : a = b then isTrue (congrArg Body.simple h) else isFalse fun h' => h (Body.simple.inj h')
  | .simple _, .union _ => isFalse nofun
  | .union _, .simple _ => isFalse nofun
  | .union as, .union bs =>
    match decEqMembers as bs with
    | isTrue h => isTrue (congrArg Body.union h)
    | isFalse h => isFalse fun h' => h (Body.union.inj h')

/-- Decides whether two lists of members are equal. -/
def decEqMembers : (as bs : List TypeDef) → Decidable (as = bs)
  | [], [] => isTrue rfl
  | [], _ :: _ => isFalse nofun
  | _ :: _, [] => isFalse nofun
  | a :: as, b :: bs =>
    match decEq a b with
    | isTrue h =>
      match decEqMembers as bs with
      | isTrue hs => isTrue (by rw [h, hs])
      | isFalse hs => isFalse fun h' => hs (List.cons.inj h').2
    | isFalse h => isFalse fun h' => h (List.cons.inj h').1

end

instance : DecidableEq TypeDef := decEq

/-! ### Ancestors -/

/-- A definition and all its ancestors, nearest first. -/
def ancestry : TypeDef → List TypeDef
  | t@⟨_, none, _⟩ => [t]
  | t@⟨_, some base, _⟩ => t :: base.ancestry

/-- The number of ancestors. -/
def depth (t : TypeDef) : Nat := t.ancestry.length - 1

/-- Whether another definition is this one or one of its ancestors. -/
def derivesFrom (t other : TypeDef) : Bool := t.ancestry.contains other

/-! ### What is in force -/

/-- The built-in type. -/
def kind (t : TypeDef) : Kind :=
  match t.body with
  | .simple facets => facets.kind
  | .union _ => .union

/-- The ranges of a numeric type. -/
def ranges (t : TypeDef) : List Constraint :=
  match t.body with
  | .simple (.integer _ ranges) => ranges
  | .simple (.decimal64 _ ranges) => ranges
  | _ => []

/-- The lengths of a string or binary type. -/
def lengths (t : TypeDef) : List Constraint :=
  match t.body with
  | .simple (.string lengths _) => lengths
  | .simple (.binary lengths) => lengths
  | _ => []

/-- The patterns of a string type. -/
def patterns (t : TypeDef) : List Pattern :=
  match t.body with
  | .simple (.string _ patterns) => patterns
  | _ => []

/-- The fraction digits of a decimal type. -/
def fractionDigits? (t : TypeDef) : Option Nat :=
  match t.body with
  | .simple (.decimal64 digits _) => some digits
  | _ => none

/-- Whether a reference must have a target, for types that are references. -/
def requireInstance? (t : TypeDef) : Option Bool :=
  match t.body with
  | .simple (.leafref _ required) => some required
  | .simple (.instanceIdentifier required) => some required
  | _ => none

/-- The path to the target of a leaf reference. -/
def targetPath? (t : TypeDef) : Option String :=
  match t.body with
  | .simple (.leafref path _) => some path
  | _ => none

/-- The identities that the values of an identity reference derive from. -/
def identities (t : TypeDef) : List QualifiedName :=
  match t.body with
  | .simple (.identityref identities) => identities
  | _ => []

/-- The bits of a type. -/
def bits (t : TypeDef) : List Member :=
  match t.body with
  | .simple (.bits members) => members
  | _ => []

/-- The enums of a type. -/
def enums (t : TypeDef) : List Member :=
  match t.body with
  | .simple (.enumeration members) => members
  | _ => []

/-- The members of a union. -/
def members (t : TypeDef) : List TypeDef :=
  match t.body with
  | .union members => members
  | _ => []

/-! ### Values -/

mutual

/-- Checks whether a text is a value. -/
def check (text : String) (t : TypeDef) (engine : Engine := .standard) : Except Violation Unit :=
  match t with
  | ⟨_, _, body⟩ => checkBody engine text body

/-- Checks a text against a body. -/
def checkBody (engine : Engine) (text : String) : Body TypeDef → Except Violation Unit
  | .simple facets => facets.check text engine
  | .union members => checkMembers engine text (.ofMessage "union has no members") members

/-- Checks a text against members in turn. The first one that accepts it decides; if there is none,
the last one reports. -/
def checkMembers (engine : Engine) (text : String) (last : Violation) :
    List TypeDef → Except Violation Unit
  | [] => .error last
  | member :: members =>
    match check text member engine with
    | .ok () => .ok ()
    | .error report => checkMembers engine text report members

end

end TypeDef

end YangTypes
