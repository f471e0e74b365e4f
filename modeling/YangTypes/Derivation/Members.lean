import YangTypes.Derivation.Fault

/-!
Bits and enums: how they get their numbers, and how a derived type selects among them.
-/

namespace YangTypes

/-- Goes through declarations in order; a fault is reported at the declaration that caused it. -/
def foldLocated {α σ : Type} (f : σ → α → Except TypeFault σ) :
    σ → List (Located α) → Except TypeError σ
  | s, [] => .ok s
  | s, d :: ds =>
    match f s d.value with
    | .error fault => .error ⟨d.location, fault⟩
    | .ok s => foldLocated f s ds

/-- The number after the highest one so far, or zero for the first member. -/
def nextValue? (kind : MemberKind) (assigned : List Member) : Option Int :=
  match (assigned.map Member.value).max? with
  | none => some 0
  | some highest => if highest < kind.top then some (highest + 1) else none

/-- Whether a name can be the name of a member. -/
def MemberKind.admitsName (kind : MemberKind) (name : String) : Bool :=
  match kind with
  | bit => true
  | enum => name != "" && Text.trim name == name

/-- Gives a declared member its number, after the ones before it. -/
def numberMember (kind : MemberKind) (assigned : List Member) (decl : MemberDecl) :
    Except TypeFault Member :=
  if ¬ kind.admitsName decl.name then .error (.invalidBound (.memberName decl.name))
  else if assigned.any fun m => m.name == decl.name then .error (.duplicateName decl.name)
  else
    match decl.value <|> nextValue? kind assigned with
    | none => .error (.invalidBound (.noneLeft kind decl.name))
    | some value =>
      match assigned.find? fun m => m.value == value with
      | some other => .error (.duplicateValue kind value other.name)
      | none => .ok ⟨decl.name, value, decl.doc⟩

/-- The members of a type that has no base; there is at least one. -/
def rootMembers (kind : MemberKind) (location : Location) (decls : List (Located MemberDecl)) :
    Except TypeError (List Member) :=
  if decls.isEmpty then .error ⟨location, .noMembers kind⟩
  else
    foldLocated
      (fun assigned decl => (numberMember kind assigned decl).map fun m => assigned ++ [m]) [] decls

/-- Selects a member of the base, after the ones before it. What the declaration says about the
member replaces what the base says, if it says anything. -/
def selectMember (kind : MemberKind) (base selected : List Member) (decl : MemberDecl) :
    Except TypeFault Member :=
  if selected.any fun m => m.name == decl.name then .error (.duplicateName decl.name)
  else
    match base.find? fun m => m.name == decl.name with
    | none => .error (.unknownMember kind decl.name)
    | some member =>
      let declared := decl.value.getD member.value
      if declared ≠ member.value then
        .error (.memberMismatch kind decl.name member.value declared)
      else .ok ⟨decl.name, member.value, if decl.doc = .none then member.doc else decl.doc⟩

/-- The members of a derived type: those that are declared, or those of the base if none is. -/
def derivedMembers (kind : MemberKind) (base : List Member) (decls : List (Located MemberDecl)) :
    Except TypeError (List Member) :=
  if decls.isEmpty then .ok base
  else
    foldLocated
      (fun selected decl => (selectMember kind base selected decl).map fun m => selected ++ [m]) []
      decls

end YangTypes
