import Mathlib.Tactic
import YangTypes.Proofs.Derivation.Numbering

/-!
Numbering members with a loop.

`rootMembers` looks at all members before a declaration to tell whether its name
and its number are new, and which number comes next. A loop can keep what it
needs instead: the names, who has which number, and a counter. The counter of
enums is the highest number, that of bits the number after it.

* `MemberLoop.take`: what a loop does with one declaration.
* `MemberLoop.take_of`: what a loop keeps is a function of the members, and one
  declaration takes it from one list of members to the next.
* `rootMembers_eq_loopMembers`: so both give the same members or the same error.
-/

namespace YangTypes

namespace MemberKind

/-- The counter before the first member. -/
def counterStart : MemberKind → Option ℤ
  | enum => none
  | bit => some 0

/-- The counter with one more number. -/
def count : MemberKind → Option ℤ → ℤ → Option ℤ
  | enum => keepHighest
  | bit => keepNext bit

/-- The number that comes next by the counter. -/
def counterNext? : MemberKind → Option ℤ → Option ℤ
  | enum, none => some 0
  | enum, some highest => enum.after? highest
  | bit, next => next

lemma running_eq (kind : MemberKind) (values : List ℤ) :
    kind.running values = kind.counterNext? (values.foldl kind.count kind.counterStart) := by
  cases kind with
  | bit => rfl
  | enum =>
      rw [running, count, counterStart]
      cases values.foldl keepHighest none <;> rfl

end MemberKind

/-- What a loop over declared members keeps: the names, the name with each number,
the counter, and the members. -/
structure MemberLoop where
  names : List String
  owners : List (ℤ × String)
  counter : Option ℤ
  members : List Member

namespace MemberLoop

/-- A loop before its first declaration. -/
def start (kind : MemberKind) : MemberLoop := ⟨[], [], kind.counterStart, []⟩

/-- Takes one declaration. -/
def take (kind : MemberKind) (loop : MemberLoop) (decl : MemberDecl) :
    Except TypeFault MemberLoop :=
  if ¬ kind.admitsName decl.name then .error (.invalidBound (.memberName decl.name))
  else if loop.names.contains decl.name then .error (.duplicateName decl.name)
  else
    match decl.value <|> kind.counterNext? loop.counter with
    | none => .error (.invalidBound (.noneLeft kind decl.name))
    | some value =>
      match loop.owners.lookup value with
      | some other => .error (.duplicateValue kind value other)
      | none =>
        .ok ⟨loop.names ++ [decl.name], loop.owners ++ [(value, decl.name)],
          kind.count loop.counter value, loop.members ++ [⟨decl.name, value, decl.doc⟩]⟩

/-- What a loop has kept when it has made some members. -/
def of (kind : MemberKind) (members : List Member) : MemberLoop where
  names := members.map Member.name
  owners := members.map fun m => (m.value, m.name)
  counter := (members.map Member.value).foldl kind.count kind.counterStart
  members := members

lemma of_concat (kind : MemberKind) (members : List Member) (m : Member) :
    of kind (members ++ [m]) =
      ⟨(of kind members).names ++ [m.name], (of kind members).owners ++ [(m.value, m.name)],
        kind.count (of kind members).counter m.value, members ++ [m]⟩ := by
  simp [of]

lemma contains_names (kind : MemberKind) (members : List Member) (name : String) :
    (of kind members).names.contains name = members.any fun m => m.name == name := by
  rw [of, List.contains_eq_any_beq, List.any_map]
  exact congrArg members.any (funext fun m => BEq.comm)

lemma lookup_owners (kind : MemberKind) (members : List Member) (v : ℤ) :
    (of kind members).owners.lookup v =
      (members.find? fun m => m.value == v).map Member.name := by
  induction members with
  | nil => rfl
  | cons m members ih =>
      simp only [of] at ih
      simp only [of, List.map_cons, List.lookup_cons, List.find?_cons, ih, BEq.comm (a := v)]
      cases m.value == v <;> rfl

/-- **What a loop keeps goes with the members**: a declaration is taken, or
refused, as after the members that the loop has made. -/
lemma take_of {kind : MemberKind} {members : List Member}
    (hrange : ∀ m ∈ members, kind.InRange m.value) (decl : MemberDecl) :
    take kind (of kind members) decl =
      (numberMember kind members decl).map fun m => of kind (members ++ [m]) := by
  have hnext : kind.counterNext? (of kind members).counter = nextValue? kind members := by
    rw [nextValue?_eq_running hrange, MemberKind.running_eq]
    rfl
  rw [take, numberMember, contains_names, hnext]
  split_ifs with hshape hname
  · rfl
  · cases decl.value <|> nextValue? kind members with
    | none => rfl
    | some value =>
        simp only [lookup_owners]
        cases members.find? fun m => m.value == value with
        | some other => rfl
        | none => exact congrArg Except.ok (of_concat kind members ⟨_, value, decl.doc⟩).symm
  · rfl

end MemberLoop

/-- The members of a type that has no base, by a loop. -/
def loopMembers (kind : MemberKind) (location : Location) (decls : List (Located MemberDecl)) :
    Except TypeError (List Member) :=
  if decls.isEmpty then .error ⟨location, .noMembers kind⟩
  else (foldLocated (MemberLoop.take kind) (.start kind) decls).map MemberLoop.members

/-- **Members are numbered as by a loop that keeps its counter up to date**: the
highest number for enums, and the next one for bits. Both ways make the same
members, or fail with the same error at the same place. -/
theorem rootMembers_eq_loopMembers {kind : MemberKind} (location : Location)
    {decls : List (Located MemberDecl)} (hfits : ∀ decl ∈ decls, decl.value.Fits kind) :
    rootMembers kind location decls = loopMembers kind location decls := by
  have hloop : foldLocated (MemberLoop.take kind) (.of kind []) decls =
      (foldLocated (fun assigned decl =>
        (numberMember kind assigned decl).map fun m => assigned ++ [m]) [] decls).map
          (.of kind) := by
    -- the counters are right as long as all numbers are in the range of the kind
    refine foldLocated_map (P := fun members => ∀ m ∈ members, kind.InRange m.value) ?_ ?_
      (List.forall_mem_nil _)
    · intro members hrange decl _
      rw [MemberLoop.take_of hrange]
      cases numberMember kind members decl.value <;> rfl
    · intro members hrange decl hdecl members' hstep
      obtain ⟨m, hm, rfl⟩ := map_eq_ok.mp hstep
      obtain ⟨hplaceable, hmakes⟩ := (numberMember_eq_ok_iff hrange).mp hm
      refine List.forall_mem_append.mpr ⟨hrange, ?_⟩
      simpa using hmakes.inRange hplaceable (hfits decl hdecl) hrange
  have hstart : MemberLoop.start kind = .of kind [] := rfl
  rw [rootMembers, loopMembers, hstart, hloop]
  split_ifs
  · rfl
  · cases foldLocated (fun assigned decl =>
      (numberMember kind assigned decl).map fun m => assigned ++ [m]) [] decls <;> rfl

end YangTypes
