import Mathlib.Tactic
import YangTypes.Proofs.Derivation.Inheritance
import YangTypes.Proofs.Derivation.Numbering
import YangTypes.Proofs.Derivation.Restatement

/-!
The statement that an error points at.

* `TypeFault.IsAbout`: the statements that a fault can be blamed on, one line for
  each fault. `TypeFault.IsAboutType` is the same for the faults of a type as a
  whole, where a statement is missing or a value is inherited.
* `Derivation.Blames`: an error stands at a statement that its fault is about, or
  at the place of the type.
* `Derivation.Traces`: all errors of a part of a derivation are of this form. The
  parts are put together in the same way as the derivation (`Traces.bind`), and
  most of them are folds over the statements of one keyword (`traces_fold`).
-/

namespace YangTypes

open Declaration (Selection)

/-! ### Faults and statements -/

/-- A range or a length has an end. -/
def Declaration.HasEnd (decl : Declaration) (bound : BoundEnd) : Prop :=
  ∃ (keyword : BoundKeyword) (bounds : BoundsDecl), decl = keyword.declare bounds ∧
    ∃ pair ∈ bounds.parts, bound = pair.low ∨ bound = pair.high

/-- The declaration of a bit or an enum, under a name. -/
def MemberKind.Declares (kind : MemberKind) (decl : Declaration) (name : String)
    (value : Option ℤ) : Prop :=
  ∃ doc, kind.declaration? decl = some ⟨name, value, doc⟩

/-- A fault of a bound, or of a number that has to be found, and the statement
that has it. -/
def BoundFault.IsAbout (decl : Declaration) : BoundFault → Prop
  | reversed keyword _ => decl.keyword = keyword.toKeyword
  | overlap keyword _ _ => decl.keyword = keyword.toKeyword
  | literal text _ => decl.HasEnd (.literal text)
  | noBase bound => decl.HasEnd bound
  | noneLeft kind name => kind.Declares decl name none
  | memberName name => ∃ value, MemberKind.enum.Declares decl name value

/-- A fault of the members of a union, at an index, and the statement that has it:
the first one if their number is wrong, and otherwise the one at the index. -/
def UnionFault.IsAbout (before : List Statement) (index : ℕ) (member : TypeDef) :
    UnionFault → Prop
  | count _ _ => Statement.select Declaration.type? before = []
  | notDerived name _ =>
    member.info.name = name ∧ (Statement.select Declaration.type? before).length = index

/-- A fault in a step on a built-in type, and the statement that it can be blamed on,
with the statements before that one. A fault of a whole type is about no statement. -/
def TypeFault.IsAbout (builtin : Kind) (before : List Statement) (decl : Declaration) :
    TypeFault → Prop
  | notNarrower _ _ => decl.keyword = .range ∨ decl.keyword = .length
  | invalidBound fault => fault.IsAbout decl
  | repeated keyword => decl.keyword = keyword ∧ ∃ b ∈ before, b.value.keyword = keyword
  | fractionDigitsConflict _ declared => decl = .fractionDigits declared
  | invalidFractionDigits digits => decl = .fractionDigits digits
  | unknownMember kind name => ∃ value, kind.Declares decl name value
  | memberMismatch kind name _ declared => kind.Declares decl name (some declared)
  | duplicateName name => ∃ kind : MemberKind, (∃ value, kind.Declares decl name value) ∧
      ∃ b ∈ before, ∃ value, kind.Declares b.value name value
  | duplicateValue kind value other => (∃ name, kind.Declares decl name (some value)) ∧
      ∃ b ∈ before, ∃ value', kind.Declares b.value other value'
  | requireInstanceRelaxed => decl = .requireInstance false
  | unionMember index fault => ∃ member, decl = .type member ∧ fault.IsAbout before index member
  | invalidPattern regex reason => ∃ inverted doc, decl = .pattern ⟨regex, inverted, doc⟩ ∧
      Pattern.make regex inverted doc = .error reason
  | invalidDefault value _ => decl = .default value
  | unsupported keyword kind => kind = builtin ∧ decl.keyword = keyword ∧
      builtin.allows keyword = false ∧ ∀ b ∈ before, builtin.allows b.value.keyword = true
  | missingFractionDigits | missingPath | missingBase | emptyUnion | noMembers _ => False

/-- A fault of a whole type: nothing is declared that could be blamed. -/
def TypeFault.IsAboutType (d : Derivation) : TypeFault → Prop
  | missingFractionDigits => d.declared Declaration.fractionDigits? = []
  | missingPath => d.declared Declaration.path? = []
  | missingBase => d.declared Declaration.base? = []
  | emptyUnion => d.declared Declaration.type? = []
  | noMembers kind => d.declared kind.declaration? = []
  | invalidDefault value _ => d.declared Declaration.default? = [] ∧
      ∃ base, d.start = .type base ∧ base.info.defaultValue = some value
  | _ => False

/-- An error is blamed on a statement that its fault is about, or on the type. -/
inductive Derivation.Blames (d : Derivation) : TypeError → Prop where
  | statement {before after : List Statement} {s : Statement} {fault : TypeFault}
      (split : d.statements = before ++ s :: after)
      (about : fault.IsAbout d.start.kind before s.value) : Blames d ⟨s.location, fault⟩
  | type {fault : TypeFault} (about : fault.IsAboutType d) : Blames d ⟨d.location, fault⟩

/-! ### Statements of one keyword -/

/-- A selected declaration has its statement, and those that are selected before
it are selected from the statements before that one. -/
lemma Statement.exists_split_of_select {α : Type} {f : Declaration → Option α}
    {statements : List Statement} {earlier later : List (Located α)} {decl : Located α}
    (h : Statement.select f statements = earlier ++ decl :: later) :
    ∃ before s after, statements = before ++ s :: after ∧ f s.value = some decl.value ∧
      s.location = decl.location ∧ Statement.select f before = earlier := by
  obtain ⟨before, rest, rfl, hbefore, hrest⟩ := List.filterMap_eq_append_iff.mp h
  obtain ⟨skipped, s, after, rfl, hskipped, hs, -⟩ := List.filterMap_eq_cons_iff.mp hrest
  obtain ⟨a, ha, rfl⟩ := Option.map_eq_some_iff.mp hs
  refine ⟨before ++ skipped, s, after, by simp, ha, rfl, ?_⟩
  have hnone : Statement.select f skipped = [] := List.filterMap_eq_nil_iff.mpr hskipped
  rw [Statement.select, List.filterMap_append]
  exact (congrArg₂ (· ++ ·) hbefore hnone).trans (List.append_nil earlier)

lemma Statement.exists_of_mem_select {α : Type} {f : Declaration → Option α}
    {statements : List Statement} {decl : Located α} (h : decl ∈ Statement.select f statements) :
    ∃ s ∈ statements, f s.value = some decl.value := by
  obtain ⟨earlier, later, hsplit⟩ := List.append_of_mem h
  obtain ⟨before, s, after, rfl, hs, -, -⟩ := Statement.exists_split_of_select hsplit
  exact ⟨s, by simp, hs⟩

/-! ### Parts of a derivation -/

/-- Every error of a part of a derivation is blamed. -/
def Derivation.Traces {α : Type} (d : Derivation) (x : Except TypeError α) : Prop :=
  ∀ e, x = .error e → d.Blames e

namespace Derivation

variable {d : Derivation} {α β σ : Type}

lemma traces_ok (a : α) : d.Traces (.ok a) := by
  simp [Traces]

lemma Traces.bind {x : Except TypeError α} {f : α → Except TypeError β} (hx : d.Traces x)
    (hf : ∀ a, x = .ok a → d.Traces (f a)) : d.Traces (x >>= f) := by
  intro e he
  rcases bind_eq_error.mp he with he | ⟨a, ha, he⟩
  · exact hx e he
  · exact hf a ha e he

lemma Traces.map {x : Except TypeError α} (hx : d.Traces x) (f : α → β) : d.Traces (x.map f) :=
  fun e he => hx e (map_eq_error.mp he)

lemma traces_type {fault : TypeFault} (h : fault.IsAboutType d) :
    d.Traces (.error ⟨d.location, fault⟩ : Except TypeError α) := by
  rintro e ⟨⟩
  exact .type h

/-- An error at a declaration. -/
lemma blames_of_declared {f : Declaration → Option α} {earlier later : List (Located α)}
    {decl : Located α} {fault : TypeFault} (h : d.declared f = earlier ++ decl :: later)
    (habout : ∀ before s, f s = some decl.value → Statement.select f before = earlier →
      fault.IsAbout d.start.kind before s) : d.Blames ⟨decl.location, fault⟩ := by
  obtain ⟨before, s, after, hsplit, hs, hlocation, hearlier⟩ := Statement.exists_split_of_select h
  exact hlocation ▸ .statement hsplit (habout before s.value hs hearlier)

/-- A fold over the declarations of one keyword. A step that fails has the state
that the declarations before it have made. -/
lemma traces_fold {f : Declaration → Option α} {step : σ → α → Except TypeFault σ} {init : σ}
    (h : ∀ before s a state fault, f s = some a →
      foldLocated step init (Statement.select f before) = .ok state →
      step state a = .error fault → fault.IsAbout d.start.kind before s) :
    d.Traces (foldLocated step init (d.declared f)) := by
  intro e he
  obtain ⟨earlier, decl, later, state, hdecls, hstate, hfault, hlocation⟩ :=
    foldLocated_eq_error he
  obtain ⟨location, fault⟩ := e
  obtain rfl : location = decl.location := hlocation
  refine blames_of_declared hdecls fun before s hs hearlier => ?_
  exact h before s decl.value state fault hs (hearlier ▸ hstate) hfault

/-- A state that is not the first one comes from a declaration. -/
lemma exists_before_of_ne {f : Declaration → Option α} {step : σ → α → Except TypeFault σ}
    {init state : σ} {before : List Statement}
    (h : foldLocated step init (Statement.select f before) = .ok state) (hne : state ≠ init) :
    ∃ b ∈ before, ∃ a, f b.value = some a := by
  cases hselect : Statement.select f before with
  | nil =>
      rw [hselect] at h
      exact absurd (Except.ok.inj h).symm hne
  | cons decl decls =>
      obtain ⟨b, hb, hdecl⟩ := Statement.exists_of_mem_select (hselect ▸ List.mem_cons_self)
      exact ⟨b, hb, decl.value, hdecl⟩

end Derivation

/-! ### Bounds, patterns and fraction digits -/

section

variable {builtin : Kind} {before : List Statement} {decl : Declaration} {fault : TypeFault}

lemma resolveEnd_eq_error {base : List Constraint} {read : String → Except Violation Number}
    {bound : BoundEnd} (h : resolveEnd base read bound = .error fault) (hend : decl.HasEnd bound) :
    fault.IsAbout builtin before decl := by
  cases bound with
  | min =>
      rw [resolveEnd] at h
      split at h
      next => simp at h
      next => exact Except.error.inj h ▸ hend
  | max =>
      rw [resolveEnd] at h
      split at h
      next => simp at h
      next => exact Except.error.inj h ▸ hend
  | literal text =>
      rw [resolveEnd] at h
      split at h
      next => simp at h
      next => exact Except.error.inj h ▸ hend

/-- An end that cannot be resolved is one of the statement. -/
lemma resolveParts_eq_error {keyword : BoundKeyword} {base : List Constraint}
    {read : String → Except Violation Number} {doc : RestrictionDoc} {bounds : BoundsDecl}
    {parts : List BoundPair} (hparts : parts ⊆ bounds.parts)
    (h : resolveParts keyword base read doc parts = .error fault) :
    fault.IsAbout builtin before (keyword.declare bounds) := by
  induction parts with
  | nil => simp [resolveParts] at h
  | cons pair parts ih =>
      rw [List.cons_subset] at hparts
      have hend : ∀ bound, bound = pair.low ∨ bound = pair.high →
          (keyword.declare bounds).HasEnd bound :=
        fun bound hbound => ⟨keyword, bounds, rfl, pair, hparts.1, hbound⟩
      rw [resolveParts] at h
      rcases bind_eq_error.mp h with hlow | ⟨low, -, h⟩
      · exact resolveEnd_eq_error hlow (hend _ (.inl rfl))
      rcases bind_eq_error.mp h with hhigh | ⟨high, -, h⟩
      · exact resolveEnd_eq_error hhigh (hend _ (.inr rfl))
      rcases bind_eq_error.mp h with hrest | ⟨rest, -, h⟩
      · exact ih hparts.2 hrest
      · simp [pure, Except.pure] at h

/-- What does not narrow the base is a range or a length. -/
lemma narrow_eq_error {keyword : BoundKeyword} {base candidate : List Constraint}
    {bounds : BoundsDecl} (h : narrow keyword base candidate = .error fault) :
    fault.IsAbout builtin before (keyword.declare bounds) := by
  have hdecl := keyword.keyword_declare bounds
  rw [narrow] at h
  split at h
  next => exact Except.error.inj h ▸ hdecl
  next =>
    dsimp only at h
    split at h
    next => exact Except.error.inj h ▸ hdecl
    next =>
      split at h
      next =>
        obtain rfl := Except.error.inj h
        rw [TypeFault.IsAbout, hdecl]
        cases keyword <;> simp [BoundKeyword.toKeyword]
      next => simp at h

end

namespace Derivation

variable {d : Derivation}

/-- The statements of a bounding keyword: they are resolved, and taken if they narrow
the base and none was taken before. -/
lemma traces_applyBounds (keyword : BoundKeyword) {f : Declaration → Option BoundsDecl}
    (hf : Selection keyword.toKeyword f keyword.declare)
    (read : String → Except Violation Number) {acc : Accumulator}
    (hacc : acc.bounds keyword = none) :
    d.Traces (applyBounds keyword read acc (d.declared f)) := by
  refine traces_fold fun before decl bounds acc' fault hdecl hacc' hfault => ?_
  obtain rfl := hf.eq_some_iff.mp hdecl
  rcases bind_eq_error.mp hfault with hparts | ⟨candidate, -, hset⟩
  · exact resolveParts_eq_error (List.Subset.refl _) hparts
  rw [Accumulator.setBounds] at hset
  split at hset
  next taken htaken =>
    obtain rfl := Except.error.inj hset
    obtain ⟨b, hb, bounds', hb'⟩ :=
      exists_before_of_ne hacc' (by rintro rfl; simp [hacc] at htaken)
    exact ⟨keyword.keyword_declare bounds, b, hb, hf.keyword_eq hb'⟩
  next => exact narrow_eq_error (map_eq_error.mp hset)

lemma traces_applyPatterns (acc : Accumulator) :
    d.Traces (applyPatterns acc (d.declared Declaration.pattern?)) := by
  refine traces_fold fun before decl pattern acc' fault hdecl _ hfault => ?_
  obtain rfl := Selection.pattern.eq_some_iff.mp hdecl
  split at hfault
  next => simp at hfault
  next reason hmake =>
    obtain rfl := Except.error.inj hfault
    exact ⟨pattern.inverted, pattern.doc, rfl, hmake⟩

lemma traces_applyFractionDigits {acc : Accumulator} (hacc : acc.fractionDigits = none) :
    d.Traces (applyFractionDigits acc (d.declared Declaration.fractionDigits?)) := by
  refine traces_fold fun before decl digits acc' fault hdecl hacc' hfault => ?_
  obtain rfl := Selection.fractionDigits.eq_some_iff.mp hdecl
  rw [Accumulator.setFractionDigits] at hfault
  split at hfault
  next base _ =>
    split at hfault
    next => exact Except.error.inj hfault ▸ rfl
    next => simp at hfault
  next =>
    split at hfault
    next => exact Except.error.inj hfault ▸ rfl
    next =>
      split at hfault
      next digits' hdigits' =>
        obtain rfl := Except.error.inj hfault
        obtain ⟨b, hb, _, hb'⟩ :=
          exists_before_of_ne hacc' (by rintro rfl; simp [hacc] at hdigits')
        exact ⟨rfl, b, hb, Selection.fractionDigits.eq_some_iff.mp hb' ▸ rfl⟩
      next => simp at hfault

end Derivation

/-! ### Members -/

section

variable {builtin : Kind} {kind : MemberKind} {before : List Statement} {decl : Declaration}
  {member : MemberDecl} {members : List Member} {fault : TypeFault}

lemma declares_of_declaration? (h : kind.declaration? decl = some member) :
    kind.Declares decl member.name member.value :=
  ⟨member.doc, h⟩

/-- A member that was made has a statement with its name. -/
lemma exists_declares_of_mem {make : List Member → MemberDecl → Except TypeFault Member}
    (hname : ∀ made member m, make made member = .ok m → m.name = member.name)
    (h : foldLocated (fun made member => (make made member).map fun m => made ++ [m]) []
      (Statement.select kind.declaration? before) = .ok members) {m : Member} (hm : m ∈ members) :
    ∃ b ∈ before, ∃ value, kind.Declares b.value m.name value := by
  obtain ⟨added, rfl, hadded⟩ := foldLocated_append
    (R := fun decl m => m.name = decl.value.name) (fun made decl m => hname made decl.value m) h
  obtain ⟨declared, hdeclared, hm'⟩ := exists_left_of_forall₂ hadded (by simpa using hm)
  obtain ⟨b, hb, hvalue⟩ := Statement.exists_of_mem_select hdeclared
  exact ⟨b, hb, declared.value.value, hm' ▸ declares_of_declaration? hvalue⟩

lemma numberMember_eq_error (hdecl : kind.declaration? decl = some member)
    (hbefore : ∀ m ∈ members, ∃ b ∈ before, ∃ value, kind.Declares b.value m.name value)
    (h : numberMember kind members member = .error fault) : fault.IsAbout builtin before decl := by
  have hdeclares := declares_of_declaration? hdecl
  rcases numberMember_error_cases h with
    ⟨rfl, rfl⟩ | ⟨⟨m, hm, hname⟩, rfl⟩ | ⟨hvalue, rfl⟩ | ⟨v, hvalue, m, hm, -, rfl⟩
  · exact ⟨member.value, hdeclares⟩
  · exact ⟨kind, ⟨member.value, hdeclares⟩, hname ▸ hbefore m hm⟩
  · rw [hvalue] at hdeclares
    exact hdeclares
  · exact ⟨⟨member.name, hvalue ▸ hdeclares⟩, hbefore m hm⟩

lemma selectMember_eq_error {base : List Member} (hdecl : kind.declaration? decl = some member)
    (hbefore : ∀ m ∈ members, ∃ b ∈ before, ∃ value, kind.Declares b.value m.name value)
    (h : selectMember kind base members member = .error fault) :
    fault.IsAbout builtin before decl := by
  have hdeclares := declares_of_declaration? hdecl
  rw [selectMember] at h
  split at h
  next hused =>
    obtain rfl := Except.error.inj h
    obtain ⟨m, hm, hname⟩ : ∃ m ∈ members, m.name = member.name := by simpa using hused
    exact ⟨kind, ⟨member.value, hdeclares⟩, hname ▸ hbefore m hm⟩
  next =>
    split at h
    next =>
      obtain rfl := Except.error.inj h
      exact ⟨member.value, hdeclares⟩
    next m hfind =>
      dsimp only at h
      split at h
      next hne =>
        obtain rfl := Except.error.inj h
        -- a number that is not declared is that of the base
        cases hvalue : member.value with
        | none => simp [hvalue] at hne
        | some v =>
            rw [hvalue] at hdeclares
            exact hdeclares
      next => simp at h

end

namespace Derivation

variable {d : Derivation}

lemma traces_rootMembers (kind : MemberKind) :
    d.Traces (rootMembers kind d.location (d.declared kind.declaration?)) := by
  rw [rootMembers]
  split
  next hnone => exact traces_type (List.isEmpty_iff.mp hnone)
  next =>
    refine traces_fold fun before decl member members fault hdecl hmembers hfault => ?_
    have hbefore := fun m hm => exists_declares_of_mem (m := m)
      (fun _ _ _ hmake => (numberMember_eq_ok hmake).1) hmembers hm
    exact numberMember_eq_error hdecl hbefore (map_eq_error.mp hfault)

lemma traces_derivedMembers (kind : MemberKind) (base : List Member) :
    d.Traces (derivedMembers kind base (d.declared kind.declaration?)) := by
  rw [derivedMembers]
  split
  next => exact traces_ok base
  next =>
    refine traces_fold fun before decl member members fault hdecl hmembers hfault => ?_
    have hname : ∀ selected (member : MemberDecl) m,
        selectMember kind base selected member = .ok m → m.name = member.name := by
      intro selected member m hselect
      have hselects : Selects base ⟨member, ""⟩ m := selects_of_selectMember hselect
      exact hselects.1
    have hbefore := fun m hm => exists_declares_of_mem (m := m) hname hmembers hm
    exact selectMember_eq_error hdecl hbefore (map_eq_error.mp hfault)

/-! ### References and unions -/

lemma traces_atMostOne {α : Type} {f : Declaration → Option α} {keyword : Keyword}
    (hf : ∀ decl a, f decl = some a → decl.keyword = keyword) :
    d.Traces (atMostOne keyword (d.declared f)) := by
  intro e he
  unfold atMostOne at he
  split at he
  next => simp at he
  next => simp at he
  next first second rest hdecls =>
    obtain rfl := Except.error.inj he
    have hsplit : d.declared f = [first] ++ second :: rest := hdecls
    refine blames_of_declared hsplit fun before decl hdecl hbefore => ?_
    obtain ⟨b, hb, hfirst⟩ :=
      Statement.exists_of_mem_select (hbefore ▸ List.mem_singleton_self first)
    exact ⟨hf decl _ hdecl, b, hb, hf b.value _ hfirst⟩

lemma traces_deriveRequireInstance (inherited : Option Bool) :
    d.Traces (deriveRequireInstance inherited (d.declared Declaration.requireInstance?)) := by
  rw [deriveRequireInstance]
  refine (traces_atMostOne fun decl required h =>
    Selection.requireInstance.eq_some_iff.mp h ▸ rfl).bind fun only honly => ?_
  cases only with
  | none => exact traces_ok _
  | some decl =>
      dsimp only
      split
      next hrelaxed =>
        rintro e ⟨⟩
        have hsplit : d.declared Declaration.requireInstance? = [] ++ decl :: [] :=
          atMostOne_eq_ok honly
        refine blames_of_declared hsplit fun before s hs _ => ?_
        have hfalse : decl.value = false := by simpa using hrelaxed.2
        exact Selection.requireInstance.eq_some_iff.mp (hfalse ▸ hs)
      next => exact traces_ok _

lemma traces_targetPath (inherited : Option String) : d.Traces (d.targetPath inherited) := by
  rw [targetPath]
  refine (traces_atMostOne fun decl path h => Selection.path.eq_some_iff.mp h ▸ rfl).bind
    fun only honly => ?_
  cases only with
  | some decl => exact traces_ok _
  | none =>
      cases inherited with
      | some path => exact traces_ok _
      | none => exact traces_type (atMostOne_eq_ok honly)

/-- Members that do not derive from those of the base are found one after the
other. -/
lemma checkUnionMembers_eq_error {index : ℕ} {decls : List (Located TypeDef)}
    {bases : List TypeDef} {e : TypeError} (h : checkUnionMembers index decls bases = .error e) :
    ∃ earlier decl later base, decls = earlier ++ decl :: later ∧
      e = ⟨decl.location, .unionMember (index + earlier.length)
        (.notDerived decl.value.info.name base)⟩ := by
  induction decls generalizing index bases with
  | nil => simp [checkUnionMembers] at h
  | cons decl decls ih =>
      cases bases with
      | nil => simp [checkUnionMembers] at h
      | cons base bases =>
          rw [checkUnionMembers] at h
          split at h
          next =>
            obtain ⟨earlier, failing, later, name, rfl, rfl⟩ := ih h
            refine ⟨decl :: earlier, failing, later, name, rfl, ?_⟩
            rw [List.length_cons, Nat.add_assoc, Nat.add_comm 1]
          next => exact ⟨[], decl, decls, base.info.name, rfl, (Except.error.inj h).symm⟩

lemma traces_deriveUnionMembers (base : List TypeDef) :
    d.Traces (deriveUnionMembers base (d.declared Declaration.type?)) := by
  unfold deriveUnionMembers
  split
  next => exact traces_ok base
  next first rest hdecls =>
    split
    next =>
      rintro e ⟨⟩
      have hsplit : d.declared Declaration.type? = [] ++ first :: rest := hdecls
      refine blames_of_declared hsplit fun before decl hdecl hbefore => ?_
      exact ⟨first.value, Selection.type.eq_some_iff.mp hdecl, hbefore⟩
    next =>
      refine Traces.bind (fun e he => ?_) fun _ _ => traces_ok _
      obtain ⟨earlier, decl, later, name, hsplit, rfl⟩ := checkUnionMembers_eq_error he
      refine blames_of_declared hsplit fun before s hs hbefore => ?_
      exact ⟨decl.value, Selection.type.eq_some_iff.mp hs, rfl, by rw [hbefore, Nat.zero_add]⟩

/-! ### The type -/

lemma traces_decimalFacets (digits : ℕ) (ranges : List Constraint) {pending : List (Located ℕ)}
    (h : ∀ acc, acc.fractionDigits = none → d.Traces (applyFractionDigits acc pending)) :
    d.Traces (d.decimalFacets digits ranges pending) := by
  rw [decimalFacets]
  refine (h _ rfl).bind fun acc hacc => ?_
  obtain rfl := applyFractionDigits_eq_ok rfl hacc
  exact (traces_applyBounds .range .range _ rfl).bind fun _ _ => traces_ok _

lemma traces_rootDecimalFacets : d.Traces d.rootDecimalFacets := by
  rw [rootDecimalFacets]
  cases hdecls : d.declared Declaration.fractionDigits? with
  | nil => exact traces_type hdecls
  | cons first rest =>
      refine Traces.bind (hdecls ▸ traces_applyFractionDigits rfl) fun acc hacc => ?_
      obtain ⟨rfl, rfl⟩ := applyFractionDigits_start hacc
      dsimp only
      split
      next =>
        rintro e ⟨⟩
        have hsplit : d.declared Declaration.fractionDigits? = [] ++ first :: [] := hdecls
        exact blames_of_declared hsplit fun _ _ hs _ => Selection.fractionDigits.eq_some_iff.mp hs
      next => exact traces_decimalFacets _ _ fun _ _ => traces_ok _

lemma traces_rootBody (kind : RootKind) : d.Traces (d.rootBody kind) := by
  cases kind with
  | bits => exact (traces_rootMembers .bit).bind fun _ _ => traces_ok _
  | decimal64 => exact traces_rootDecimalFacets.bind fun _ _ => traces_ok _
  | enumeration => exact (traces_rootMembers .enum).bind fun _ _ => traces_ok _
  | identityref =>
      rw [rootBody]
      split
      next hnone => exact traces_type hnone
      next => exact traces_ok _
  | leafref =>
      exact (traces_targetPath none).bind fun _ _ =>
        (traces_deriveRequireInstance none).bind fun _ _ => traces_ok _
  | union =>
      rw [rootBody]
      split
      next hnone => exact traces_type hnone
      next => exact traces_ok _

lemma traces_derivedFacets (facets : Facets) : d.Traces (d.derivedFacets facets) := by
  cases facets with
  | binary lengths => exact (traces_applyBounds .length .length _ rfl).bind fun _ _ => traces_ok _
  | bits members => exact (traces_derivedMembers .bit members).bind fun _ _ => traces_ok _
  | boolean => exact traces_ok _
  | decimal64 digits ranges =>
      exact traces_decimalFacets digits ranges fun _ => traces_applyFractionDigits
  | empty => exact traces_ok _
  | enumeration members =>
      exact (traces_derivedMembers .enum members).bind fun _ _ => traces_ok _
  | identityref identities =>
      rw [derivedFacets]
      split <;> exact traces_ok _
  | instanceIdentifier required =>
      exact (traces_deriveRequireInstance required).bind fun _ _ => traces_ok _
  | integer kind ranges =>
      exact (traces_applyBounds .range .range _ rfl).bind fun _ _ => traces_ok _
  | leafref path required =>
      exact (traces_targetPath path).bind fun _ _ =>
        (traces_deriveRequireInstance required).bind fun _ _ => traces_ok _
  | string lengths patterns =>
      exact (traces_applyBounds .length .length _ rfl).bind fun acc _ =>
        (traces_applyPatterns acc).bind fun _ _ => traces_ok _

lemma traces_body : d.Traces d.body := by
  rw [body]
  split
  next base _ =>
    cases base.body with
    | simple facets => exact (traces_derivedFacets facets).map _
    | union members => exact (traces_deriveUnionMembers members).map _
  next kind _ => exact traces_rootBody kind

/-- A default that is not a value is blamed on the last statement that declares
one; if there is none it is inherited. -/
lemma traces_checkDefault {t : TypeDef} {mark : ℕ} (h : t.info = d.info mark) :
    d.Traces (d.checkDefault t) := by
  intro e he
  rw [checkDefault, h] at he
  split at he
  next => simp at he
  next value hvalue =>
    split at he
    next => simp at he
    next report _ =>
      obtain rfl := Except.error.inj he
      have hinherit : d.inherit Declaration.default? TypeInfo.defaultValue = some value := hvalue
      rw [inherit] at hinherit
      cases hlast : d.lastDeclared? Declaration.default? with
      | some decl =>
          obtain ⟨earlier, hsplit⟩ := List.getLast?_eq_some_iff.mp hlast
          rw [hlast] at hinherit
          obtain rfl : decl.value = value := by simpa using hinherit
          exact blames_of_declared hsplit fun _ s hs _ => Selection.default.eq_some_iff.mp hs
      | none =>
          have hdecls : d.declared Declaration.default? = [] := List.getLast?_eq_none_iff.mp hlast
          rw [hlast] at hinherit
          refine .type ⟨hdecls, ?_⟩
          cases hstart : d.start with
          | type base =>
              rw [hstart] at hinherit
              exact ⟨base, rfl, by simpa [DerivationStart.base?_type] using hinherit⟩
          | root kind =>
              rw [hstart] at hinherit
              simp [DerivationStart.base?_root] at hinherit

lemma unsupported?_eq_some {s : Statement} (h : d.unsupported? = some s) :
    ∃ before after, d.statements = before ++ s :: after ∧
      (∀ b ∈ before, d.start.kind.allows b.value.keyword = true) ∧
      d.start.kind.allows s.value.keyword = false := by
  obtain ⟨hs, before, after, hsplit, hbefore⟩ := List.find?_eq_some_iff_append.mp h
  exact ⟨before, after, hsplit, by simpa using hbefore, by simpa using hs⟩

lemma build_of_unsupported {s : Statement} (h : d.unsupported? = some s) (mark : ℕ) :
    d.build mark = .error ⟨s.location, .unsupported s.value.keyword d.start.kind⟩ := by
  rw [build, h]
  rfl

/-- **Every error of a derivation is blamed.** -/
theorem traces_build (mark : ℕ) : d.Traces (d.build mark) := by
  cases h : d.unsupported? with
  | some s =>
      obtain ⟨before, after, hsplit, hbefore, hs⟩ := unsupported?_eq_some h
      rw [build_of_unsupported h]
      rintro e ⟨⟩
      exact .statement hsplit ⟨rfl, rfl, hs, hbefore⟩
  | none =>
      rw [build, h]
      exact traces_body.bind fun body _ => (traces_checkDefault rfl).bind fun _ _ => traces_ok _

lemma location_cases (d : Derivation) :
    (∃ s ∈ d.statements, d.location = s.location) ∨
      d.statements = [] ∧ d.location = d.path.text := by
  rw [location]
  split
  next hnil => exact .inr ⟨hnil, rfl⟩
  next first rest hstatements => exact .inl ⟨first, by simp [hstatements], rfl⟩

lemma Blames.location_cases {e : TypeError} (h : d.Blames e) :
    (∃ s ∈ d.statements, e.location = s.location) ∨
      d.statements = [] ∧ e.location = d.path.text := by
  cases h with
  | statement split about => exact .inl ⟨_, by simp [split], rfl⟩
  | type about => exact d.location_cases

end Derivation

/-- A type accepts its default value. -/
lemma Lineage.accepts_default {root t : TypeDef} {steps : List Derivation}
    (h : Lineage root steps t) :
    ∀ value, t.info.defaultValue = some value → t.Accepts value := by
  cases h with
  | builtin h => exact accepts_default_of_builtin h
  | root _ build => exact accepts_default_of_build build
  | step _ _ build => exact accepts_default_of_build build

/-- **Every error stands at a statement that it is about.** Its place is that of one
of the statements, or the path if there are none; the fault is about the statement
there, or about the type. A statement that the type does not allow is reported
before everything else, the first one if there are several. Without statements a
step from a type that was built does not fail. -/
theorem every_error_blamed (d : Derivation) (mark : ℕ) :
    (∀ e, d.build mark = .error e → d.Blames e ∧
      ((∃ s ∈ d.statements, e.location = s.location) ∨
        d.statements = [] ∧ e.location = d.path.text)) ∧
      (∀ before s after, d.statements = before ++ s :: after →
        (∀ b ∈ before, d.start.kind.allows b.value.keyword = true) →
        d.start.kind.allows s.value.keyword = false →
        d.build mark = .error ⟨s.location, .unsupported s.value.keyword d.start.kind⟩) ∧
      ∀ root steps base, Lineage root steps base → d.start = .type base → d.statements = [] →
        ∃ t, d.build mark = .ok t := by
  refine ⟨fun e he => ?_, fun before s after hsplit hbefore hs => ?_, ?_⟩
  · have hblames := Derivation.traces_build mark e he
    exact ⟨hblames, hblames.location_cases⟩
  · refine Derivation.build_of_unsupported ?_ mark
    exact List.find?_eq_some_iff_append.mpr
      ⟨by simpa using hs, before, after, hsplit, by simpa using hbefore⟩
  · intro root steps base hlineage hstart hnil
    have hsupported : d.unsupported? = none := by rw [Derivation.unsupported?, hnil, List.find?_nil]
    have hdefault : d.declared Declaration.default? = [] := by
      rw [Derivation.declared, hnil]
      rfl
    exact ⟨_, build_eq_ok_of_accepts hlineage.accepts_default hstart hsupported
      (derivedBody_nil hnil base.body) hdefault (fun _ _ _ => TypeDef.accepts_body.mpr) mark⟩

/-- The second enum declares the number that the first one got. -/
theorem every_error_blamed_second_enum :
    let d : Derivation :=
      ⟨.root .enumeration, [⟨.enum ⟨"a", none, .none⟩, "1"⟩, ⟨.units "m", "2"⟩,
        ⟨.enum ⟨"b", some 0, .none⟩, "3"⟩, ⟨.enum ⟨"a", none, .none⟩, "4"⟩], .root, ⟨false⟩⟩
    d.build 0 = .error ⟨"3", .duplicateValue .enum 0 "a"⟩ ∧
      d.Blames ⟨"3", .duplicateValue .enum 0 "a"⟩ := by
  intro d
  have herror : d.build 0 = .error ⟨"3", .duplicateValue .enum 0 "a"⟩ := rfl
  exact ⟨herror, ((every_error_blamed d 0).1 _ herror).1⟩

end YangTypes
