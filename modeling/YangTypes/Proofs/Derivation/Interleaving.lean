import Mathlib.Tactic
import YangTypes.Proofs.Derivation.Restatement

/-!
The order of statements with different keywords.

A step takes its statements one keyword at a time. What it takes of one keyword
does not depend on the statements between, and the place of the first statement
is only ever shown in an error.

* `Reordered`: lists with the same statements of each keyword, in the same order.
  Such lists are permutations of each other (`Reordered.perm`);
* `Derivation.declared_withStatements`: what is declared is selected one keyword
  at a time, so it is the same for reordered lists;
* `build_eq_ok_iff_of_reordered`: a reordered step makes the same type, or none
  if there was none.
-/

namespace YangTypes

/-- The statements with a keyword, in order. -/
def Statement.withKeyword (keyword : Keyword) (statements : List Statement) : List Statement :=
  statements.filter fun s => s.value.keyword = keyword

/-- A list of statements is another one with statements of different keywords
interleaved in another way: for each keyword both have the same statements in the
same order. -/
def Reordered (statements statements' : List Statement) : Prop :=
  ∀ keyword, Statement.withKeyword keyword statements' = Statement.withKeyword keyword statements

/-- No statement is lost or added. -/
lemma Reordered.perm {statements statements' : List Statement}
    (h : Reordered statements statements') : statements'.Perm statements := by
  rw [List.perm_iff_count]
  intro s
  have hcount (ss : List Statement) :
      (Statement.withKeyword s.value.keyword ss).count s = ss.count s :=
    List.count_filter (by simp)
  rw [← hcount, h, hcount]

/-! ### What is taken of a keyword -/

/-- Of a list of statements, a selection sees those with its keyword only. -/
lemma Statement.select_withKeyword {α : Type} {keyword : Keyword} {f : Declaration → Option α}
    {make : α → Declaration} (hf : Declaration.Selection keyword f make)
    (statements : List Statement) :
    select f (withKeyword keyword statements) = select f statements := by
  rw [select, select, withKeyword, List.filterMap_filter]
  refine List.filterMap_congr fun s _ => ?_
  cases hs : f s.value with
  | none => simp
  | some a => simp [hf.keyword_eq hs]

namespace Derivation

/-- The same step with other statements. -/
def withStatements (d : Derivation) (statements : List Statement) : Derivation :=
  { d with statements }

variable {d : Derivation} {statements : List Statement}

@[simp] lemma start_withStatements : (d.withStatements statements).start = d.start := rfl

@[simp] lemma path_withStatements : (d.withStatements statements).path = d.path := rfl

@[simp] lemma options_withStatements : (d.withStatements statements).options = d.options := rfl

lemma declared_withStatements (h : Reordered d.statements statements) {α : Type}
    {keyword : Keyword} {f : Declaration → Option α} {make : α → Declaration}
    (hf : Declaration.Selection keyword f make) :
    (d.withStatements statements).declared f = d.declared f :=
  calc Statement.select f statements
      = Statement.select f (Statement.withKeyword keyword statements) :=
        (Statement.select_withKeyword hf statements).symm
    _ = Statement.select f (Statement.withKeyword keyword d.statements) := by rw [h keyword]
    _ = Statement.select f d.statements := Statement.select_withKeyword hf d.statements

/-- A reordered step has a statement that is not allowed if the step has one. -/
lemma unsupported?_withStatements (h : Reordered d.statements statements) :
    (d.withStatements statements).unsupported? = none ↔ d.unsupported? = none := by
  simp only [unsupported?, List.find?_eq_none, start_withStatements]
  exact forall_congr' fun s => imp_congr_left h.perm.mem_iff

lemma info_withStatements (h : Reordered d.statements statements) (mark : ℕ) :
    (d.withStatements statements).info mark = d.info mark := by
  simp [info, inherit, lastDeclared?, declared_withStatements h .description,
    declared_withStatements h .reference, declared_withStatements h .status,
    declared_withStatements h .units, declared_withStatements h .default]

lemma decimalFacets_withStatements (h : Reordered d.statements statements) (digits : ℕ)
    (ranges : List Constraint) (pending : List (Located ℕ)) :
    (d.withStatements statements).decimalFacets digits ranges pending =
      d.decimalFacets digits ranges pending := by
  simp [decimalFacets, declared_withStatements h .range]

lemma rootDecimalFacets_withStatements (h : Reordered d.statements statements) :
    SameSuccess (d.withStatements statements).rootDecimalFacets d.rootDecimalFacets := by
  simp only [rootDecimalFacets, declared_withStatements h .fractionDigits,
    decimalFacets_withStatements h]
  cases d.declared Declaration.fractionDigits? with
  | nil => exact .error _ _
  | cons first rest => exact .refl _

lemma targetPath_withStatements (h : Reordered d.statements statements)
    (inherited : Option String) :
    SameSuccess ((d.withStatements statements).targetPath inherited) (d.targetPath inherited) := by
  rw [targetPath, targetPath, declared_withStatements h .path]
  refine SameSuccess.bind (.refl _) fun only => ?_
  cases only with
  | some decl => exact .refl _
  | none =>
      cases inherited with
      | some path => exact .refl _
      | none => exact .error _ _

end Derivation

lemma rootMembers_sameSuccess (kind : MemberKind) (location location' : Location)
    (decls : List (Located MemberDecl)) :
    SameSuccess (rootMembers kind location decls) (rootMembers kind location' decls) := by
  rw [rootMembers, rootMembers]
  split_ifs
  · exact .error _ _
  · exact .refl _

namespace Derivation

variable {d : Derivation} {statements : List Statement}

lemma rootBody_withStatements (h : Reordered d.statements statements) (kind : RootKind) :
    SameSuccess ((d.withStatements statements).rootBody kind) (d.rootBody kind) := by
  cases kind with
  | bits =>
      simp only [rootBody, declared_withStatements h .bit]
      exact (rootMembers_sameSuccess _ _ _ _).bind fun _ => .refl _
  | decimal64 => exact (rootDecimalFacets_withStatements h).bind fun _ => .refl _
  | enumeration =>
      simp only [rootBody, declared_withStatements h .enum]
      exact (rootMembers_sameSuccess _ _ _ _).bind fun _ => .refl _
  | identityref =>
      simp only [rootBody, declared_withStatements h .base]
      cases d.declared Declaration.base? with
      | nil => exact .error _ _
      | cons first rest => exact .refl _
  | leafref =>
      simp only [rootBody, declared_withStatements h .requireInstance]
      exact (targetPath_withStatements h none).bind fun _ => .refl _
  | union =>
      simp only [rootBody, declared_withStatements h .type]
      cases d.declared Declaration.type? with
      | nil => exact .error _ _
      | cons first rest => exact .refl _

lemma derivedFacets_withStatements (h : Reordered d.statements statements) (facets : Facets) :
    SameSuccess ((d.withStatements statements).derivedFacets facets) (d.derivedFacets facets) := by
  cases facets with
  | leafref path required =>
      simp only [derivedFacets, declared_withStatements h .requireInstance]
      exact (targetPath_withStatements h path).bind fun _ => .refl _
  | _ =>
      -- no error of the other types shows the place of the first statement
      simp [derivedFacets, decimalFacets_withStatements h, SameSuccess.refl,
        declared_withStatements h .length, declared_withStatements h .bit,
        declared_withStatements h .fractionDigits, declared_withStatements h .enum,
        declared_withStatements h .base, declared_withStatements h .requireInstance,
        declared_withStatements h .range, declared_withStatements h .pattern]

lemma body_withStatements (h : Reordered d.statements statements) :
    SameSuccess (d.withStatements statements).body d.body := by
  rw [body, body, start_withStatements]
  cases d.start with
  | root kind => exact rootBody_withStatements h kind
  | type base =>
      obtain ⟨info, ancestor, facets | members⟩ := base
      · exact (derivedFacets_withStatements h facets).map Body.simple
      · simp [derivedBody, declared_withStatements h .type, SameSuccess.refl]

end Derivation

/-- **Only the order within one keyword matters.** If the statements of a step
are reordered such that those of each keyword keep their order, the step makes
the same type, with all that is in it, or still makes none; only the error may be
another one. -/
theorem build_eq_ok_iff_of_reordered (start : DerivationStart) (path : SchemaPath)
    (options : DerivationOptions) {statements statements' : List Statement}
    (h : Reordered statements statements') (mark : ℕ) (t : TypeDef) :
    (Derivation.mk start statements' path options).build mark = .ok t ↔
      (Derivation.mk start statements path options).build mark = .ok t := by
  let d : Derivation := ⟨start, statements, path, options⟩
  change (d.withStatements statements').build mark = .ok t ↔ d.build mark = .ok t
  have h' : Reordered d.statements statements' := h
  rw [build_eq_ok, build_eq_ok, checkDefault_eq_ok, checkDefault_eq_ok,
    Derivation.unsupported?_withStatements h', Derivation.info_withStatements h',
    Derivation.start_withStatements]
  refine and_congr_right fun _ => and_congr_left' ?_
  exact exists_congr fun body => and_congr_left' (Derivation.body_withStatements h' body)

/-- A range of decimals comes before the digits that it needs, and a description
is replaced by a later one; afterwards other statements stand between. -/
theorem build_eq_ok_iff_of_reordered_decimal :
    let range : Statement :=
      ⟨.range ⟨[⟨.literal "1", .literal "9.5"⟩], .none⟩, "t.yang:1"⟩
    let first : Statement := ⟨.description "some number", "t.yang:2"⟩
    let digits : Statement := ⟨.fractionDigits 2, "t.yang:3"⟩
    let last : Statement := ⟨.description "a small number", "t.yang:4"⟩
    let default : Statement := ⟨.default "2.25", "t.yang:5"⟩
    let statements := [range, first, digits, last, default]
    let statements' := [first, default, last, digits, range]
    Reordered statements statements' ∧
      ∃ t, (Derivation.mk (.root .decimal64) statements .root ⟨true⟩).build 0 = .ok t ∧
        (Derivation.mk (.root .decimal64) statements' .root ⟨true⟩).build 0 = .ok t := by
  intro range first digits last default statements statements'
  have h : Reordered statements statements' := by
    intro keyword
    cases keyword <;> rfl
  have hok : ((Derivation.mk (.root .decimal64) statements .root ⟨true⟩).build
      0).toOption.isSome = true := by decide +kernel
  obtain ⟨t, ht⟩ := Option.isSome_iff_exists.mp hok
  have hbuild := toOption_eq_some.mp ht
  exact ⟨h, t, hbuild, (build_eq_ok_iff_of_reordered _ _ _ h 0 t).mpr hbuild⟩

end YangTypes
