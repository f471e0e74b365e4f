import Mathlib.Tactic
import YangTypes.Proofs.Derivation.Conjunction
import YangTypes.Proofs.Derivation.Members

/-!
What is in force for a type, read off the statements of its whole chain.

A type holds everything that is in force for it, and a step looks at its base
only. Here each part of a type is computed from the declarations of all steps,
without the types between them.

* `nearest?` and `nearestAll`: the last declaration, and all declarations, of
  the nearest step that has any.
* `requiredAfter`: a requirement that one step makes stays; without one, the
  nearest declaration counts.
* `InForce`: the parts of a type as they follow from its steps, one field for
  each part. The policies differ from field to field: inherit or override,
  append, keep the root's, or select by name.
* `Lineage.nearest?_eq` and `Lineage.nearestAll_eq`: what one step does to a
  field says what a chain does to it.
-/

namespace YangTypes

/-! ### Declarations of a chain -/

/-- The last declaration of the nearest step that has one. -/
def nearest? {α : Type} (f : Declaration → Option α) (steps : List Derivation) : Option α :=
  steps.findSome? fun d => (d.lastDeclared? f).map Located.value

/-- All declarations of the nearest step that has any. -/
def nearestAll {α : Type} (f : Declaration → Option α) (steps : List Derivation) : List α :=
  match steps.find? fun d => !(d.declared f).isEmpty with
  | some d => (d.declared f).map Located.value
  | none => []

/-- Whether some step declares that a target is required. -/
def declaresRequired (steps : List Derivation) : Bool :=
  steps.any fun d => (d.declared Declaration.requireInstance?).any Located.value

/-- Whether a target is required after some steps: if one of them declares it,
or else if the nearest declaration says so. -/
def requiredAfter (initial : Bool) (steps : List Derivation) : Bool :=
  declaresRequired steps || (nearest? Declaration.requireInstance? steps).getD initial

/-- Whether the built-in references require a target if nothing is declared. -/
def Kind.requiredInitially? : Kind → Option Bool
  | leafref => some true
  | instanceIdentifier => some false
  | _ => none

/-- The parts of a type, computed from the steps of its chain. -/
structure InForce (root : TypeDef) (steps : List Derivation) (t : TypeDef) : Prop where
  origin : t.ancestry.getLast? = some root
  kind : t.kind = root.kind
  description : t.info.description = nearest? Declaration.description? steps
  reference : t.info.reference = nearest? Declaration.reference? steps
  units : t.info.units = nearest? Declaration.units? steps
  defaultValue : t.info.defaultValue = nearest? Declaration.default? steps
  status : t.info.status = (nearest? Declaration.status? steps).getD .current
  fractionDigits : t.fractionDigits? = root.fractionDigits?
  rootDigits : root.fractionDigits? = steps.getLast?.bind fun first =>
    (first.lastDeclared? Declaration.fractionDigits?).map Located.value
  patterns : List.Forall₂ MakesPattern
    (steps.reverse.flatMap fun d => d.declared Declaration.pattern?) t.patterns
  identities : t.identities = nearestAll Declaration.base? steps
  targetPath : t.targetPath? = nearest? Declaration.path? steps
  requireInstance : t.requireInstance? =
    root.kind.requiredInitially?.map fun initial => requiredAfter initial steps
  requirementKept : t.requireInstance? = some true → ∀ (d : Derivation) (mark : ℕ) (t' : TypeDef),
    d.start = .type t → (∃ decl ∈ d.declared Declaration.requireInstance?, decl.value = false) →
      d.build mark ≠ .ok t'
  names : ∀ kind : MemberKind,
    (t.named kind).map Member.name = (nearestAll kind.declaration? steps).map MemberDecl.name
  values : ∀ kind : MemberKind, ∀ m ∈ t.named kind, (∃ r ∈ root.named kind, r.name = m.name) ∧
    ∀ r ∈ root.named kind, r.name = m.name → r.value = m.value
  members : t.members = nearestAll Declaration.type? steps

section

variable {α : Type} {f : Declaration → Option α} {d : Derivation} {steps : List Derivation}

lemma nearest?_cons :
    nearest? f (d :: steps) = ((d.lastDeclared? f).map Located.value).or (nearest? f steps) := by
  rw [nearest?, List.findSome?_cons]
  cases (d.lastDeclared? f).map Located.value <;> rfl

lemma nearestAll_cons :
    nearestAll f (d :: steps) =
      if (d.declared f).isEmpty then nearestAll f steps
      else (d.declared f).map Located.value := by
  rw [nearestAll, List.find?_cons]
  cases (d.declared f).isEmpty <;> rfl

lemma lastDeclared?_eq_none (h : d.declared f = []) : d.lastDeclared? f = none := by
  rw [Derivation.lastDeclared?, h, List.getLast?_nil]

end

/-- A single declaration is the last one. -/
lemma atMostOne_eq_ok {α : Type} {keyword : Keyword} {decls : List (Located α)}
    {only : Option (Located α)} (h : atMostOne keyword decls = .ok only) :
    decls = only.toList := by
  unfold atMostOne at h
  split at h
  next => exact Except.ok.inj h ▸ rfl
  next => exact Except.ok.inj h ▸ rfl
  next => simp at h

/-! ### From steps to chains -/

/-- A field that each step overrides or inherits. -/
lemma Lineage.nearest?_eq {α : Type} (f : Declaration → Option α) (field : TypeDef → Option α)
    (hbuiltin : ∀ kind facets, Kind.facets? kind = .ok facets → field (kind.define facets) = none)
    (hroot : ∀ (d : Derivation) mark kind body, d.start = .root kind → d.unsupported? = none →
      RootStep d kind body →
      field ⟨d.info mark, none, body⟩ = (d.lastDeclared? f).map Located.value)
    (hstep : ∀ (d : Derivation) mark base body, d.start = .type base → d.unsupported? = none →
      BodyStep d base.body body →
      field ⟨d.info mark, some base, body⟩ =
        ((d.lastDeclared? f).map Located.value).or (field base))
    {root t : TypeDef} {steps : List Derivation} (h : Lineage root steps t) :
    field t = nearest? f steps := by
  refine Lineage.ind ?builtin ?root ?step h
  case builtin =>
    intro kind facets hfacets
    exact hbuiltin kind facets hfacets
  case root =>
    intro d mark kind body hstart hsupported hbody
    rw [hroot d mark kind body hstart hsupported hbody, nearest?_cons, nearest?, List.findSome?_nil,
      Option.or_none]
  case step =>
    intro d mark root steps base body hstart hsupported hbody ih
    rw [hstep d mark base body hstart hsupported hbody, nearest?_cons, ih]

/-- A list that each step replaces as a whole or inherits. -/
lemma Lineage.nearestAll_eq {α β : Type} (f : Declaration → Option α) (view : α → β)
    (field : TypeDef → List β)
    (hbuiltin : ∀ kind facets, Kind.facets? kind = .ok facets → field (kind.define facets) = [])
    (hroot : ∀ (d : Derivation) mark kind body, d.start = .root kind → d.unsupported? = none →
      RootStep d kind body →
      field ⟨d.info mark, none, body⟩ = ((d.declared f).map Located.value).map view)
    (hstep : ∀ (d : Derivation) mark base body, d.start = .type base → d.unsupported? = none →
      BodyStep d base.body body →
      field ⟨d.info mark, some base, body⟩ =
        if (d.declared f).isEmpty then field base
        else ((d.declared f).map Located.value).map view)
    {root t : TypeDef} {steps : List Derivation} (h : Lineage root steps t) :
    field t = (nearestAll f steps).map view := by
  refine Lineage.ind ?builtin ?root ?step h
  case builtin =>
    intro kind facets hfacets
    exact hbuiltin kind facets hfacets
  case root =>
    intro d mark kind body hstart hsupported hbody
    rw [hroot d mark kind body hstart hsupported hbody, nearestAll_cons]
    split
    next hempty => rw [List.isEmpty_iff.mp hempty]; rfl
    next => rfl
  case step =>
    intro d mark root steps base body hstart hsupported hbody ih
    rw [hstep d mark base body hstart hsupported hbody, nearestAll_cons, ih]
    split <;> rfl

/-- The root of a chain has a chain of its own. -/
lemma Lineage.exists_root {root t : TypeDef} {steps : List Derivation} (h : Lineage root steps t) :
    ∃ first, Lineage root first root := by
  induction h with
  | builtin h => exact ⟨[], .builtin h⟩
  | root start build => exact ⟨_, .root start build⟩
  | step _ _ _ ih => exact ih

lemma Lineage.kind_eq {root t : TypeDef} {steps : List Derivation} (h : Lineage root steps t) :
    t.kind = root.kind := by
  refine Lineage.ind ?builtin ?root ?step h
  case builtin => exact fun _ _ _ => rfl
  case root => exact fun _ _ _ _ _ _ _ => rfl
  case step =>
    intro d mark root steps base body _ _ hstep ih
    exact hstep.kind_eq.trans ih

/-! ### What a type says about itself -/

/-- A text that a type says about itself. -/
lemma Lineage.inherit_eq {f : Declaration → Option String} {g : TypeInfo → Option String}
    (hbuiltin : ∀ kind facets, g (Kind.define kind facets).info = none)
    (hinfo : ∀ (d : Derivation) mark, g (d.info mark) = d.inherit f g)
    {root t : TypeDef} {steps : List Derivation} (h : Lineage root steps t) :
    g t.info = nearest? f steps := by
  refine Lineage.nearest?_eq f (fun t => g t.info) ?builtin ?root ?step h
  case builtin => exact fun kind facets _ => hbuiltin kind facets
  case root =>
    intro d mark kind body hstart _ _
    rw [hinfo, Derivation.inherit, hstart, DerivationStart.base?_root]
    cases (d.lastDeclared? f).map Located.value <;> rfl
  case step =>
    intro d mark base body hstart _ _
    rw [hinfo, Derivation.inherit, hstart, DerivationStart.base?_type]
    cases (d.lastDeclared? f).map Located.value <;> rfl

lemma Lineage.status_eq {root t : TypeDef} {steps : List Derivation} (h : Lineage root steps t) :
    t.info.status = (nearest? Declaration.status? steps).getD .current := by
  refine Lineage.ind ?builtin ?root ?step h
  case builtin => exact fun _ _ _ => rfl
  case root =>
    intro d mark kind body hstart _ _
    rw [Derivation.info, hstart, DerivationStart.base?_root, nearest?_cons]
    cases (d.lastDeclared? Declaration.status?).map Located.value <;> rfl
  case step =>
    intro d mark root steps base body hstart _ _ ih
    rw [Derivation.info, hstart, DerivationStart.base?_type, nearest?_cons]
    cases (d.lastDeclared? Declaration.status?).map Located.value with
    | none => exact ih
    | some status => rfl

/-! ### Fraction digits -/

lemma BodyStep.fractionDigits?_eq {d : Derivation} {base : TypeDef} {body : Body TypeDef}
    {info : TypeInfo} (h : BodyStep d base.body body) :
    (⟨info, some base, body⟩ : TypeDef).fractionDigits? = base.fractionDigits? := by
  obtain ⟨binfo, bbase, bbody⟩ := base
  cases h with
  | simple h => cases h <;> rfl
  | union h => rfl

lemma TypeDef.kind_ne_decimal64 {t : TypeDef} (h : t.fractionDigits? = none) :
    t.kind ≠ .decimal64 := by
  obtain ⟨info, base, body⟩ := t
  cases body with
  | simple facets => cases facets <;> simp_all [fractionDigits?, TypeDef.kind, Facets.kind]
  | union members => simp [TypeDef.kind]

lemma Lineage.fractionDigits?_eq {root t : TypeDef} {steps : List Derivation}
    (h : Lineage root steps t) : t.fractionDigits? = root.fractionDigits? := by
  refine Lineage.ind ?builtin ?root ?step h
  case builtin => exact fun _ _ _ => rfl
  case root => exact fun _ _ _ _ _ _ _ => rfl
  case step =>
    intro d mark root steps base body _ _ hstep ih
    exact hstep.fractionDigits?_eq.trans ih

/-- The digits of a type are those that its first step declares. -/
lemma Lineage.fractionDigits?_first {root t : TypeDef} {steps : List Derivation}
    (h : Lineage root steps t) :
    t.fractionDigits? = steps.getLast?.bind fun first =>
      (first.lastDeclared? Declaration.fractionDigits?).map Located.value := by
  refine Lineage.ind ?builtin ?root ?step h
  case builtin =>
    intro kind facets hfacets
    cases kind <;> cases hfacets <;> rfl
  case root =>
    intro d mark kind body hstart hsupported hroot
    rw [List.getLast?_singleton, Option.bind_some, Derivation.lastDeclared?]
    cases hroot with
    | decimal64 hdigits => rw [hdigits]; rfl
    | _ =>
        rw [d.declared_eq_nil hsupported .fractionDigits (by rw [hstart]; rfl)]
        rfl
  case step =>
    intro d mark root steps base body hstart hsupported hstep ih
    rw [hstep.fractionDigits?_eq, ih]
    cases steps with
    | cons first rest => rw [List.getLast?_cons_cons]
    | nil =>
        -- the first step on a built-in type, which has no digits and allows none
        have hkind : base.kind ≠ .decimal64 := TypeDef.kind_ne_decimal64 ih
        have hdecls : d.declared Declaration.fractionDigits? = [] := by
          refine d.declared_eq_nil hsupported .fractionDigits ?_
          rw [hstart]
          exact beq_eq_false_iff_ne.mpr hkind
        rw [List.getLast?_singleton, Option.bind_some, lastDeclared?_eq_none hdecls]
        rfl

/-! ### Patterns -/

lemma BodyStep.patterns {d : Derivation} {base : TypeDef} {body : Body TypeDef}
    {info : TypeInfo} (h : BodyStep d base.body body) (hsupported : d.unsupported? = none)
    (hstart : d.start = .type base) :
    ∃ added, (⟨info, some base, body⟩ : TypeDef).patterns = base.patterns ++ added ∧
      List.Forall₂ MakesPattern (d.declared Declaration.pattern?) added := by
  have hkind : d.start.kind = base.kind := by rw [hstart]; rfl
  have hfacets : ∀ (info : TypeInfo) (base : Option TypeDef) (facets : Facets),
      (⟨info, base, .simple facets⟩ : TypeDef).patterns = facets.patterns := by
    intro info base facets
    cases facets <;> rfl
  obtain ⟨binfo, bbase, bbody⟩ := base
  cases h with
  | simple h =>
      rw [hfacets, hfacets]
      exact h.patterns_eq hsupported hkind
  | union h =>
      rw [d.declared_eq_nil hsupported .pattern (by rw [hkind]; rfl)]
      exact ⟨[], rfl, .nil⟩

/-- The patterns of all steps, the first step first. -/
lemma Lineage.patterns_eq {root t : TypeDef} {steps : List Derivation}
    (h : Lineage root steps t) :
    List.Forall₂ MakesPattern
      (steps.reverse.flatMap fun d => d.declared Declaration.pattern?) t.patterns := by
  refine Lineage.ind ?builtin ?root ?step h
  case builtin =>
    intro kind facets hfacets
    cases kind <;> cases hfacets <;> exact .nil
  case root =>
    intro d mark kind body hstart hsupported hroot
    have hdecls : d.declared Declaration.pattern? = [] :=
      d.declared_eq_nil hsupported .pattern (by rw [hstart]; cases kind <;> rfl)
    rw [List.reverse_singleton, List.flatMap_singleton, hdecls]
    cases hroot <;> exact .nil
  case step =>
    intro d mark root steps base body hstart hsupported hstep ih
    obtain ⟨added, hpatterns, hadded⟩ := hstep.patterns hsupported hstart
    rw [hpatterns, List.reverse_cons, List.flatMap_append, List.flatMap_singleton]
    exact List.rel_append ih hadded

/-! ### References -/

/-- The path of a step, or else the one before it. -/
lemma targetPath_eq_ok {d : Derivation} {inherited : Option String} {path : String}
    (h : d.targetPath inherited = .ok path) :
    some path = ((d.lastDeclared? Declaration.path?).map Located.value).or inherited := by
  rw [Derivation.targetPath, bind_eq_ok] at h
  obtain ⟨only, honly, h⟩ := h
  rw [Derivation.lastDeclared?, atMostOne_eq_ok honly]
  split at h
  next decl => exact congrArg some (Except.ok.inj h).symm
  next path' => exact congrArg some (Except.ok.inj h).symm
  next => exact absurd h throw_ne_ok

/-- A requirement is declared at most once, and not given up. -/
lemma deriveRequireInstance_eq_ok {inherited : Option Bool} {decls : List (Located Bool)}
    {required : Bool} (h : deriveRequireInstance inherited decls = .ok required) :
    ∃ only : Option (Located Bool), decls = only.toList ∧
      required = (only.map Located.value).getD (inherited.getD true) ∧
      (inherited = some true → required = true) := by
  rw [deriveRequireInstance, bind_eq_ok] at h
  obtain ⟨only, honly, h⟩ := h
  refine ⟨only, atMostOne_eq_ok honly, ?_⟩
  cases only with
  | none =>
      obtain rfl := Except.ok.inj h
      exact ⟨rfl, fun htrue => by rw [htrue]; rfl⟩
  | some decl =>
      dsimp only at h
      split at h
      next => exact absurd h throw_ne_ok
      next hkept =>
        obtain rfl := Except.ok.inj h
        refine ⟨rfl, fun htrue => ?_⟩
        by_contra hfalse
        exact hkept ⟨htrue, hfalse⟩

/-- The path to the target is inherited or overridden. -/
lemma Lineage.targetPath?_eq {root t : TypeDef} {steps : List Derivation}
    (h : Lineage root steps t) : t.targetPath? = nearest? Declaration.path? steps := by
  refine Lineage.nearest?_eq _ TypeDef.targetPath? ?builtin ?root ?step h
  case builtin =>
    intro kind facets hfacets
    cases kind <;> cases hfacets <;> rfl
  case root =>
    intro d mark kind body hstart hsupported hroot
    cases hroot with
    | leafref hpath =>
        have hsome := targetPath_eq_ok hpath
        rwa [Option.or_none] at hsome
    | _ =>
        rw [lastDeclared?_eq_none (d.declared_eq_nil hsupported .path (by rw [hstart]; rfl))]
        rfl
  case step =>
    intro d mark base body hstart hsupported hstep
    obtain ⟨binfo, bbase, bbody⟩ := base
    cases hstep with
    | simple h =>
        cases h with
        | leafref hpath => exact targetPath_eq_ok hpath
        | _ =>
            rw [lastDeclared?_eq_none (d.declared_eq_nil hsupported .path (by rw [hstart]; rfl))]
            rfl
    | union h =>
        rw [lastDeclared?_eq_none (d.declared_eq_nil hsupported .path (by rw [hstart]; rfl))]
        rfl

/-- One step more. A requirement that an earlier step declares must be kept. -/
lemma requiredAfter_cons {initial required : Bool} {d : Derivation} {steps : List Derivation}
    {only : Option (Located Bool)} (hdecls : d.declared Declaration.requireInstance? = only.toList)
    (hrequired : required = (only.map Located.value).getD (requiredAfter initial steps))
    (hkept : declaresRequired steps = true → required = true) :
    requiredAfter initial (d :: steps) = required := by
  rw [requiredAfter, declaresRequired, List.any_cons, ← declaresRequired, hdecls, nearest?_cons,
    Derivation.lastDeclared?, hdecls]
  cases only with
  | none =>
      rw [hrequired, requiredAfter]
      rfl
  | some decl =>
      obtain rfl : required = decl.value := hrequired
      simp only [Option.toList_some, List.any_cons, List.any_nil, Bool.or_false,
        List.getLast?_singleton, Option.map_some, Option.some_or, Option.getD_some]
      cases hdecl : decl.value with
      | true => rfl
      | false =>
          rw [Bool.false_or, Bool.or_false]
          exact Bool.eq_false_iff.mpr fun htrue => by simp [hkept htrue] at hdecl

/-- Only references have a requirement, and their steps derive it. -/
lemma BodyStep.requireInstance {d : Derivation} {base : TypeDef} {body : Body TypeDef}
    (h : BodyStep d base.body body) (info : TypeInfo) :
    (base.requireInstance? = none ∧
      (⟨info, some base, body⟩ : TypeDef).requireInstance? = none) ∨
    ∃ before after, base.requireInstance? = some before ∧
      (⟨info, some base, body⟩ : TypeDef).requireInstance? = some after ∧
      deriveRequireInstance before (d.declared Declaration.requireInstance?) = .ok after := by
  obtain ⟨binfo, bbase, bbody⟩ := base
  cases h with
  | union h => exact .inl ⟨rfl, rfl⟩
  | simple h =>
      cases h with
      | leafref _ h => exact .inr ⟨_, _, rfl, rfl, h⟩
      | instanceIdentifier h => exact .inr ⟨_, _, rfl, rfl, h⟩
      | _ => exact .inl ⟨rfl, rfl⟩

/-- The requirement of a reference, from the declarations of its chain. -/
lemma Lineage.requireInstance?_eq {root t : TypeDef} {steps : List Derivation}
    (h : Lineage root steps t) :
    t.requireInstance? =
      t.kind.requiredInitially?.map fun initial => requiredAfter initial steps := by
  refine Lineage.ind ?builtin ?root ?step h
  case builtin =>
    intro kind facets hfacets
    cases kind <;> cases hfacets <;> rfl
  case root =>
    intro d mark kind body hstart _ hroot
    cases hroot with
    | @leafref path required _ hrequired =>
        obtain ⟨only, hdecls, hvalue, -⟩ := deriveRequireInstance_eq_ok hrequired
        have hafter : requiredAfter true [d] = required :=
          requiredAfter_cons hdecls hvalue fun hdeclares => by simp [declaresRequired] at hdeclares
        exact congrArg some hafter.symm
    | _ => rfl
  case step =>
    intro d mark root steps base body _ _ hstep ih
    rw [hstep.kind_eq]
    rcases hstep.requireInstance (d.info mark) with
      ⟨hnone, hnone'⟩ | ⟨before, after, hbefore, hafter, hderive⟩
    · rw [hnone', ← hnone, ih]
      rw [hnone, eq_comm, Option.map_eq_none_iff] at ih
      rw [ih]
      rfl
    · rw [hbefore, eq_comm, Option.map_eq_some_iff] at ih
      obtain ⟨initial, hinitial, rfl⟩ := ih
      obtain ⟨only, hdecls, hvalue, hkept⟩ := deriveRequireInstance_eq_ok hderive
      have hstill : declaresRequired steps = true → after = true := by
        intro hdeclares
        refine hkept (congrArg some ?_)
        rw [requiredAfter, hdeclares, Bool.true_or]
      rw [hafter, hinitial, Option.map_some, requiredAfter_cons hdecls hvalue hstill]

/-- Where a target is required, no step that gives it up is built. -/
lemma build_ne_ok_of_requirement {t t' : TypeDef} {d : Derivation} {mark : ℕ}
    (h : t.requireInstance? = some true) (hstart : d.start = .type t)
    (hdecl : ∃ decl ∈ d.declared Declaration.requireInstance?, decl.value = false) :
    d.build mark ≠ .ok t' := by
  intro hbuild
  obtain ⟨-, ⟨body, hbody, rfl⟩, -⟩ := build_eq_ok.mp hbuild
  rw [Derivation.body, hstart] at hbody
  obtain ⟨decl, hmem, hfalse⟩ := hdecl
  rcases (derivedBody_step hbody).requireInstance (d.info mark) with
    ⟨hnone, -⟩ | ⟨before, after, hbefore, -, hderive⟩
  · rw [h] at hnone
    exact absurd hnone (by simp)
  · obtain rfl : true = before := Option.some.inj (h.symm.trans hbefore)
    obtain ⟨only, hdecls, hvalue, hkept⟩ := deriveRequireInstance_eq_ok hderive
    rw [hdecls, Option.mem_toList] at hmem
    rw [hmem, Option.map_some, Option.getD_some, hfalse, hkept rfl] at hvalue
    exact absurd hvalue (by simp)

/-! ### Identities, names and members -/

lemma Lineage.identities_eq {root t : TypeDef} {steps : List Derivation}
    (h : Lineage root steps t) : t.identities = nearestAll Declaration.base? steps := by
  rw [← List.map_id (nearestAll Declaration.base? steps)]
  refine Lineage.nearestAll_eq _ id TypeDef.identities ?builtin ?root ?step h
  case builtin =>
    intro kind facets hfacets
    cases kind <;> cases hfacets <;> rfl
  case root =>
    intro d mark kind body hstart hsupported hroot
    rw [List.map_id]
    cases hroot with
    | identityref => rfl
    | _ =>
        rw [d.declared_eq_nil hsupported .base (by rw [hstart]; rfl)]
        rfl
  case step =>
    intro d mark base body hstart hsupported hstep
    rw [List.map_id]
    obtain ⟨binfo, bbase, bbody⟩ := base
    cases hstep with
    | simple h =>
        cases h with
        | identityref => rfl
        | _ =>
            rw [d.declared_eq_nil hsupported .base (by rw [hstart]; rfl)]
            rfl
    | union h =>
        rw [d.declared_eq_nil hsupported .base (by rw [hstart]; rfl)]
        rfl

lemma map_name_eq_of_forall₂ {decls : List (Located MemberDecl)} {members : List Member}
    (h : List.Forall₂ (fun decl m => m.name = decl.value.name) decls members) :
    members.map Member.name = (decls.map Located.value).map MemberDecl.name := by
  induction h with
  | nil => rfl
  | cons hname _ ih => rw [List.map_cons, hname, ih]; rfl

/-- The names of a type are those that the nearest list declares. -/
lemma Lineage.names_eq {root t : TypeDef} {steps : List Derivation} (h : Lineage root steps t)
    (kind : MemberKind) :
    (t.named kind).map Member.name = (nearestAll kind.declaration? steps).map MemberDecl.name := by
  refine Lineage.nearestAll_eq _ MemberDecl.name (fun t => (t.named kind).map Member.name)
    ?builtin ?root ?step h
  case builtin =>
    intro k facets hfacets
    cases kind <;> cases k <;> cases hfacets <;> rfl
  case root =>
    intro d mark rootKind body hstart hsupported hroot
    by_cases hkind : rootKind.toKind = kind.toKind
    · exact map_name_eq_of_forall₂ (rootMembers_eq_ok (hroot.named hkind)).2.2
    · have hdecls : d.declared kind.declaration? = [] :=
        Derivation.declared_members_eq_nil hsupported (by rw [hstart]; exact hkind)
      rw [TypeDef.named_eq_nil (hroot.kind_eq.trans_ne hkind), hdecls]
      rfl
  case step =>
    intro d mark base body hstart hsupported hstep
    rcases derivedMembers_eq_ok (hstep.named hsupported hstart) with
      ⟨hnil, hsame⟩ | ⟨hne, hselects⟩
    · rw [hnil, hsame]
      rfl
    · rw [if_neg (by rwa [List.isEmpty_iff])]
      exact map_name_eq_of_forall₂ (hselects.imp fun _ _ hselect => hselect.1)

/-- The numbers of members are those that the root gives to their names. -/
lemma Lineage.values_eq {root t : TypeDef} {steps : List Derivation} (h : Lineage root steps t)
    (kind : MemberKind) {m : Member} (hm : m ∈ t.named kind) :
    (∃ r ∈ root.named kind, r.name = m.name) ∧
      ∀ r ∈ root.named kind, r.name = m.name → r.value = m.value := by
  have hkind : t.kind = kind.toKind := by
    by_contra hne
    rw [TypeDef.named_eq_nil hne] at hm
    simp at hm
  have hroot : root ∈ t.ancestry := List.mem_of_getLast? h.getLast?_ancestry
  obtain ⟨first, hfirst⟩ := h.exists_root
  have hnames := (hfirst.namedMembers kind (h.kind_eq.symm.trans hkind)).distinct.names
  obtain ⟨r, hr, hname, hvalue⟩ := (h.namedMembers kind hkind).inherited root hroot m hm
  refine ⟨⟨r, hr, hname⟩, fun r' hr' hname' => ?_⟩
  obtain rfl : r' = r := List.inj_on_of_nodup_map hnames hr' hr (hname'.trans hname.symm)
  exact hvalue

lemma Lineage.members_eq {root t : TypeDef} {steps : List Derivation} (h : Lineage root steps t) :
    t.members = nearestAll Declaration.type? steps := by
  rw [← List.map_id (nearestAll Declaration.type? steps)]
  refine Lineage.nearestAll_eq _ id TypeDef.members ?builtin ?root ?step h
  case builtin => exact fun _ _ _ => rfl
  case root =>
    intro d mark kind body hstart hsupported hroot
    rw [List.map_id]
    cases hroot with
    | union => rfl
    | _ =>
        rw [d.declared_eq_nil hsupported .type (by rw [hstart]; rfl)]
        rfl
  case step =>
    intro d mark base body hstart hsupported hstep
    rw [List.map_id]
    rcases deriveUnionMembers_eq_ok.mp (hstep.members hsupported hstart) with
      ⟨hnil, hsame⟩ | ⟨hne, hmembers, -⟩
    · rw [hnil, hsame]
      rfl
    · rw [if_neg (by rwa [List.isEmpty_iff]), hmembers]

/-- **What is in force follows from the chain.** However many steps there are
and whatever they declare, every part of a type is the one that is computed
from the declarations of all its steps. -/
theorem in_force_of_lineage {root t : TypeDef} {steps : List Derivation}
    (h : Lineage root steps t) : InForce root steps t where
  origin := h.getLast?_ancestry
  kind := h.kind_eq
  description := h.inherit_eq (fun _ _ => rfl) (fun _ _ => rfl)
  reference := h.inherit_eq (fun _ _ => rfl) (fun _ _ => rfl)
  units := h.inherit_eq (fun _ _ => rfl) (fun _ _ => rfl)
  defaultValue := h.inherit_eq (fun _ _ => rfl) (fun _ _ => rfl)
  status := h.status_eq
  fractionDigits := h.fractionDigits?_eq
  rootDigits := h.fractionDigits?_eq.symm.trans h.fractionDigits?_first
  patterns := h.patterns_eq
  identities := h.identities_eq
  targetPath := h.targetPath?_eq
  requireInstance := h.kind_eq ▸ h.requireInstance?_eq
  requirementKept := fun htrue _ _ _ hstart hdecl => build_ne_ok_of_requirement htrue hstart hdecl
  names := h.names_eq
  values := fun kind _ hm => h.values_eq kind hm
  members := h.members_eq

/-- A leaf reference in three steps. The second one requires a target, and the
third one changes the path and the description; nothing built on it gives up
the requirement. -/
theorem in_force_of_lineage_leafref :
    let first : Derivation :=
      ⟨.root .leafref, [⟨.path "/a/b", "1"⟩, ⟨.requireInstance false, "2"⟩,
        ⟨.description "one", "3"⟩, ⟨.units "m", "4"⟩], .root, ⟨false⟩⟩
    let root : TypeDef := ⟨first.info 0, none, .simple (.leafref "/a/b" false)⟩
    let second : Derivation :=
      ⟨.type root, [⟨.requireInstance true, "1"⟩, ⟨.status .deprecated, "2"⟩], .root, ⟨false⟩⟩
    let middle : TypeDef := ⟨second.info 0, some root, .simple (.leafref "/a/b" true)⟩
    let third : Derivation :=
      ⟨.type middle, [⟨.path "/c/d", "1"⟩, ⟨.description "two", "2"⟩,
        ⟨.description "three", "3"⟩], .root, ⟨false⟩⟩
    let t : TypeDef := ⟨third.info 0, some middle, .simple (.leafref "/c/d" true)⟩
    let relaxing : Derivation := ⟨.type t, [⟨.requireInstance false, "1"⟩], .root, ⟨false⟩⟩
    Lineage root [third, second, first] t ∧ InForce root [third, second, first] t ∧
      t.info.description = some "three" ∧ t.info.units = some "m" ∧
      t.info.status = .deprecated ∧ t.requireInstance? = some true ∧
      ∀ mark t', relaxing.build mark ≠ .ok t' := by
  intro first root second middle third t relaxing
  have hroot : Lineage root [first] root :=
    .root (show first.start = .root .leafref from rfl) (show first.build 0 = .ok root from rfl)
  have hmiddle : Lineage root [second, first] middle :=
    .step hroot rfl (show second.build 0 = .ok middle from rfl)
  have ht : Lineage root [third, second, first] t :=
    .step hmiddle rfl (show third.build 0 = .ok t from rfl)
  have hforce := in_force_of_lineage ht
  refine ⟨ht, hforce, hforce.description, hforce.units, hforce.status, hforce.requireInstance, ?_⟩
  intro mark t'
  exact hforce.requirementKept rfl relaxing mark t' rfl ⟨_, List.mem_singleton_self _, rfl⟩

end YangTypes
