import Mathlib.Tactic
import YangTypes.Proofs.Derivation.Step
import YangTypes.Proofs.TypeDef.Acceptance

/-!
The types that can be built.

A type is reachable if it is a built-in type, or if it is built by a step whose
base and whose declared members are reachable. The parts of a `range` or a
`length` come from an argument, which has at least one; a step on which this
holds is `Admissible`. A default value is checked when its type is built, so what
is reachable depends on the engine.

* `TypeDef.Reachable.ind`: the induction over chains of derivations, with the
  three ways to make a type and what is known of the step in each.
* `FacetStep.narrowed`: on the four types that bound a number a step narrows the
  bounds and leaves everything else that decides about a number as it is.
-/

namespace YangTypes

/-- The statements of a step that narrow bounds. -/
def Derivation.boundsDeclared (d : Derivation) : BoundKeyword → List (Located BoundsDecl)
  | .range => d.declared Declaration.range?
  | .length => d.declared Declaration.length?

/-- A type that is built in, or built by steps from such types. -/
inductive TypeDef.Reachable (engine : Engine := .standard) : TypeDef → Prop where
  | builtin {kind : Kind} {t : TypeDef} (h : TypeDef.builtin? kind = some t) : Reachable engine t
  | built {d : Derivation} {mark : ℕ} {t : TypeDef}
      (base : ∀ b, d.start = .type b → Reachable engine b)
      (members : ∀ decl ∈ d.declared Declaration.type?, Reachable engine decl.value)
      (parts : ∀ keyword, ∀ decl ∈ d.boundsDeclared keyword, decl.value.parts ≠ [])
      (build : d.build mark engine = .ok t) : Reachable engine t

/-- A step from reachable types, whose bounds have at least one part. -/
structure Derivation.Admissible (d : Derivation) (engine : Engine := .standard) : Prop where
  base : ∀ b, d.start = .type b → b.Reachable engine
  members : ∀ decl ∈ d.declared Declaration.type?, decl.value.Reachable engine
  parts : ∀ keyword, ∀ decl ∈ d.boundsDeclared keyword, decl.value.parts ≠ []

lemma Derivation.Admissible.reachable {d : Derivation} {mark : ℕ} {engine : Engine} {t : TypeDef}
    (h : d.Admissible engine) (hbuild : d.build mark engine = .ok t) : t.Reachable engine :=
  .built h.base h.members h.parts hbuild

/-- **Induction over chains of derivations.** A property of all reachable types
holds of the built-in types, of the roots that statements make, and of every
type that is derived from one that has it, if the declared members have it. -/
@[elab_as_elim]
theorem TypeDef.Reachable.ind {engine : Engine} {P : TypeDef → Prop}
    (builtin : ∀ kind facets, Kind.facets? kind = .ok facets → P (kind.define facets))
    (root : ∀ (d : Derivation) mark kind body, d.Admissible engine → d.start = .root kind →
      d.unsupported? = none → d.rootBody kind = .ok body →
      (∀ decl ∈ d.declared Declaration.type?, P decl.value) → P ⟨d.info mark, none, body⟩)
    (derived : ∀ (d : Derivation) mark base body, d.Admissible engine → d.start = .type base →
      d.unsupported? = none → d.derivedBody base.body = .ok body → P base →
      (∀ decl ∈ d.declared Declaration.type?, P decl.value) →
      P ⟨d.info mark, some base, body⟩)
    {t : TypeDef} (h : t.Reachable engine) : P t := by
  induction h with
  | @builtin kind t h =>
      obtain ⟨facets, hfacets, rfl⟩ := TypeDef.builtin?_eq_some h
      exact builtin kind facets hfacets
  | @built d mark t base members parts build ihbase ihmembers =>
      obtain ⟨hsupported, ⟨body, hbody, rfl⟩, -⟩ := build_eq_ok.mp build
      rw [Derivation.body] at hbody
      cases hstart : d.start with
      | type b =>
          rw [hstart] at hbody
          exact derived d mark b body ⟨base, members, parts⟩ hstart hsupported hbody
            (ihbase b hstart) ihmembers
      | root kind =>
          rw [hstart] at hbody
          exact root d mark kind body ⟨base, members, parts⟩ hstart hsupported hbody ihmembers

/-- A reachable type with a base is what an admissible step makes of it. -/
lemma TypeDef.Reachable.exists_step {engine : Engine} {t base : TypeDef} (h : t.Reachable engine)
    (hbase : t.base = some base) :
    ∃ (d : Derivation) (mark : ℕ) (body : Body TypeDef), d.Admissible engine ∧
      d.start = .type base ∧ d.derivedBody base.body = .ok body ∧
      t = ⟨d.info mark, some base, body⟩ := by
  revert hbase
  refine TypeDef.Reachable.ind ?builtin ?root ?derived h
  case builtin =>
    intro kind facets _ hbase
    simp [Kind.define] at hbase
  case root =>
    intro d mark kind body _ _ _ _ _ hbase
    simp at hbase
  case derived =>
    intro d mark b body hd hstart _ hbody _ _ hbase
    obtain rfl := Option.some.inj hbase
    exact ⟨d, mark, body, hd, hstart, hbody, rfl⟩

/-! ### Types that bound a number -/

/-- A step keeps the domain. -/
lemma FacetStep.domain?_eq {d : Derivation} {facets facets' : Facets}
    (h : FacetStep d facets facets') : facets'.domain? = facets.domain? := by
  cases h <;> rfl

/-- A step narrows the bounds by its statements, and the number of a text, the
notation of bounds and their keyword stay. -/
lemma FacetStep.narrowed {d : Derivation} {facets facets' : Facets} {domain : Domain}
    (h : FacetStep d facets facets') (hdomain : facets.domain? = some domain) :
    Narrowed facets.keyword facets.readBound facets.bounds (d.boundsDeclared facets.keyword)
        facets'.bounds ∧
      ∀ text engine, facets'.measure? text engine = facets.measure? text engine := by
  cases h with
  | binary h => exact ⟨h, fun _ _ => rfl⟩
  | decimal64 h => exact ⟨h, fun _ _ => rfl⟩
  | integer h => exact ⟨h, fun _ _ => rfl⟩
  | string hlengths => exact ⟨hlengths, fun _ _ => rfl⟩
  | _ => simp [Facets.domain?] at hdomain

/-- The same for the body of a type: what is derived is no union if the base is
none, and its facets come from those of the base. -/
lemma derivedBody_simple {d : Derivation} {facets : Facets} {body : Body TypeDef}
    (h : d.derivedBody (.simple facets) = .ok body) :
    ∃ facets', body = .simple facets' ∧ FacetStep d facets facets' := by
  rw [Derivation.derivedBody, map_eq_ok] at h
  obtain ⟨facets', hfacets, rfl⟩ := h
  exact ⟨facets', rfl, derivedFacets_step hfacets⟩

lemma derivedBody_union {d : Derivation} {members : List TypeDef} {body : Body TypeDef}
    (h : d.derivedBody (.union members) = .ok body) :
    ∃ members', body = .union members' ∧
      deriveUnionMembers members (d.declared Declaration.type?) = .ok members' := by
  rw [Derivation.derivedBody, map_eq_ok] at h
  obtain ⟨members', hmembers, rfl⟩ := h
  exact ⟨members', rfl, hmembers⟩

/-- What a step makes of the body of its base. -/
inductive BodyStep (d : Derivation) : Body TypeDef → Body TypeDef → Prop where
  | simple {facets facets' : Facets} (h : FacetStep d facets facets') :
      BodyStep d (.simple facets) (.simple facets')
  | union {members members' : List TypeDef}
      (h : deriveUnionMembers members (d.declared Declaration.type?) = .ok members') :
      BodyStep d (.union members) (.union members')

lemma derivedBody_step {d : Derivation} {body body' : Body TypeDef}
    (h : d.derivedBody body = .ok body') : BodyStep d body body' := by
  cases body with
  | simple facets =>
      obtain ⟨facets', rfl, hstep⟩ := derivedBody_simple h
      exact .simple hstep
  | union members =>
      obtain ⟨members', rfl, hmembers⟩ := derivedBody_union h
      exact .union hmembers

end YangTypes
