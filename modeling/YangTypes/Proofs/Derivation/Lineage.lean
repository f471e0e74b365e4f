import Mathlib.Tactic
import YangTypes.Proofs.Derivation.Reachable

/-!
The steps behind a type.

A type is the end of a chain of steps. The chain starts at a root, which is a
built-in type or is made by a first step without a base, and each further step
builds a type on the one before it. Nothing is asked of the statements, so an
argument without parts is a statement like any other here.

* `Lineage root steps t`: the steps from `root` to `t`, the last one first.
* `Lineage.ind`: the induction over chains, with what is known of the step in
  each of the three cases.
* `Lineage.getLast?_ancestry`: the root is the last ancestor.
-/

namespace YangTypes

/-- The steps that lead from a root to a type, the last one first. A root that
statements make counts its own step. -/
inductive Lineage : TypeDef → List Derivation → TypeDef → Prop where
  | builtin {kind : Kind} {t : TypeDef} (h : TypeDef.builtin? kind = some t) : Lineage t [] t
  | root {d : Derivation} {mark : ℕ} {kind : RootKind} {t : TypeDef}
      (start : d.start = .root kind) (build : d.build mark = .ok t) : Lineage t [d] t
  | step {root base t : TypeDef} {steps : List Derivation} {d : Derivation} {mark : ℕ}
      (lineage : Lineage root steps base) (start : d.start = .type base)
      (build : d.build mark = .ok t) : Lineage root (d :: steps) t

/-- **Induction over lineages.** -/
@[elab_as_elim]
theorem Lineage.ind {P : TypeDef → List Derivation → TypeDef → Prop}
    (builtin : ∀ kind facets, Kind.facets? kind = .ok facets →
      P (kind.define facets) [] (kind.define facets))
    (root : ∀ (d : Derivation) mark kind body, d.start = .root kind →
      d.unsupported? = none → RootStep d kind body →
      P ⟨d.info mark, none, body⟩ [d] ⟨d.info mark, none, body⟩)
    (step : ∀ (d : Derivation) mark root steps base body, d.start = .type base →
      d.unsupported? = none → BodyStep d base.body body → P root steps base →
      P root (d :: steps) ⟨d.info mark, some base, body⟩)
    {origin t : TypeDef} {steps : List Derivation} (h : Lineage origin steps t) :
    P origin steps t := by
  induction h with
  | @builtin kind t h =>
      obtain ⟨facets, hfacets, rfl⟩ := TypeDef.builtin?_eq_some h
      exact builtin kind facets hfacets
  | @root d mark kind t start build =>
      obtain ⟨hsupported, ⟨body, hbody, rfl⟩, -⟩ := build_eq_ok.mp build
      rw [Derivation.body, start] at hbody
      rw [start, DerivationStart.base?_root]
      exact root d mark kind body start hsupported (rootBody_step hbody)
  | @step origin base t steps d mark _ start build ih =>
      obtain ⟨hsupported, ⟨body, hbody, rfl⟩, -⟩ := build_eq_ok.mp build
      rw [Derivation.body, start] at hbody
      rw [start, DerivationStart.base?_type]
      exact step d mark origin steps base body start hsupported (derivedBody_step hbody) ih

/-! ### Ancestors -/

namespace TypeDef

variable {info : TypeInfo} {base : TypeDef} {body : Body TypeDef}

lemma ancestry_root : (⟨info, none, body⟩ : TypeDef).ancestry = [⟨info, none, body⟩] := by
  rw [ancestry]

lemma ancestry_derived : (⟨info, some base, body⟩ : TypeDef).ancestry =
    ⟨info, some base, body⟩ :: base.ancestry := by
  rw [ancestry]

lemma self_mem_ancestry (t : TypeDef) : t ∈ t.ancestry := by
  obtain ⟨info, base, body⟩ := t
  cases base with
  | none => rw [ancestry_root]; exact List.mem_singleton_self _
  | some base => rw [ancestry_derived]; exact List.mem_cons_self

lemma derivesFrom_refl (t : TypeDef) : t.derivesFrom t = true :=
  derivesFrom_iff.mpr t.self_mem_ancestry

/-- An ancestor of an ancestor is an ancestor. -/
lemma ancestry_subset {t a : TypeDef} (h : a ∈ t.ancestry) : a.ancestry ⊆ t.ancestry := by
  induction hn : t.ancestry.length generalizing t with
  | zero => simp [List.length_eq_zero_iff.mp hn] at h
  | succ n ih =>
      obtain ⟨info, base, body⟩ := t
      cases base with
      | none =>
          rw [ancestry_root, List.mem_singleton] at h
          rw [h]
          exact List.Subset.refl _
      | some base =>
          rw [ancestry_derived] at h hn ⊢
          rcases List.mem_cons.mp h with rfl | hbase
          · rw [ancestry_derived]
            exact List.Subset.refl _
          · exact List.subset_cons_of_subset _ (ih hbase (by simpa using hn))

lemma derivesFrom_trans {a b c : TypeDef} (hab : a.derivesFrom b = true)
    (hbc : b.derivesFrom c = true) : a.derivesFrom c = true :=
  derivesFrom_iff.mpr (ancestry_subset (derivesFrom_iff.mp hab) (derivesFrom_iff.mp hbc))

end TypeDef

/-- The chain ends at the root. -/
lemma Lineage.getLast?_ancestry {root t : TypeDef} {steps : List Derivation}
    (h : Lineage root steps t) : t.ancestry.getLast? = some root := by
  refine Lineage.ind ?builtin ?root ?step h
  case builtin =>
    intro kind facets _
    rw [Kind.define, TypeDef.ancestry_root, List.getLast?_singleton]
  case root =>
    intro d mark kind body _ _ _
    rw [TypeDef.ancestry_root, List.getLast?_singleton]
  case step =>
    intro d mark root steps base body _ _ _ ih
    rw [TypeDef.ancestry_derived, List.getLast?_cons, ih, Option.getD_some]

/-! ### The built-in type -/

lemma RootStep.kind_eq {d : Derivation} {kind : RootKind} {body : Body TypeDef} {info : TypeInfo}
    {base : Option TypeDef} (h : RootStep d kind body) :
    (⟨info, base, body⟩ : TypeDef).kind = kind.toKind := by
  cases h <;> rfl

/-- A step stays within the built-in type. -/
lemma BodyStep.kind_eq {d : Derivation} {base : TypeDef} {body : Body TypeDef} {info : TypeInfo}
    {base' : Option TypeDef} (h : BodyStep d base.body body) :
    (⟨info, base', body⟩ : TypeDef).kind = base.kind := by
  obtain ⟨binfo, bbase, bbody⟩ := base
  cases h with
  | simple h => cases h <;> rfl
  | union h => rfl

end YangTypes
