import Mathlib.Tactic
import YangTypes.Proofs.Derivation.Step

/-!
What the options of a step have to do with its result.

Options travel with the accumulator, and only one check reads them: fraction
digits that a decimal base already has may be declared again, and strict options
refuse them if they differ.

* `Derivation.DigitsAgree`: no declared fraction digits differ from those of the
  base. Then all options give the same result (`build_under_of_digitsAgree`), be it
  a type or an error.
* `build_strict_of_conflict`: otherwise a step that gets as far as its body ends,
  under strict options, with the first declaration that differs.
-/

namespace YangTypes

/-! ### Options in an accumulator -/

namespace Accumulator

/-- The same restrictions under other options. -/
def under (options : DerivationOptions) (acc : Accumulator) : Accumulator := { acc with options }

variable {acc : Accumulator} {options : DerivationOptions}

lemma setBounds_under (keyword : BoundKeyword) (candidate : List Constraint) :
    (acc.under options).setBounds keyword candidate =
      (acc.setBounds keyword candidate).map (under options) := by
  have hbounds : (acc.under options).bounds keyword = acc.bounds keyword := by
    cases keyword <;> rfl
  rw [setBounds, setBounds, hbounds]
  cases acc.bounds keyword with
  | some bounds => rfl
  | none =>
      simp only [under]
      cases narrow keyword (acc.base.bounds keyword) candidate with
      | error fault => rfl
      | ok result => cases keyword <;> rfl

/-- Without digits of a base the options are not looked at. -/
lemma setFractionDigits_under (h : acc.base.fractionDigits = none) (digits : ℕ) :
    (acc.under options).setFractionDigits digits =
      (acc.setFractionDigits digits).map (under options) := by
  simp only [setFractionDigits, under, h]
  split
  next => rfl
  next => cases acc.fractionDigits <;> rfl

/-- Fraction digits leave the restrictions of the base as they are. -/
lemma base_setFractionDigits {acc' : Accumulator} {digits : ℕ}
    (h : acc.setFractionDigits digits = .ok acc') : acc'.base = acc.base := by
  rw [setFractionDigits] at h
  split at h
  next =>
    split at h
    next => simp at h
    next => rw [← Except.ok.inj h]
  next =>
    split at h
    next => simp at h
    next =>
      split at h
      next => simp at h
      next => rw [← Except.ok.inj h]

end Accumulator

section

variable {acc : Accumulator} {options : DerivationOptions}

lemma applyBounds_under (keyword : BoundKeyword) (read : String → Except Violation Number)
    (decls : List (Located BoundsDecl)) :
    applyBounds keyword read (acc.under options) decls =
      (applyBounds keyword read acc decls).map (Accumulator.under options) := by
  refine foldLocated_map (P := fun _ => True) ?_ (fun _ _ _ _ _ _ => trivial) trivial
  intro acc _ ⟨decl, _⟩ _
  change resolveParts keyword (acc.base.bounds keyword) read decl.doc decl.parts >>= _ = _
  cases resolveParts keyword (acc.base.bounds keyword) read decl.doc decl.parts with
  | error fault => rfl
  | ok candidate => exact Accumulator.setBounds_under keyword candidate

lemma applyPatterns_under (decls : List (Located PatternDecl)) :
    applyPatterns (acc.under options) decls =
      (applyPatterns acc decls).map (Accumulator.under options) := by
  refine foldLocated_map (P := fun _ => True) ?_ (fun _ _ _ _ _ _ => trivial) trivial
  intro acc _ ⟨decl, _⟩ _
  dsimp only
  cases Pattern.make decl.regex decl.inverted decl.doc <;> rfl

lemma applyFractionDigits_under (h : acc.base.fractionDigits = none) (decls : List (Located ℕ)) :
    applyFractionDigits (acc.under options) decls =
      (applyFractionDigits acc decls).map (Accumulator.under options) := by
  refine foldLocated_map (P := fun acc => acc.base.fractionDigits = none) ?_ ?_ h
  · exact fun acc hnone decl _ => Accumulator.setFractionDigits_under hnone decl.value
  · exact fun acc hnone decl _ acc' hset => Accumulator.base_setFractionDigits hset ▸ hnone

/-! ### Fraction digits that the base has -/

/-- Digits that agree with those of the base change nothing, nor do others
unless the options are strict. -/
lemma applyFractionDigits_of_agree {digits : ℕ} (hbase : acc.base.fractionDigits = some digits)
    {decls : List (Located ℕ)} (h : ∀ decl ∈ decls, decl.value = digits) :
    applyFractionDigits acc decls = .ok acc := by
  induction decls with
  | nil => rfl
  | cons decl decls ih =>
      have hset : acc.setFractionDigits decl.value = .ok acc := by
        simp [Accumulator.setFractionDigits, hbase, h decl List.mem_cons_self]
      rw [applyFractionDigits, foldLocated, hset]
      exact ih fun other hother => h other (List.mem_cons_of_mem decl hother)

/-- Under strict options the first digits that differ are an error. -/
lemma applyFractionDigits_of_conflict {digits : ℕ}
    (hbase : acc.base.fractionDigits = some digits)
    (hstrict : acc.options.strictFractionDigits = true) {before after : List (Located ℕ)}
    {decl : Located ℕ} (hbefore : ∀ other ∈ before, other.value = digits)
    (hdecl : decl.value ≠ digits) :
    applyFractionDigits acc (before ++ decl :: after) =
      .error ⟨decl.location, .fractionDigitsConflict digits decl.value⟩ := by
  induction before with
  | nil =>
      have hset : acc.setFractionDigits decl.value =
          .error (.fractionDigitsConflict digits decl.value) := by
        simp [Accumulator.setFractionDigits, hbase, hstrict, hdecl.symm]
      rw [List.nil_append, applyFractionDigits, foldLocated, hset]
  | cons other before ih =>
      have hset : acc.setFractionDigits other.value = .ok acc := by
        simp [Accumulator.setFractionDigits, hbase, hbefore other List.mem_cons_self]
      rw [List.cons_append, applyFractionDigits, foldLocated, hset]
      exact ih fun later hlater => hbefore later (List.mem_cons_of_mem other hlater)

end

/-! ### Options of a step -/

/-- The types with fraction digits are the decimal ones. -/
lemma TypeDef.fractionDigits?_eq_some {t : TypeDef} {digits : ℕ} :
    t.fractionDigits? = some digits ↔ ∃ ranges, t.body = .simple (.decimal64 digits ranges) := by
  rw [TypeDef.fractionDigits?]
  split
  next digits' ranges hbody => simp [hbody, eq_comm]
  next hother =>
    refine ⟨nofun, ?_⟩
    rintro ⟨ranges, hbody⟩
    exact (hother digits ranges hbody).elim

namespace Derivation

/-- The same step under other options. -/
def under (options : DerivationOptions) (d : Derivation) : Derivation := { d with options }

/-- No declared fraction digits differ from those of the base, if it has some. -/
def DigitsAgree (d : Derivation) : Prop :=
  ∀ base digits, d.start = .type base → base.fractionDigits? = some digits →
    ∀ decl ∈ d.declared Declaration.fractionDigits?, decl.value = digits

variable {d : Derivation} {options : DerivationOptions}

lemma declared_under {α : Type} (f : Declaration → Option α) :
    (d.under options).declared f = d.declared f := rfl

lemma location_under : (d.under options).location = d.location := rfl

lemma start_under : (d.under options).start = d.start := rfl

/-- A bind that does not look at the options. -/
lemma bind_map_under {ε β : Type} {x : Except ε Accumulator}
    {f g : Accumulator → Except ε β} (h : ∀ acc : Accumulator, f (acc.under options) = g acc) :
    x.map (Accumulator.under options) >>= f = x >>= g := by
  cases x with
  | error e => rfl
  | ok acc => exact h acc

lemma decimalFacets_under {digits : ℕ} {ranges : List Constraint} {pending : List (Located ℕ)}
    (h : ∀ decl ∈ pending, decl.value = digits) :
    (d.under options).decimalFacets digits ranges pending =
      d.decimalFacets digits ranges pending := by
  simp only [decimalFacets]
  rw [applyFractionDigits_of_agree rfl h, applyFractionDigits_of_agree rfl h]
  change applyBounds .range _ ((Accumulator.start _ d.options).under options) _ >>= _ = _
  rw [applyBounds_under]
  exact bind_map_under fun acc => rfl

lemma rootDecimalFacets_under : (d.under options).rootDecimalFacets = d.rootDecimalFacets := by
  simp only [rootDecimalFacets, declared_under, location_under]
  cases d.declared Declaration.fractionDigits? with
  | nil => rfl
  | cons first rest =>
      change applyFractionDigits ((Accumulator.start .none d.options).under options) _ >>= _ = _
      rw [applyFractionDigits_under rfl]
      refine bind_map_under fun acc => ?_
      simp only [decimalFacets_under (List.forall_mem_nil _)]
      rfl

lemma derivedFacets_under {facets : Facets}
    (h : ∀ digits ranges, facets = .decimal64 digits ranges →
      ∀ decl ∈ d.declared Declaration.fractionDigits?, decl.value = digits) :
    (d.under options).derivedFacets facets = d.derivedFacets facets := by
  cases facets with
  | decimal64 digits ranges => exact decimalFacets_under (h digits ranges rfl)
  | binary lengths =>
      change applyBounds .length _ ((Accumulator.start _ d.options).under options) _ >>= _ = _
      rw [applyBounds_under]
      exact bind_map_under fun acc => rfl
  | integer kind ranges =>
      change applyBounds .range _ ((Accumulator.start _ d.options).under options) _ >>= _ = _
      rw [applyBounds_under]
      exact bind_map_under fun acc => rfl
  | string lengths patterns =>
      change applyBounds .length _ ((Accumulator.start _ d.options).under options) _ >>= _ = _
      rw [applyBounds_under]
      refine bind_map_under fun acc => ?_
      rw [applyPatterns_under]
      exact bind_map_under fun acc => rfl
  | _ => rfl

lemma body_under (h : d.DigitsAgree) : (d.under options).body = d.body := by
  rw [body, body, start_under]
  cases hstart : d.start with
  | type base =>
      obtain ⟨info, ancestor, facets | members⟩ := base
      · refine congrArg (Except.map Body.simple) (derivedFacets_under ?_)
        rintro digits ranges rfl
        exact h _ digits hstart rfl
      · rfl
  | root kind =>
      cases kind with
      | decimal64 =>
          change (d.under options).rootDecimalFacets >>= _ = d.rootDecimalFacets >>= _
          rw [rootDecimalFacets_under]
      | _ => rfl

/-- **Where the declared fraction digits agree with those of the base, options
make no difference**, neither to the type nor to the error. -/
theorem build_under_of_digitsAgree (h : d.DigitsAgree) (mark : ℕ) :
    (d.under options).build mark = d.build mark := by
  simp only [build, body_under h]
  rfl

/-- A statement that is not allowed is reported under all options. -/
lemma build_under_of_unsupported {s : Statement} (h : d.unsupported? = some s) (mark : ℕ) :
    (d.under options).build mark = d.build mark := by
  have h' : (d.under options).unsupported? = some s := h
  rw [build, build, h, h']
  rfl

/-- **Under strict options the first fraction digits that differ from those of
the base are the error**, if all statements are allowed. -/
theorem build_strict_of_conflict (before after : List (Located ℕ)) {decl : Located ℕ}
    {base : TypeDef} {digits : ℕ} (hsupported : d.unsupported? = none)
    (hstart : d.start = .type base) (hdigits : base.fractionDigits? = some digits)
    (hdeclared : d.declared Declaration.fractionDigits? = before ++ decl :: after)
    (hbefore : ∀ other ∈ before, other.value = digits) (hdecl : decl.value ≠ digits) (mark : ℕ) :
    (d.under ⟨true⟩).build mark =
      .error ⟨decl.location, .fractionDigitsConflict digits decl.value⟩ := by
  obtain ⟨ranges, hbody⟩ := TypeDef.fractionDigits?_eq_some.mp hdigits
  have herror : (d.under ⟨true⟩).body =
      .error ⟨decl.location, .fractionDigitsConflict digits decl.value⟩ := by
    simp only [body, start_under, hstart, hbody, derivedBody, derivedFacets, decimalFacets,
      declared_under, hdeclared]
    rw [applyFractionDigits_of_conflict rfl rfl hbefore hdecl]
    rfl
  have hsupported' : (d.under ⟨true⟩).unsupported? = none := hsupported
  rw [build, hsupported', herror]
  rfl

end Derivation

end YangTypes
