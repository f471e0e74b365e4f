import Mathlib.Tactic
import YangTypes.Proofs.Bound.Notation
import YangTypes.Proofs.Derivation.Intervals

/-!
Restating what a type has changes nothing.

* `Facets.readBound_text`: the text of a bound is read as the bound, for every
  number of the domain of a type.
* `Canonical.narrow_eq_ok`: canonical bounds are narrowed by their own intervals,
  which are in order, apart and sorted already.
* `build_eq_ok_of_accepts`: a step that declares no default succeeds if its body
  can be made and accepts what the base accepts. The inherited default is
  accepted by the base (`TypeDef.Reachable.accepts_default`), so it is accepted
  by the new type.
-/

namespace YangTypes

open Text

/-! ### Reading bounds back -/

/-- What is written for a bound of a type is read as that bound. -/
lemma Facets.readBound_text {facets : Facets} {domain : Domain}
    (hdomain : facets.domain? = some domain) {n : Number} (hform : n.form = domain.form)
    (hleast : domain.least ≤ n.toRat) (hgreatest : n.toRat ≤ domain.greatest) :
    facets.readBound n.text = .ok n := by
  have hlength : domain = .lengths → readLength n.text = .ok n := by
    rintro rfl
    cases n with
    | decimal d => simp [Number.form, Domain.lengths] at hform
    | integer n =>
        have hleast : (0 : ℚ) ≤ n := hleast
        have hgreatest : (n : ℚ) ≤ 2 ^ 64 - 1 := hgreatest
        have hnonneg : 0 ≤ n := by exact_mod_cast hleast
        have hlt : n.toNat < twoPow Width.w64.bits := by
          have hn : n < 2 ^ 64 := by
            have hrat : (n : ℚ) < 2 ^ 64 := by linarith
            exact_mod_cast hrat
          have hpow : twoPow Width.w64.bits = 2 ^ 64 := rfl
          omega
        have hn : (⟨n.toNat, hlt⟩ : Unsigned .w64).toInt = n := Int.toNat_of_nonneg hnonneg
        refine map_eq_ok.mpr ⟨⟨n.toNat, hlt⟩, Unsigned.parse_eq_ok.mpr ?_, by rw [hn]⟩
        rw [hn]
        exact integerLiteral_toString n
  cases facets with
  | binary lengths => exact hlength (Option.some.inj hdomain).symm
  | string lengths patterns => exact hlength (Option.some.inj hdomain).symm
  | integer kind ranges =>
      obtain rfl : Domain.integers kind = domain := Option.some.inj hdomain
      cases n with
      | decimal d => simp [Number.form, Domain.integers] at hform
      | integer n =>
          have hlow : kind.low ≤ n := Int.cast_le.mp hleast
          have hhigh : n ≤ kind.high := Int.cast_le.mp hgreatest
          exact map_eq_ok.mpr
            ⟨n, IntegerKind.parse_eq_ok.mpr ⟨integerLiteral_toString n, hlow, hhigh⟩, rfl⟩
  | decimal64 digits ranges =>
      obtain rfl : Domain.decimals digits = domain := Option.some.inj hdomain
      cases n with
      | integer n => simp [Number.form, Domain.decimals] at hform
      | decimal d =>
          have hscale : d.scale = digits := Number.Form.decimal.inj hform
          exact map_eq_ok.mpr
            ⟨d, parseDecimal_eq_ok.mpr ⟨hscale, d.decimalLiteral_canonical⟩, rfl⟩
  | _ => simp [domain?] at hdomain

/-! ### Narrowing by the same intervals -/

section

variable {domain : Domain} {base candidate : List Constraint}

/-- Whether bounds are canonical depends on their intervals alone. -/
lemma Canonical.congr (h : Canonical domain base)
    (hsame : candidate.map Constraint.interval = base.map Constraint.interval) :
    Canonical domain candidate := by
  have hmem : ∀ c ∈ candidate, ∃ b ∈ base, b.interval = c.interval := by
    intro c hc
    have hinterval := List.mem_map_of_mem (f := Constraint.interval) hc
    rw [hsame] at hinterval
    exact List.mem_map.mp hinterval
  refine ⟨?_, ?_, ?_, ?_, ?_⟩
  · intro hnil
    rw [hnil, List.map_nil, eq_comm, List.map_eq_nil_iff] at hsame
    exact h.nonempty hsame
  · intro c hc
    obtain ⟨b, hb, heq⟩ := hmem c hc
    exact heq ▸ h.form b hb
  · intro c hc
    obtain ⟨b, hb, heq⟩ := hmem c hc
    rw [Constraint.Ordered, ← heq]
    exact h.ordered b hb
  · have hbefore : ∀ cs : List Constraint, cs.Pairwise Constraint.Before ↔
        (cs.map Constraint.interval).Pairwise fun i j => i.high.toRat < j.low.toRat := by
      intro cs
      rw [List.pairwise_map]
      rfl
    rw [hbefore, hsame, ← hbefore]
    exact h.separated
  · intro c hc
    obtain ⟨b, hb, heq⟩ := hmem c hc
    exact heq ▸ h.within b hb

/-- Canonical bounds are narrowed by their own intervals. -/
lemma Canonical.narrow_eq_ok (h : Canonical domain base) (keyword : BoundKeyword)
    (hsame : candidate.map Constraint.interval = base.map Constraint.interval) :
    narrow keyword base candidate = .ok candidate := by
  have hcandidate := h.congr hsame
  have hscale := hcandidate.ofScale
  -- every interval ends before the next one starts, so the list is sorted and without overlaps
  have hpairs : candidate.Pairwise fun a b =>
      b.interval.low.order a.interval.low ≠ .lt ∧ a.interval.overlaps b.interval = false := by
    refine hcandidate.separated.imp_of_mem fun {a b} ha hb hbefore => ⟨?_, ?_⟩
    · rw [ne_eq, Number.order_eq_lt_iff ((hscale b hb).1.comparable (hscale a ha).1), not_lt]
      exact (hcandidate.ordered a ha).trans hbefore.le
    · rw [← Bool.not_eq_true, Interval.overlaps_iff (hscale a ha) (hscale b hb)]
      exact fun hoverlap => absurd hbefore (not_lt.mpr hoverlap.2)
  have hsorted : sortByLow candidate = candidate := sortByLow_eq_self (hpairs.imp fun h => h.1)
  refine narrow_eq_ok_iff.mpr ⟨?_, ?_, ?_, hsorted.symm⟩
  · intro c hc
    exact (Number.le_iff ((hscale c hc).1.comparable (hscale c hc).2)).mpr
      (hcandidate.ordered c hc)
  · rw [hsorted]
    exact overlapping?_eq_none (hpairs.imp fun h => h.2)
  · intro c hc
    have hinterval := List.mem_map_of_mem (f := Constraint.interval) hc
    rw [hsame] at hinterval
    obtain ⟨b, hb, heq⟩ := List.mem_map.mp hinterval
    obtain ⟨b', hb', hencloses⟩ := h.exists_encloses_self hb
    exact ⟨b', hb', heq ▸ hencloses⟩

/-- What a number is checked for are the intervals. -/
lemma Constraint.check_congr {n : Number}
    (hsame : candidate.map Constraint.interval = base.map Constraint.interval) :
    Constraint.check candidate n = .ok () ↔ Constraint.check base n = .ok () := by
  have hcheck : ∀ cs : List Constraint, Constraint.check cs n = .ok () ↔
      cs.map Constraint.interval = [] ∨
        ∃ i ∈ cs.map Constraint.interval, i.contains n = true := by
    intro cs
    rw [Constraint.check_eq_ok_iff, List.map_eq_nil_iff]
    simp
  rw [hcheck, hcheck, hsame]

end

/-! ### Steps with one statement -/

/-- The statement of a keyword. -/
def BoundKeyword.declare : BoundKeyword → BoundsDecl → Declaration
  | range => .range
  | length => .length

lemma BoundKeyword.keyword_declare (keyword : BoundKeyword) (decl : BoundsDecl) :
    (keyword.declare decl).keyword = keyword.toKeyword := by
  cases keyword <;> rfl

lemma BoundKeyword.default?_declare (keyword : BoundKeyword) (decl : BoundsDecl) :
    (keyword.declare decl).default? = none := by
  cases keyword <;> rfl

/-- The bounds that statements of a keyword narrow. -/
def TypeDef.boundsOf (t : TypeDef) : BoundKeyword → List Constraint
  | .range => t.ranges
  | .length => t.lengths

/-- The same facets with other bounds. -/
def Facets.withBounds : Facets → List Constraint → Facets
  | binary _, cs => binary cs
  | string _ patterns, cs => string cs patterns
  | integer kind _, cs => integer kind cs
  | decimal64 digits _, cs => decimal64 digits cs
  | facets, _ => facets

namespace Facets

variable {facets : Facets} {domain : Domain} {cs : List Constraint}

lemma domain?_withBounds : (facets.withBounds cs).domain? = facets.domain? := by
  cases facets <;> rfl

lemma keyword_withBounds : (facets.withBounds cs).keyword = facets.keyword := by
  cases facets <;> rfl

lemma patterns_withBounds : (facets.withBounds cs).patterns = facets.patterns := by
  cases facets <;> rfl

lemma measure?_withBounds {text : String} :
    (facets.withBounds cs).measure? text = facets.measure? text := by
  cases facets <;> rfl

lemma bounds_withBounds (hdomain : facets.domain? = some domain) :
    (facets.withBounds cs).bounds = cs := by
  cases facets <;> simp [domain?, withBounds, bounds] at hdomain ⊢

/-- Facets with the same intervals accept the same texts. -/
lemma check_withBounds (hdomain : facets.domain? = some domain)
    (hsame : cs.map Constraint.interval = facets.bounds.map Constraint.interval)
    {text : String} :
    (facets.withBounds cs).check text = .ok () ↔ facets.check text = .ok () := by
  rw [check_eq_ok_of_domain hdomain, check_eq_ok_of_domain (domain?_withBounds.trans hdomain),
    patterns_withBounds, measure?_withBounds, bounds_withBounds hdomain]
  simp only [Constraint.check_congr hsame]

end Facets

/-- The bounds of a type are those of its facets. -/
lemma TypeDef.boundsOf_simple {info : TypeInfo} {base : Option TypeDef} {facets : Facets} :
    (⟨info, base, .simple facets⟩ : TypeDef).boundsOf facets.keyword = facets.bounds := by
  cases facets <;> rfl

/-- The types that allow statements of a keyword have bounds that they narrow. -/
lemma TypeDef.exists_facets_of_allows {t : TypeDef} {keyword : BoundKeyword}
    (h : t.kind.allows keyword.toKeyword = true) :
    ∃ facets domain, t.body = .simple facets ∧ facets.domain? = some domain ∧
      facets.keyword = keyword := by
  obtain ⟨info, base, body⟩ := t
  cases body with
  | union members =>
      cases keyword <;> simp [TypeDef.kind, BoundKeyword.toKeyword, Kind.allows] at h
  | simple facets =>
      cases facets <;> cases keyword <;>
        first
        | exact ⟨_, _, rfl, rfl, rfl⟩
        | simp [TypeDef.kind, Facets.kind, BoundKeyword.toKeyword, Kind.allows] at h

lemma applyBounds_single {keyword : BoundKeyword} {read : String → Except Violation Number}
    {acc : Accumulator} {decl : Located BoundsDecl} {candidate result : List Constraint}
    (hnone : acc.bounds keyword = none)
    (hparts : resolveParts keyword (acc.base.bounds keyword) read decl.value.doc
      decl.value.parts = .ok candidate)
    (hnarrow : narrow keyword (acc.base.bounds keyword) candidate = .ok result) :
    applyBounds keyword read acc [decl] = .ok (acc.withBounds (some result) keyword) := by
  refine foldLocated_cons_eq_ok.mpr ⟨_, bind_eq_ok.mpr ⟨candidate, hparts, ?_⟩, rfl⟩
  exact setBounds_eq_ok.mpr ⟨hnone, result, hnarrow, rfl⟩

/-- A step whose only statement narrows the bounds changes nothing else. -/
lemma derivedFacets_single {d : Derivation} {facets : Facets} {domain : Domain}
    (hdomain : facets.domain? = some domain) {decl : BoundsDecl} {location : Location}
    (hstatements : d.statements = [⟨facets.keyword.declare decl, location⟩])
    {candidate result : List Constraint}
    (hparts : resolveParts facets.keyword facets.bounds facets.readBound decl.doc decl.parts =
      .ok candidate)
    (hnarrow : narrow facets.keyword facets.bounds candidate = .ok result) :
    d.derivedFacets facets = .ok (facets.withBounds result) := by
  cases facets with
  | binary lengths =>
      have hdecls : d.declared Declaration.length? = [⟨decl, location⟩] := by
        rw [Derivation.declared, hstatements]
        rfl
      rw [Derivation.derivedFacets, hdecls]
      exact bind_eq_ok.mpr ⟨_, applyBounds_single rfl hparts hnarrow, rfl⟩
  | string lengths patterns =>
      have hdecls : d.declared Declaration.length? = [⟨decl, location⟩] := by
        rw [Derivation.declared, hstatements]
        rfl
      have hpatterns : d.declared Declaration.pattern? = [] := by
        rw [Derivation.declared, hstatements]
        rfl
      rw [Derivation.derivedFacets, hdecls, hpatterns]
      refine bind_eq_ok.mpr ⟨_, applyBounds_single rfl hparts hnarrow, ?_⟩
      refine bind_eq_ok.mpr ⟨_, rfl, ?_⟩
      rw [pure_eq_ok]
      simp [Accumulator.finish, Accumulator.start, Accumulator.withBounds, Facets.withBounds]
  | integer kind ranges =>
      have hdecls : d.declared Declaration.range? = [⟨decl, location⟩] := by
        rw [Derivation.declared, hstatements]
        rfl
      rw [Derivation.derivedFacets, hdecls]
      exact bind_eq_ok.mpr ⟨_, applyBounds_single rfl hparts hnarrow, rfl⟩
  | decimal64 digits ranges =>
      have hdecls : d.declared Declaration.range? = [⟨decl, location⟩] := by
        rw [Derivation.declared, hstatements]
        rfl
      have hdigits : d.declared Declaration.fractionDigits? = [] := by
        rw [Derivation.declared, hstatements]
        rfl
      rw [Derivation.derivedFacets, Derivation.decimalFacets, hdecls, hdigits]
      refine bind_eq_ok.mpr ⟨_, rfl, ?_⟩
      exact bind_eq_ok.mpr ⟨_, applyBounds_single rfl hparts hnarrow, rfl⟩
  | _ => simp [Facets.domain?] at hdomain

/-! ### The new type -/

lemma checkDefault_eq_ok {d : Derivation} {t : TypeDef} :
    d.checkDefault t = .ok () ↔
      ∀ value, t.info.defaultValue = some value → t.Accepts value := by
  rw [Derivation.checkDefault]
  cases t.info.defaultValue with
  | none => simp
  | some value =>
      simp only [Option.some.injEq, forall_eq', TypeDef.Accepts]
      cases t.check value <;> simp

lemma accepts_default_of_builtin {kind : Kind} {t : TypeDef} (h : TypeDef.builtin? kind = some t) :
    ∀ value, t.info.defaultValue = some value → t.Accepts value := by
  obtain ⟨facets, -, rfl⟩ := TypeDef.builtin?_eq_some h
  intro value hvalue
  simp [Kind.define] at hvalue

lemma accepts_default_of_build {d : Derivation} {mark : ℕ} {t : TypeDef}
    (h : d.build mark = .ok t) : ∀ value, t.info.defaultValue = some value → t.Accepts value :=
  checkDefault_eq_ok.mp (build_eq_ok.mp h).2.2

/-- A type accepts its default value. -/
lemma TypeDef.Reachable.accepts_default {t : TypeDef} (h : t.Reachable) :
    ∀ value, t.info.defaultValue = some value → t.Accepts value := by
  cases h with
  | builtin h => exact accepts_default_of_builtin h
  | built _ _ _ build => exact accepts_default_of_build build

/-- A step without a default succeeds if its body accepts what the base does. -/
lemma build_eq_ok_of_accepts {t : TypeDef}
    (h : ∀ value, t.info.defaultValue = some value → t.Accepts value) {d : Derivation}
    (hstart : d.start = .type t) (hsupported : d.unsupported? = none) {body : Body TypeDef}
    (hbody : d.derivedBody t.body = .ok body)
    (hdefault : d.declared Declaration.default? = [])
    (haccepts : ∀ info base text, t.Accepts text → (⟨info, base, body⟩ : TypeDef).Accepts text)
    (mark : ℕ) : d.build mark = .ok ⟨d.info mark, some t, body⟩ := by
  have hbase : d.start.base? = some t := by rw [hstart, DerivationStart.base?_type]
  have hinfo : d.inherit Declaration.default? TypeInfo.defaultValue = t.info.defaultValue := by
    rw [Derivation.inherit, Derivation.lastDeclared?, hdefault, hbase]
    rfl
  refine build_eq_ok.mpr ⟨hsupported, ⟨body, ?_, by rw [hbase]⟩, ?_⟩
  · rw [Derivation.body, hstart]
    exact hbody
  · refine checkDefault_eq_ok.mpr fun value hvalue => ?_
    exact haccepts _ _ _ (h value (hinfo.symm.trans hvalue))

/-- Without statements a step makes the body of its base. -/
lemma derivedBody_nil {d : Derivation} (h : d.statements = []) (body : Body TypeDef) :
    d.derivedBody body = .ok body := by
  obtain ⟨start, statements, path, options⟩ := d
  obtain rfl : statements = [] := h
  cases body with
  | union members => rfl
  | simple facets =>
      cases facets with
      | string lengths patterns =>
          have happend : patterns ++ [] = patterns := List.append_nil patterns
          exact congrArg (fun ps => Except.ok (Body.simple (.string lengths ps))) happend
      | _ => rfl

/-- Two types with one body that say the same about themselves. -/
structure SameInForce (t t' : TypeDef) : Prop where
  body : t'.body = t.body
  description : t'.info.description = t.info.description
  reference : t'.info.reference = t.info.reference
  status : t'.info.status = t.info.status
  units : t'.info.units = t.info.units
  defaultValue : t'.info.defaultValue = t.info.defaultValue

/-- What a type accepts depends on its body alone. -/
lemma TypeDef.accepts_body {t : TypeDef} {info : TypeInfo} {base : Option TypeDef}
    {text : String} : (⟨info, base, t.body⟩ : TypeDef).Accepts text ↔ t.Accepts text := by
  obtain ⟨tinfo, tbase, body⟩ := t
  rw [Accepts, Accepts, check, check]

/-- A step without statements repeats its base. -/
lemma build_nil {t : TypeDef} (h : t.Reachable) (path : SchemaPath) (options : DerivationOptions)
    (mark : ℕ) :
    ∃ t', (⟨.type t, [], path, options⟩ : Derivation).build mark = .ok t' ∧ SameInForce t t' := by
  have hbuild := build_eq_ok_of_accepts h.accepts_default (d := ⟨.type t, [], path, options⟩) rfl
    rfl (derivedBody_nil rfl t.body) rfl (fun _ _ _ => TypeDef.accepts_body.mpr) mark
  exact ⟨_, hbuild, rfl, rfl, rfl, rfl, rfl, rfl⟩

/-- The text of the bounds of a type, as an argument of the statement that
narrows them. -/
def TypeDef.boundsText (t : TypeDef) (keyword : BoundKeyword) : String :=
  " | ".intercalate ((t.boundsOf keyword).map fun c => c.interval.text)

/-- The text of canonical bounds is read as their intervals, one part for each. -/
lemma Canonical.parseList_text {domain : Domain} {cs : List Constraint}
    (h : Canonical domain cs) :
    BoundPair.parseList (" | ".intercalate (cs.map fun c => c.interval.text)) =
      .ok (cs.map fun c => c.interval.part) := by
  refine BoundPair.parseList_bars ?_ (by simpa using h.nonempty)
  rw [List.forall₂_map_left_iff, List.forall₂_map_right_iff, List.forall₂_same]
  exact fun c hc => Interval.written_text (h.form c hc)

/-- The intervals of canonical bounds are what their own parts stand for. -/
lemma Canonical.resolveParts_part {facets : Facets} {domain : Domain}
    (hdomain : facets.domain? = some domain) (h : Canonical domain facets.bounds)
    (doc : RestrictionDoc) :
    resolveParts facets.keyword facets.bounds facets.readBound doc
        (facets.bounds.map fun c => c.interval.part) =
      .ok (facets.bounds.map fun c => Constraint.make facets.keyword c.interval doc) := by
  have hread : ∀ n : Number, n.form = domain.form → domain.least ≤ n.toRat →
      n.toRat ≤ domain.greatest →
      resolveEnd facets.bounds facets.readBound (.literal n.text) = .ok n := by
    intro n hform hleast hgreatest
    rw [resolveEnd, Facets.readBound_text hdomain hform hleast hgreatest]
  rw [resolveParts_eq_ok, List.forall₂_map_left_iff, List.forall₂_map_right_iff, List.forall₂_same]
  intro c hc
  obtain ⟨hleast, hgreatest⟩ := h.within c hc
  have hordered : c.interval.low.toRat ≤ c.interval.high.toRat := h.ordered c hc
  refine ⟨c.interval, ⟨?_, ?_⟩, rfl⟩
  · exact hread _ (h.form c hc).1 hleast (hordered.trans hgreatest)
  · exact hread _ (h.form c hc).2 (hleast.trans hordered) hgreatest

/-- A step that restates bounds makes a body with the same intervals. -/
lemma Canonical.derivedBody_restated {facets : Facets} {domain : Domain}
    (hdomain : facets.domain? = some domain) (h : Canonical domain facets.bounds)
    {d : Derivation} {doc : RestrictionDoc} {location : Location}
    (hstatements : d.statements =
      [⟨facets.keyword.declare ⟨facets.bounds.map fun c => c.interval.part, doc⟩, location⟩]) :
    ∃ cs, d.derivedBody (.simple facets) = .ok (.simple (facets.withBounds cs)) ∧
      cs.map Constraint.interval = facets.bounds.map Constraint.interval := by
  -- the intervals of the base, with the documentation of the step
  let candidate := facets.bounds.map fun c => Constraint.make facets.keyword c.interval doc
  have hsame : candidate.map Constraint.interval = facets.bounds.map Constraint.interval := by
    rw [List.map_map]
    rfl
  have hfacets := derivedFacets_single hdomain hstatements (h.resolveParts_part hdomain doc)
    (h.narrow_eq_ok facets.keyword hsame)
  exact ⟨candidate, map_eq_ok.mpr ⟨_, hfacets, rfl⟩, hsame⟩

/-- A type allows the statements that narrow its bounds. -/
lemma Facets.allows_keyword {facets : Facets} {domain : Domain}
    (hdomain : facets.domain? = some domain) :
    facets.kind.allows facets.keyword.toKeyword = true := by
  cases facets <;> simp [domain?, kind, keyword, Kind.allows, BoundKeyword.toKeyword] at hdomain ⊢

/-- **A step that restates the bounds of its base** is built, and has the facets
of the base with the same intervals. -/
lemma build_restated {info : TypeInfo} {base : Option TypeDef} {facets : Facets} {domain : Domain}
    (h : (⟨info, base, .simple facets⟩ : TypeDef).Reachable)
    (hdomain : facets.domain? = some domain) {d : Derivation}
    (hstart : d.start = .type ⟨info, base, .simple facets⟩) {doc : RestrictionDoc}
    {location : Location} (hstatements : d.statements =
      [⟨facets.keyword.declare ⟨facets.bounds.map fun c => c.interval.part, doc⟩, location⟩])
    (mark : ℕ) :
    ∃ cs, d.build mark = .ok ⟨d.info mark, some ⟨info, base, .simple facets⟩,
        .simple (facets.withBounds cs)⟩ ∧
      cs.map Constraint.interval = facets.bounds.map Constraint.interval := by
  have hcanonical := h.canonical domain (TypeDef.domain?_simple.trans hdomain)
  rw [TypeDef.bounds_simple] at hcanonical
  obtain ⟨cs, hbody, hsame⟩ := hcanonical.derivedBody_restated hdomain hstatements
  refine ⟨cs, build_eq_ok_of_accepts h.accepts_default hstart ?supported hbody ?default ?accepts
    mark, hsame⟩
  case supported =>
    have hkind : d.start.kind = facets.kind := by rw [hstart]; rfl
    rw [Derivation.unsupported?, hstatements, List.find?_singleton, hkind,
      BoundKeyword.keyword_declare, Facets.allows_keyword hdomain]
    rfl
  case default =>
    rw [Derivation.declared, hstatements]
    simp [Statement.select, BoundKeyword.default?_declare]
  case accepts =>
    intro info' base' text haccepts
    rw [TypeDef.accepts_simple] at haccepts ⊢
    exact (Facets.check_withBounds hdomain hsame).mpr haccepts

/-- **Restating is the identity.** A step without statements always succeeds
and repeats its base. So does a step whose only statement is the text of the
bounds of its base, and it has the same intervals in the same order. -/
theorem restating_is_identity {t : TypeDef} (h : t.Reachable) :
    (∀ (path : SchemaPath) (options : DerivationOptions) (mark : ℕ),
      ∃ t', (⟨.type t, [], path, options⟩ : Derivation).build mark = .ok t' ∧
        SameInForce t t') ∧
    ∀ keyword : BoundKeyword, t.kind.allows keyword.toKeyword = true →
      ∃ parts, BoundPair.parseList (t.boundsText keyword) = .ok parts ∧
        ∀ (doc : RestrictionDoc) (location : Location) (path : SchemaPath)
          (options : DerivationOptions) (mark : ℕ),
          ∃ t', (⟨.type t, [⟨keyword.declare ⟨parts, doc⟩, location⟩], path, options⟩ :
              Derivation).build mark = .ok t' ∧
            (t'.boundsOf keyword).map Constraint.interval =
              (t.boundsOf keyword).map Constraint.interval := by
  refine ⟨build_nil h, fun keyword hallows => ?_⟩
  obtain ⟨facets, domain, hbody, hdomain, rfl⟩ := TypeDef.exists_facets_of_allows hallows
  obtain ⟨info, base, body⟩ := t
  obtain rfl : body = .simple facets := hbody
  have hcanonical := h.canonical domain (TypeDef.domain?_simple.trans hdomain)
  rw [TypeDef.bounds_simple] at hcanonical
  rw [TypeDef.boundsText, TypeDef.boundsOf_simple]
  refine ⟨_, hcanonical.parseList_text, fun doc location path options mark => ?_⟩
  obtain ⟨cs, hbuild, hsame⟩ := build_restated h hdomain
    (d := ⟨.type _, [⟨facets.keyword.declare ⟨_, doc⟩, location⟩], path, options⟩) rfl rfl mark
  have hkeyword : (facets.withBounds cs).keyword = facets.keyword := Facets.keyword_withBounds
  refine ⟨_, hbuild, ?_⟩
  rw [← hkeyword, TypeDef.boundsOf_simple, Facets.bounds_withBounds hdomain, hsame]

/-- Decimals with two digits, of which one interval is a single number; the
texts of the ends have no zeros that are not needed. -/
theorem restating_is_identity_two_intervals :
    let first : Derivation := ⟨.root .decimal64, [⟨.fractionDigits 2, "digits"⟩], .root, ⟨false⟩⟩
    let hundredths : TypeDef := ⟨first.info 0, none, .simple (.decimal64 2 [.make .range
      ⟨.decimal ⟨2, -9223372036854775808, by decide, by decide⟩,
        .decimal ⟨2, 9223372036854775807, by decide, by decide⟩⟩ .none])⟩
    let second : Derivation := ⟨.type hundredths, [⟨.range ⟨[⟨.literal "0", .literal "10.250"⟩,
      ⟨.literal "-1.5", .literal "-1.50"⟩], .none⟩, "range"⟩], .root, ⟨false⟩⟩
    let t : TypeDef := ⟨second.info 0, some hundredths, .simple (.decimal64 2 [
      .make .range ⟨.decimal ⟨2, -150, by decide, by decide⟩,
        .decimal ⟨2, -150, by decide, by decide⟩⟩ .none,
      .make .range ⟨.decimal ⟨2, 0, by decide, by decide⟩,
        .decimal ⟨2, 1025, by decide, by decide⟩⟩ .none])⟩
    first.build 0 = .ok hundredths ∧ second.build 0 = .ok t ∧ t.Reachable ∧
      t.boundsText .range = "-1.5 | 0.0..10.25" ∧
      (∃ t', (⟨.type t, [], .root, ⟨true⟩⟩ : Derivation).build 1 = .ok t' ∧ SameInForce t t') ∧
      ∃ parts t', BoundPair.parseList "-1.5 | 0.0..10.25" = .ok parts ∧
        (⟨.type t, [⟨.range ⟨parts, .none⟩, "again"⟩], .root, ⟨true⟩⟩ : Derivation).build 1 =
          .ok t' ∧
        t'.ranges.map Constraint.interval = t.ranges.map Constraint.interval := by
  intro first hundredths second t
  have hfirst : first.build 0 = .ok hundredths := rfl
  have hsecond : second.build 0 = .ok t := by
    have hend : ∀ text (d : Decimal), parseDecimal 2 text = .ok d →
        resolveEnd hundredths.ranges (Derivation.readDecimal 2) (.literal text) =
          .ok (.decimal d) := by
      intro text d h
      rw [resolveEnd, Derivation.readDecimal, h]
      rfl
    have hzero := hend "0" ⟨2, 0, by decide, by decide⟩ (by decide +kernel)
    have hhigh := hend "10.250" ⟨2, 1025, by decide, by decide⟩ (by decide +kernel)
    have hshort := hend "-1.5" ⟨2, -150, by decide, by decide⟩ (by decide +kernel)
    have hlong := hend "-1.50" ⟨2, -150, by decide, by decide⟩ (by decide +kernel)
    have hfacets : second.derivedFacets (.decimal64 2 hundredths.ranges) = _ :=
      derivedFacets_single rfl rfl (resolveParts_eq_ok.mpr
        (.cons ⟨⟨_, _⟩, ⟨hzero, hhigh⟩, rfl⟩ (.cons ⟨⟨_, _⟩, ⟨hshort, hlong⟩, rfl⟩ .nil))) rfl
    exact build_eq_ok.mpr ⟨rfl, ⟨_, map_eq_ok.mpr ⟨_, hfacets, rfl⟩, rfl⟩, rfl⟩
  have hadmissible : first.Admissible := by
    refine ⟨?_, ?_, ?_⟩
    · rintro _ ⟨⟩
    · simp [first, Derivation.declared, Statement.select, Declaration.type?]
    · intro keyword
      cases keyword <;>
        simp [first, Derivation.boundsDeclared, Derivation.declared, Statement.select,
          Declaration.range?, Declaration.length?]
  have hreachable : t.Reachable :=
    (Derivation.admissible_range (hadmissible.reachable hfirst) (List.cons_ne_nil _ _)).reachable
      hsecond
  have htext : t.boundsText .range = "-1.5 | 0.0..10.25" := by decide +kernel
  obtain ⟨hnil, hbounds⟩ := restating_is_identity hreachable
  obtain ⟨parts, hparts, hrestated⟩ := hbounds .range rfl
  rw [htext] at hparts
  obtain ⟨t', hbuild, hsame⟩ := hrestated .none "again" .root ⟨true⟩ 1
  exact ⟨hfirst, hsecond, hreachable, htext, hnil .root ⟨true⟩ 1, parts, t', hparts, hbuild, hsame⟩

end YangTypes
