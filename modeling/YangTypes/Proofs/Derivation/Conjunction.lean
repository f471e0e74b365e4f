import Mathlib.Tactic
import YangTypes.Proofs.Derivation.Intervals

/-!
Derivation is conjunction: a derived type accepts a text if its base accepts it
and the text satisfies what the step declares. No lemma opens the engine, so all
of this holds for every one.

* `Derivation.Satisfies`: what a step asks of a text, read off its statements
  alone. The base is needed for two things only, the number of the text and the
  numbers that `min` and `max` stand for.
* `narrowed_check_iff`: the conjunction for bounds. A type keeps only the last,
  narrowed list, so this is where the chain of lists becomes one; it rests on
  the bounds of the base being canonical.
* `accepts_derived_iff`: the conjunction for a whole step, one case for each
  built-in type. A declared member of a union has to accept no more than the
  member that it stands for, which is the induction hypothesis of
  `accepts_of_mem_ancestry`.
-/

namespace YangTypes

/-! ### What a step asks of a text -/

/-- A number lies in one of the declared intervals, with `min` and `max` taken
from the constraints of the base. -/
def BoundsDecl.Covers (base : List Constraint) (read : String → Except Violation Number)
    (decl : BoundsDecl) (n : Number) : Prop :=
  ∃ pair ∈ decl.parts, ∃ interval, ResolvesTo base read pair interval ∧
    interval.low.toRat ≤ n.toRat ∧ n.toRat ≤ interval.high.toRat

/-- A text satisfies the statements of a step: its number lies in a declared
interval, every declared pattern accepts it, it uses declared names only, and
some declared member accepts it. -/
@[mk_iff]
structure Derivation.Satisfies (d : Derivation) (base : TypeDef) (text : String)
    (engine : Engine := .standard) : Prop where
  bounds : ∀ keyword, ∀ decl ∈ d.boundsDeclared keyword,
    ∃ n, base.measure? text engine = some n ∧ decl.value.Covers base.bounds base.readBound n
  patterns : ∀ decl ∈ d.declared Declaration.pattern?,
    ∃ p, MakesPattern decl p ∧ p.accepts text engine.isMatch = true
  bits : d.declared Declaration.bit? ≠ [] →
    ∀ word ∈ Text.words text, ∃ decl ∈ d.declared Declaration.bit?, decl.value.name = word
  enums : d.declared Declaration.enum? ≠ [] →
    ∃ decl ∈ d.declared Declaration.enum?, decl.value.name = text
  members : d.declared Declaration.type? ≠ [] →
    ∃ decl ∈ d.declared Declaration.type?, decl.value.Accepts text engine

/-! ### Bounds -/

/-- Narrowed bounds accept a number if those of the base do and it lies in a
declared interval. -/
lemma narrowed_check_iff {domain : Domain} {cs result : List Constraint}
    (h : Canonical domain cs) {keyword : BoundKeyword}
    {read : String → Except Violation Number}
    (hread : ∀ text n, read text = .ok n → n.form = domain.form)
    {decls : List (Located BoundsDecl)} (hne : ∀ decl ∈ decls, decl.value.parts ≠ [])
    (hstep : Narrowed keyword read cs decls result) {n : Number} (hn : n.form = domain.form) :
    Constraint.check result n = .ok () ↔
      Constraint.check cs n = .ok () ∧ ∀ decl ∈ decls, decl.value.Covers cs read n := by
  have hscale : n.OfScale domain.form.scale := hn ▸ n.ofScale_form
  cases hstep with
  | inherited => simp
  | @replaced decl candidate result hparts hnarrow =>
      have hform := h.hasForm_of_resolveParts hread hparts
      have hcscale : ∀ c ∈ candidate, c.OfScale domain.form.scale :=
        fun c hc => (hform c hc).ofScale
      have hcandidate : candidate ≠ [] := by
        rw [← List.length_pos_iff, ← (resolveParts_eq_ok.mp hparts).length_eq,
          List.length_pos_iff]
        exact hne decl (by simp)
      -- the intervals of the candidate are those that the parts stand for
      have hcovers : (∃ c ∈ candidate, c.interval.contains n = true) ↔
          decl.value.Covers cs read n := by
        constructor
        · rintro ⟨c, hc, hcn⟩
          obtain ⟨pair, hpair, interval, hresolves, rfl⟩ :=
            exists_left_of_forall₂ (resolveParts_eq_ok.mp hparts) hc
          exact ⟨pair, hpair, interval, hresolves,
            (Interval.contains_iff (hcscale _ hc) hscale).mp hcn⟩
        · rintro ⟨pair, hpair, interval, hresolves, hin⟩
          obtain ⟨c, hc, interval', hresolves', rfl⟩ :=
            exists_right_of_forall₂ (resolveParts_eq_ok.mp hparts) hpair
          have hlow := Except.ok.inj (hresolves.1.symm.trans hresolves'.1)
          have hhigh := Except.ok.inj (hresolves.2.symm.trans hresolves'.2)
          refine ⟨_, hc, (Interval.contains_iff (hcscale _ hc) hscale).mpr ?_⟩
          rw [hlow, hhigh] at hin
          exact hin
      rw [narrow_check_iff hnarrow, Constraint.check_eq_ok_iff candidate, or_iff_right hcandidate,
        hcovers]
      simp only [List.mem_singleton, forall_eq, iff_and_self]
      intro hcov
      rw [Constraint.check_eq_ok_iff]
      exact .inr (narrow_contains h.ofScale hcscale hnarrow hscale (hcovers.mpr hcov))

/-! ### Statements that a kind does not allow -/

namespace Derivation

variable {d : Derivation}

lemma boundsDeclared_eq_nil (h : d.unsupported? = none) {keyword : BoundKeyword}
    (hallows : d.start.kind.allows keyword.toKeyword = false) :
    d.boundsDeclared keyword = [] := by
  cases keyword with
  | range => exact d.declared_eq_nil h .range hallows
  | length => exact d.declared_eq_nil h .length hallows

end Derivation

/-! ### One step -/

section

variable {d : Derivation} {facets facets' : Facets} {info : TypeInfo} {base : Option TypeDef}
  {text : String} {engine : Engine}

/-- A type that bounds a number has statements for its own keyword only. -/
lemma Facets.allows_other_keyword {domain : Domain} (hdomain : facets.domain? = some domain)
    {keyword : BoundKeyword} (h : keyword ≠ facets.keyword) :
    facets.kind.allows keyword.toKeyword = false := by
  cases facets <;> cases keyword <;>
    simp_all [domain?, Facets.keyword, kind, Kind.allows, BoundKeyword.toKeyword]

/-- Nor has it statements about names or members. -/
lemma Facets.allows_no_members {domain : Domain} (hdomain : facets.domain? = some domain) :
    facets.kind.allows .bit = false ∧ facets.kind.allows .enum = false ∧
      facets.kind.allows .type = false := by
  cases facets <;> simp_all [domain?, kind, Kind.allows]

/-- The patterns of a step are those that it declares, after those of the base. -/
lemma FacetStep.patterns_eq (hstep : FacetStep d facets facets')
    (hsupported : d.unsupported? = none) (hkind : d.start.kind = facets.kind) :
    ∃ added, facets'.patterns = facets.patterns ++ added ∧
      List.Forall₂ MakesPattern (d.declared Declaration.pattern?) added := by
  cases hstep with
  | string hlengths hadded => exact ⟨_, rfl, hadded⟩
  | _ =>
      refine ⟨[], rfl, ?_⟩
      rw [d.declared_eq_nil hsupported .pattern (by rw [hkind]; rfl)]
      exact .nil

/-- The conjunction for patterns: those of the base, and those that are added. -/
lemma forall_accepts_append_iff {patterns added : List Pattern}
    {decls : List (Located PatternDecl)} (hadded : List.Forall₂ MakesPattern decls added) :
    (∀ p ∈ patterns ++ added, p.accepts text engine.isMatch = true) ↔
      (∀ p ∈ patterns, p.accepts text engine.isMatch = true) ∧
        ∀ decl ∈ decls, ∃ p, MakesPattern decl p ∧ p.accepts text engine.isMatch = true := by
  rw [List.forall_mem_append]
  refine and_congr_right fun _ => ?_
  constructor
  · intro haccepts decl hdecl
    obtain ⟨p, hp, hmakes⟩ := exists_right_of_forall₂ hadded hdecl
    exact ⟨p, hmakes, haccepts p hp⟩
  · intro hdeclared p hp
    obtain ⟨decl, hdecl, hmakes⟩ := exists_left_of_forall₂ hadded hp
    obtain ⟨p', hmakes', haccepts⟩ := hdeclared decl hdecl
    obtain rfl : p = p' := Except.ok.inj (hmakes.symm.trans hmakes')
    exact haccepts

/-- The conjunction for the number of a text. -/
lemma measure_check_iff {domain : Domain} (hdomain : facets.domain? = some domain)
    (hcanonical : Canonical domain facets.bounds) (hd : d.Admissible engine)
    (hsupported : d.unsupported? = none) (hkind : d.start.kind = facets.kind)
    (hstep : FacetStep d facets facets') :
    (∃ n, facets'.measure? text engine = some n ∧ Constraint.check facets'.bounds n = .ok ()) ↔
      (∃ n, facets.measure? text engine = some n ∧ Constraint.check facets.bounds n = .ok ()) ∧
        ∀ keyword, ∀ decl ∈ d.boundsDeclared keyword, ∃ n, facets.measure? text engine = some n ∧
          decl.value.Covers facets.bounds facets.readBound n := by
  obtain ⟨hnarrowed, hmeasure⟩ := hstep.narrowed hdomain
  have hcheck : ∀ n, facets.measure? text engine = some n →
      (Constraint.check facets'.bounds n = .ok () ↔
        Constraint.check facets.bounds n = .ok () ∧ ∀ decl ∈ d.boundsDeclared facets.keyword,
          decl.value.Covers facets.bounds facets.readBound n) := fun n hn =>
    narrowed_check_iff hcanonical (fun _ _ hread => Facets.form_of_readBound hdomain hread)
      (hd.parts _) hnarrowed (Facets.form_of_measure? hdomain hn)
  rw [hmeasure]
  constructor
  · rintro ⟨n, hn, hbounds⟩
    obtain ⟨hbase, hcovers⟩ := (hcheck n hn).mp hbounds
    refine ⟨⟨n, hn, hbase⟩, fun keyword decl hdecl => ⟨n, hn, ?_⟩⟩
    rcases eq_or_ne keyword facets.keyword with rfl | hother
    · exact hcovers decl hdecl
    · rw [d.boundsDeclared_eq_nil hsupported
        (by rw [hkind]; exact Facets.allows_other_keyword hdomain hother)] at hdecl
      simp at hdecl
  · rintro ⟨⟨n, hn, hbase⟩, hdeclared⟩
    refine ⟨n, hn, (hcheck n hn).mpr ⟨hbase, fun decl hdecl => ?_⟩⟩
    obtain ⟨m, hm, hcovers⟩ := hdeclared facets.keyword decl hdecl
    obtain rfl : n = m := Option.some.inj (hn.symm.trans hm)
    exact hcovers

/-- The conjunction for types that bound a number. -/
lemma check_bounded_iff {domain : Domain} (hdomain : facets.domain? = some domain)
    (hcanonical : Canonical domain facets.bounds) (hd : d.Admissible engine)
    (hsupported : d.unsupported? = none) (hkind : d.start.kind = facets.kind)
    (hstep : FacetStep d facets facets') :
    facets'.check text engine = .ok () ↔
      facets.check text engine = .ok () ∧ d.Satisfies ⟨info, base, .simple facets⟩ text engine := by
  obtain ⟨added, hpatterns, hadded⟩ := hstep.patterns_eq hsupported hkind
  obtain ⟨hbit, henum, htype⟩ := Facets.allows_no_members hdomain
  rw [← hkind] at hbit henum htype
  rw [Facets.check_eq_ok_of_domain (hstep.domain?_eq.trans hdomain),
    Facets.check_eq_ok_of_domain hdomain, hpatterns, forall_accepts_append_iff hadded,
    measure_check_iff hdomain hcanonical hd hsupported hkind hstep,
    Derivation.satisfies_iff _ _ _ engine, d.declared_eq_nil hsupported .bit hbit,
    d.declared_eq_nil hsupported .enum henum, d.declared_eq_nil hsupported .type htype, TypeDef.bounds_simple]
  simp only [ne_eq, not_true_eq_false, false_implies, and_true]
  exact and_and_and_comm

/-- A step leaves of the names those that it declares, if it declares any. -/
lemma exists_name_derivedMembers_iff {kind : MemberKind} {members members' : List Member}
    {decls : List (Located MemberDecl)} (h : derivedMembers kind members decls = .ok members')
    {name : String} :
    (∃ m ∈ members', m.name = name) ↔
      (∃ m ∈ members, m.name = name) ∧
        (decls ≠ [] → ∃ decl ∈ decls, decl.value.name = name) := by
  rcases derivedMembers_eq_ok h with ⟨rfl, rfl⟩ | ⟨hne, hselects⟩
  · simp
  · constructor
    · rintro ⟨m, hm, rfl⟩
      obtain ⟨decl, hdecl, hname, b, hb, hbm, -⟩ := exists_left_of_forall₂ hselects hm
      exact ⟨⟨b, hb, hbm⟩, fun _ => ⟨decl, hdecl, hname.symm⟩⟩
    · rintro ⟨-, hdecls⟩
      obtain ⟨decl, hdecl, hname⟩ := hdecls hne
      obtain ⟨m, hm, hselect, -⟩ := exists_right_of_forall₂ hselects hdecl
      exact ⟨m, hm, hselect.trans hname⟩

/-- A type that bounds no number has neither bounds nor patterns to declare. -/
lemma Facets.allows_no_bounds (hdomain : facets.domain? = none) :
    (∀ keyword : BoundKeyword, facets.kind.allows keyword.toKeyword = false) ∧
      facets.kind.allows .pattern = false ∧ facets.kind.allows .type = false := by
  refine ⟨fun keyword => ?_, ?_⟩
  · cases facets <;> cases keyword <;>
      simp_all [domain?, kind, Kind.allows, BoundKeyword.toKeyword]
  · cases facets <;> simp_all [domain?, kind, Kind.allows]

/-- The conjunction for types whose texts are made of names, and for types that
a step cannot restrict. -/
lemma check_unbounded_iff (hdomain : facets.domain? = none) (hsupported : d.unsupported? = none)
    (hkind : d.start.kind = facets.kind) (hstep : FacetStep d facets facets') :
    facets'.check text engine = .ok () ↔
      facets.check text engine = .ok () ∧ d.Satisfies ⟨info, base, .simple facets⟩ text engine := by
  obtain ⟨hbounds, hpattern, htype⟩ := Facets.allows_no_bounds hdomain
  rw [← hkind] at hbounds hpattern htype
  have hbounds' := fun keyword => d.boundsDeclared_eq_nil hsupported (hbounds keyword)
  rw [Derivation.satisfies_iff _ _ _ engine, d.declared_eq_nil hsupported .pattern hpattern,
    d.declared_eq_nil hsupported .type htype]
  simp only [hbounds', List.not_mem_nil, false_implies, implies_true, true_and, ne_eq,
    not_true_eq_false, and_true]
  cases hstep with
  | bits h =>
      rw [d.declared_eq_nil hsupported .enum (by rw [hkind]; rfl), Facets.check_bits,
        Facets.check_bits]
      simp only [exists_name_derivedMembers_iff h, not_true_eq_false, false_implies, and_true]
      constructor
      · rintro ⟨hwords, hnodup⟩
        exact ⟨⟨fun word hword => (hwords word hword).1, hnodup⟩,
          fun hne word hword => (hwords word hword).2 hne⟩
      · rintro ⟨⟨hwords, hnodup⟩, hdeclared⟩
        exact ⟨fun word hword => ⟨hwords word hword, fun hne => hdeclared hne word hword⟩, hnodup⟩
  | enumeration h =>
      rw [d.declared_eq_nil hsupported .bit (by rw [hkind]; rfl), Facets.check_enumeration,
        Facets.check_enumeration, exists_name_derivedMembers_iff h]
      simp
  | binary | decimal64 | integer | string => simp [Facets.domain?] at hdomain
  | boolean | empty | identityref | instanceIdentifier | leafref =>
      rw [d.declared_eq_nil hsupported .bit (by rw [hkind]; rfl),
        d.declared_eq_nil hsupported .enum (by rw [hkind]; rfl)]
      simp [Facets.check]

/-- The conjunction for unions. A member of the step accepts no more than the
member of the base that it stands for, since that is one of its ancestors. -/
lemma accepts_union_iff {members members' : List TypeDef} {info' : TypeInfo}
    {base' : Option TypeDef} (hsupported : d.unsupported? = none) (hkind : d.start.kind = .union)
    (hancestry : ∀ decl ∈ d.declared Declaration.type?, ∀ a ∈ decl.value.ancestry,
      decl.value.Accepts text engine → a.Accepts text engine)
    (hstep : deriveUnionMembers members (d.declared Declaration.type?) = .ok members') :
    (⟨info', base', .union members'⟩ : TypeDef).Accepts text engine ↔
      (⟨info, base, .union members⟩ : TypeDef).Accepts text engine ∧
        d.Satisfies ⟨info, base, .union members⟩ text engine := by
  have hbounds : ∀ keyword, d.boundsDeclared keyword = [] := fun keyword =>
    d.boundsDeclared_eq_nil hsupported (by rw [hkind]; cases keyword <;> rfl)
  rw [Derivation.satisfies_iff _ _ _ engine,
    d.declared_eq_nil hsupported .pattern (by rw [hkind]; rfl),
    d.declared_eq_nil hsupported .bit (by rw [hkind]; rfl),
    d.declared_eq_nil hsupported .enum (by rw [hkind]; rfl)]
  simp only [hbounds, List.not_mem_nil, false_implies, implies_true, true_and, ne_eq,
    not_true_eq_false, TypeDef.accepts_union]
  rcases deriveUnionMembers_eq_ok.mp hstep with ⟨hnone, rfl⟩ | ⟨hne, rfl, hderives⟩
  · simp [hnone]
  · constructor
    · rintro ⟨m, hm, haccepts⟩
      obtain ⟨decl, hdecl, rfl⟩ := List.mem_map.mp hm
      obtain ⟨b, hb, hderives⟩ := exists_right_of_forall₂ hderives hdecl
      have hmem : b ∈ decl.value.ancestry := TypeDef.derivesFrom_iff.mp hderives
      exact ⟨⟨b, hb, hancestry decl hdecl b hmem haccepts⟩, fun _ => ⟨decl, hdecl, haccepts⟩⟩
    · rintro ⟨-, hdeclared⟩
      obtain ⟨decl, hdecl, haccepts⟩ := hdeclared hne
      exact ⟨decl.value, List.mem_map.mpr ⟨decl, hdecl, rfl⟩, haccepts⟩

end

/-- **One step is conjunction**, provided that no declared member accepts more
than its ancestors. -/
lemma accepts_derived_iff {d : Derivation} {engine : Engine} {base : TypeDef}
    {body : Body TypeDef} {info : TypeInfo} {text : String} (hd : d.Admissible engine)
    (hstart : d.start = .type base) (hsupported : d.unsupported? = none)
    (hbody : d.derivedBody base.body = .ok body)
    (hancestry : ∀ decl ∈ d.declared Declaration.type?, ∀ a ∈ decl.value.ancestry,
      decl.value.Accepts text engine → a.Accepts text engine) :
    (⟨info, some base, body⟩ : TypeDef).Accepts text engine ↔
      base.Accepts text engine ∧ d.Satisfies base text engine := by
  have hcanonical := (hd.base base hstart).canonical
  have hkind : d.start.kind = base.kind := by rw [hstart]; rfl
  obtain ⟨binfo, bbase, bbody⟩ := base
  cases bbody with
  | simple facets =>
      obtain ⟨facets', rfl, hstep⟩ := derivedBody_simple hbody
      rw [TypeDef.accepts_simple, TypeDef.accepts_simple]
      cases hdomain : facets.domain? with
      | none => exact check_unbounded_iff hdomain hsupported hkind hstep
      | some domain =>
          have hbounds := hcanonical domain (TypeDef.domain?_simple.trans hdomain)
          rw [TypeDef.bounds_simple] at hbounds
          exact check_bounded_iff hdomain hbounds hd hsupported hkind hstep
  | union members =>
      obtain ⟨members', rfl, hstep⟩ := derivedBody_union hbody
      exact accepts_union_iff hsupported hkind hancestry hstep

/-! ### Chains of derivations -/

/-- What a type accepts is accepted by all its ancestors. -/
lemma TypeDef.Reachable.accepts_of_mem_ancestry {engine : Engine} {t : TypeDef}
    (h : t.Reachable engine) :
    ∀ a ∈ t.ancestry, ∀ text, t.Accepts text engine → a.Accepts text engine := by
  refine TypeDef.Reachable.ind ?builtin ?root ?derived h
  case builtin =>
    intro kind facets _ a ha text haccepts
    obtain rfl : a = kind.define facets := by simpa [Kind.define, TypeDef.ancestry] using ha
    exact haccepts
  case root =>
    intro d mark kind body _ _ _ _ _ a ha text haccepts
    obtain rfl : a = ⟨d.info mark, none, body⟩ := by simpa [TypeDef.ancestry] using ha
    exact haccepts
  case derived =>
    intro d mark base body hd hstart hsupported hbody ihbase ihmembers a ha text haccepts
    rw [TypeDef.ancestry] at ha
    rcases List.mem_cons.mp ha with rfl | ha'
    · exact haccepts
    · have hstep := (accepts_derived_iff hd hstart hsupported hbody
        fun decl hdecl a ha => ihmembers decl hdecl a ha text).mp haccepts
      exact ihbase a ha' text hstep.1

/-- **Derivation is conjunction.** A type that is built on a reachable type
accepts what that type accepts and what the statements of the step allow; so it
accepts nothing that one of its ancestors does not. The engine is arbitrary:
nothing is asked of what matches patterns, or of what decodes texts. -/
theorem accepts_build_iff {engine : Engine} {d : Derivation} {mark : ℕ} {base t : TypeDef}
    (hd : d.Admissible engine) (hstart : d.start = .type base)
    (hbuild : d.build mark engine = .ok t) (text : String) :
    (t.Accepts text engine ↔ base.Accepts text engine ∧ d.Satisfies base text engine) ∧
      (t.Accepts text engine → ∀ a ∈ t.ancestry, a.Accepts text engine) := by
  refine ⟨?_, fun haccepts a ha => (hd.reachable hbuild).accepts_of_mem_ancestry a ha text haccepts⟩
  obtain ⟨hsupported, ⟨body, hbody, rfl⟩, -⟩ := build_eq_ok.mp hbuild
  rw [Derivation.body, hstart] at hbody
  have hbase : d.start.base? = some base := by rw [hstart]; rfl
  rw [hbase]
  exact accepts_derived_iff hd hstart hsupported hbody fun decl hdecl a ha =>
    (hd.members decl hdecl).accepts_of_mem_ancestry a ha text

/-- A step that declares reachable members on a reachable type is admissible. -/
lemma Derivation.admissible_types {d : Derivation} (members : List TypeDef) {location : Location}
    (hbase : ∀ b, d.start = .type b → b.Reachable) (hmembers : ∀ m ∈ members, m.Reachable)
    (h : d.statements = members.map fun m => ⟨.type m, location⟩) : d.Admissible where
  base := hbase
  members := by
    intro decl hdecl
    rw [declared, h, Statement.select, List.mem_filterMap] at hdecl
    obtain ⟨s, hs, hdecl⟩ := hdecl
    obtain ⟨m, hm, rfl⟩ := List.mem_map.mp hs
    obtain rfl := Option.some.inj hdecl
    exact hmembers m hm
  parts := by
    intro keyword decl hdecl
    cases keyword <;>
      simp [boundsDeclared, declared, h, Statement.select, Declaration.range?,
        Declaration.length?] at hdecl

/-- A union of integers and booleans, of which a step narrows the integers: the
new union accepts `5`, but `11` only the old one does. -/
theorem accepts_build_iff_union :
    let kind := IntegerKind.signed .w8
    let int8 := (Kind.integer kind).define (.integer kind kind.fullRange)
    let boolean := Kind.boolean.define .boolean
    let narrowing : Derivation :=
      ⟨.type int8, [⟨.range ⟨[⟨.literal "0", .literal "10"⟩], .none⟩, "range"⟩], .root, ⟨false⟩⟩
    let digit : TypeDef := ⟨narrowing.info 0, some int8, .simple (.integer kind
      [.make .range ⟨.integer 0, .integer 10⟩ .none])⟩
    let first : Derivation :=
      ⟨.root .union, [⟨.type int8, "first"⟩, ⟨.type boolean, "first"⟩], .root, ⟨false⟩⟩
    let base : TypeDef := ⟨first.info 0, none, .union [int8, boolean]⟩
    let second : Derivation :=
      ⟨.type base, [⟨.type digit, "second"⟩, ⟨.type boolean, "second"⟩], .root, ⟨false⟩⟩
    let t : TypeDef := ⟨second.info 0, some base, .union [digit, boolean]⟩
    narrowing.build 0 = .ok digit ∧ first.build 0 = .ok base ∧ second.build 0 = .ok t ∧
      second.Admissible ∧ second.Satisfies base "5" ∧ base.Accepts "5" ∧
      base.Accepts "11" ∧ ¬ second.Satisfies base "11" := by
  intro kind int8 boolean narrowing digit first base second t
  have hnarrowing : narrowing.build 0 = .ok digit := rfl
  have hfirst : first.build 0 = .ok base := rfl
  have hdigit : digit.derivesFrom int8 = true :=
    TypeDef.derivesFrom_iff.mpr (List.mem_cons_of_mem _ (List.mem_singleton_self _))
  have hboolean : boolean.derivesFrom boolean = true :=
    TypeDef.derivesFrom_iff.mpr (List.mem_singleton_self _)
  have hsecond : second.build 0 = .ok t := by
    refine build_eq_ok.mpr ⟨rfl, ⟨.union [digit, boolean], ?_, rfl⟩, rfl⟩
    refine map_eq_ok.mpr ⟨[digit, boolean], deriveUnionMembers_eq_ok.mpr ?_, rfl⟩
    refine .inr ⟨List.cons_ne_nil _ _, rfl, ?_⟩
    exact .cons hdigit (.cons hboolean .nil)
  have hint8 : int8.Reachable :=
    .builtin (show TypeDef.builtin? (.integer kind) = some int8 from rfl)
  have hboolean : boolean.Reachable :=
    .builtin (show TypeDef.builtin? .boolean = some boolean from rfl)
  have hdigit : digit.Reachable :=
    (Derivation.admissible_range hint8 (List.cons_ne_nil _ _)).reachable hnarrowing
  have hbase : base.Reachable := by
    refine (Derivation.admissible_types [int8, boolean] ?_ ?_ rfl).reachable hfirst
    · rintro _ ⟨⟩
    · simpa using ⟨hint8, hboolean⟩
  have hd : second.Admissible := by
    refine Derivation.admissible_types [digit, boolean] ?_ ?_ rfl
    · rintro _ ⟨⟩
      exact hbase
    · simpa using ⟨hdigit, hboolean⟩
  have haccepts := accepts_build_iff hd rfl hsecond
  have h5 := (haccepts "5").1.mp rfl
  refine ⟨hnarrowing, hfirst, hsecond, hd, h5.2, h5.1, rfl, fun hsat => ?_⟩
  have h11 := (haccepts "11").1.mpr ⟨rfl, hsat⟩
  exact absurd h11 (by rintro ⟨⟩)

end YangTypes
