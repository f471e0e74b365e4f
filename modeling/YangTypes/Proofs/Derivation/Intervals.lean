import Mathlib.Tactic
import YangTypes.Proofs.Derivation.Reachable

/-!
The bounds of every type that can be built are canonical.

* `Canonical`: there is at least one interval, every interval is in order and
  ends before the next one starts, and all ends have the form of the domain and
  lie within it.
* `Canonical.narrowed`: a step keeps this, whether it inherits the bounds or
  replaces them. A literal is read in the form of the domain, and the keywords
  take their numbers from intervals that have it already; the rest is what
  narrowing guarantees.
* `Canonical.resolveEnd_min`, `Canonical.resolveEnd_max`: the first and the last
  end are the least and the greatest number that is accepted, so the keywords
  `min` and `max` always stand for a number.
* `Canonical.countP_encloses`: an interval within a canonical list lies within
  exactly one of its intervals.
-/

namespace YangTypes

/-! ### Canonical lists -/

/-- Bounds as they are kept: not empty, in order and apart from each other,
with ends of the form of the domain and within it. -/
structure Canonical (domain : Domain) (cs : List Constraint) : Prop where
  nonempty : cs ≠ []
  form : ∀ c ∈ cs, c.interval.HasForm domain.form
  ordered : ∀ c ∈ cs, c.Ordered
  separated : cs.Pairwise Constraint.Before
  within : ∀ c ∈ cs,
    domain.least ≤ c.interval.low.toRat ∧ c.interval.high.toRat ≤ domain.greatest

/-- The numbers of a form that constraints accept. -/
def acceptedNumbers (φ : Number.Form) (cs : List Constraint) : Set ℚ :=
  {q | ∃ n : Number, n.form = φ ∧ Constraint.check cs n = .ok () ∧ n.toRat = q}

/-- In a list whose elements exclude each other, one of which has a property,
exactly one has it. -/
lemma countP_eq_one {α : Type} {R : α → α → Prop} {p : α → Bool} {l : List α}
    (hpair : l.Pairwise R) (hexcl : ∀ a b, R a b → p a = true → p b = false)
    (hex : ∃ a ∈ l, p a = true) : l.countP p = 1 := by
  induction l with
  | nil => simp at hex
  | cons a l ih =>
      obtain ⟨hrel, htail⟩ := List.pairwise_cons.mp hpair
      by_cases ha : p a = true
      · have hnone : l.countP p = 0 := by
          rw [List.countP_eq_zero]
          intro b hb
          simp [hexcl a b (hrel b hb) ha]
        rw [List.countP_cons_of_pos ha, hnone]
      · rw [List.countP_cons_of_neg ha]
        obtain ⟨b, hb, hpb⟩ := hex
        rcases List.mem_cons.mp hb with rfl | hb'
        · exact absurd hpb ha
        · exact ih htail ⟨b, hb', hpb⟩

namespace Canonical

variable {domain : Domain} {cs : List Constraint}

lemma ofScale (h : Canonical domain cs) : ∀ c ∈ cs, c.OfScale domain.form.scale :=
  fun c hc => (h.form c hc).ofScale

/-- A number of the form of the domain is accepted if it lies in an interval. -/
lemma check_eq_ok_iff (h : Canonical domain cs) {n : Number} (hn : n.form = domain.form) :
    Constraint.check cs n = .ok () ↔
      ∃ c ∈ cs, c.interval.low.toRat ≤ n.toRat ∧ n.toRat ≤ c.interval.high.toRat := by
  have hscale : n.OfScale domain.form.scale := hn ▸ n.ofScale_form
  rw [Constraint.check_eq_ok_iff, or_iff_right h.nonempty]
  constructor
  · rintro ⟨c, hc, hcn⟩
    exact ⟨c, hc, (Interval.contains_iff (h.ofScale c hc) hscale).mp hcn⟩
  · rintro ⟨c, hc, hcn⟩
    exact ⟨c, hc, (Interval.contains_iff (h.ofScale c hc) hscale).mpr hcn⟩

/-- The keyword `min` stands for the least number that is accepted. -/
lemma resolveEnd_min (h : Canonical domain cs) (read : String → Except Violation Number) :
    ∃ low, resolveEnd cs read .min = .ok low ∧ low.form = domain.form ∧
      IsLeast (acceptedNumbers domain.form cs) low.toRat := by
  obtain ⟨first, rest, hcs⟩ := List.exists_cons_of_ne_nil h.nonempty
  have hfirst : first ∈ cs := by rw [hcs]; simp
  have hform := (h.form first hfirst).1
  refine ⟨first.interval.low, by rw [hcs]; rfl, hform, ⟨_, hform, ?_, rfl⟩, ?_⟩
  · exact (h.check_eq_ok_iff hform).mpr ⟨first, hfirst, le_refl _, h.ordered first hfirst⟩
  · rintro _ ⟨n, hn, hcheck, rfl⟩
    obtain ⟨c, hc, hlow, -⟩ := (h.check_eq_ok_iff hn).mp hcheck
    -- an interval after the first starts after the first has ended
    have hsep := h.separated
    rw [hcs] at hc hsep
    rcases List.mem_cons.mp hc with rfl | hc'
    · exact hlow
    · have hbefore : first.Before c := (List.pairwise_cons.mp hsep).1 c hc'
      exact (h.ordered first hfirst).trans (hbefore.le.trans hlow)

/-- The keyword `max` stands for the greatest number that is accepted. -/
lemma resolveEnd_max (h : Canonical domain cs) (read : String → Except Violation Number) :
    ∃ high, resolveEnd cs read .max = .ok high ∧ high.form = domain.form ∧
      IsGreatest (acceptedNumbers domain.form cs) high.toRat := by
  obtain ⟨rest, last, hcs⟩ := (List.eq_nil_or_concat' cs).resolve_left h.nonempty
  have hlast : last ∈ cs := by rw [hcs]; simp
  have hform := (h.form last hlast).2
  refine ⟨last.interval.high, by rw [hcs, resolveEnd]; simp, hform, ⟨_, hform, ?_, rfl⟩, ?_⟩
  · exact (h.check_eq_ok_iff hform).mpr ⟨last, hlast, h.ordered last hlast, le_refl _⟩
  · rintro _ ⟨n, hn, hcheck, rfl⟩
    obtain ⟨c, hc, -, hhigh⟩ := (h.check_eq_ok_iff hn).mp hcheck
    -- an interval before the last ends before the last starts
    have hsep := h.separated
    rw [hcs] at hc hsep
    rcases List.mem_append.mp hc with hc' | hc'
    · have hbefore : c.Before last :=
        (List.pairwise_append.mp hsep).2.2 c hc' last (by simp)
      exact hhigh.trans (hbefore.le.trans (h.ordered last hlast))
    · obtain rfl := List.mem_singleton.mp hc'
      exact hhigh

/-- An interval in order that lies within an interval of the list lies within
exactly one of them. -/
lemma countP_encloses (h : Canonical domain cs) {c : Constraint}
    (hc : c.OfScale domain.form.scale) (hordered : c.Ordered)
    (hex : ∃ b ∈ cs, b.interval.encloses c.interval = true) :
    cs.countP (fun b => b.interval.encloses c.interval) = 1 := by
  have hpair : cs.Pairwise fun a b => a.Before b ∧ a ∈ cs ∧ b ∈ cs :=
    List.Pairwise.and_mem.mp h.separated |>.imp fun ⟨ha, hb, hab⟩ => ⟨hab, ha, hb⟩
  refine countP_eq_one hpair ?_ hex
  rintro a b ⟨hab, ha, hb⟩ hencl
  rw [Interval.encloses_iff (h.ofScale a ha) hc] at hencl
  rw [← Bool.not_eq_true, Interval.encloses_iff (h.ofScale b hb) hc]
  rintro ⟨hlow, -⟩
  have hchain : a.interval.high.toRat < a.interval.high.toRat :=
    calc a.interval.high.toRat < b.interval.low.toRat := hab
      _ ≤ c.interval.low.toRat := hlow
      _ ≤ c.interval.high.toRat := hordered
      _ ≤ a.interval.high.toRat := hencl.2
  exact lt_irrefl _ hchain

/-! ### What a step keeps -/

/-- Whatever an end stands for has the form of the domain. -/
lemma form_of_resolveEnd (h : Canonical domain cs) {read : String → Except Violation Number}
    (hread : ∀ text n, read text = .ok n → n.form = domain.form) {e : BoundEnd} {n : Number}
    (he : resolveEnd cs read e = .ok n) : n.form = domain.form := by
  cases e with
  | min =>
      obtain ⟨low, hlow, hform, -⟩ := h.resolveEnd_min read
      obtain rfl := Except.ok.inj (hlow.symm.trans he)
      exact hform
  | max =>
      obtain ⟨high, hhigh, hform, -⟩ := h.resolveEnd_max read
      obtain rfl := Except.ok.inj (hhigh.symm.trans he)
      exact hform
  | literal text =>
      rw [resolveEnd] at he
      split at he
      next m hm =>
        obtain rfl := Except.ok.inj he
        exact hread text m hm
      next => simp at he

/-- Whatever parts stand for has the form of the domain. -/
lemma hasForm_of_resolveParts (h : Canonical domain cs) {keyword : BoundKeyword}
    {read : String → Except Violation Number}
    (hread : ∀ text n, read text = .ok n → n.form = domain.form) {doc : RestrictionDoc}
    {pairs : List BoundPair} {candidate : List Constraint}
    (hparts : resolveParts keyword cs read doc pairs = .ok candidate) :
    ∀ c ∈ candidate, c.interval.HasForm domain.form := by
  intro c hc
  obtain ⟨pair, -, interval, ⟨hlow, hhigh⟩, rfl⟩ :=
    exists_left_of_forall₂ (resolveParts_eq_ok.mp hparts) hc
  exact ⟨h.form_of_resolveEnd hread hlow, h.form_of_resolveEnd hread hhigh⟩

/-- Every interval lies within itself, and so within an interval of the list. -/
lemma exists_encloses_self (h : Canonical domain cs) {c : Constraint} (hc : c ∈ cs) :
    ∃ b ∈ cs, b.interval.encloses c.interval = true :=
  ⟨c, hc, (Interval.encloses_iff (h.ofScale c hc) (h.ofScale c hc)).mpr ⟨le_refl _, le_refl _⟩⟩

/-- **A step keeps bounds canonical**, and each of its intervals lies within an
interval of the base. -/
lemma narrowed (h : Canonical domain cs) {keyword : BoundKeyword}
    {read : String → Except Violation Number}
    (hread : ∀ text n, read text = .ok n → n.form = domain.form)
    {decls : List (Located BoundsDecl)} (hne : ∀ decl ∈ decls, decl.value.parts ≠ [])
    {result : List Constraint} (hstep : Narrowed keyword read cs decls result) :
    Canonical domain result ∧ ∀ c ∈ result, ∃ b ∈ cs, b.interval.encloses c.interval = true := by
  cases hstep with
  | inherited => exact ⟨h, fun c hc => h.exists_encloses_self hc⟩
  | @replaced decl candidate result hparts hnarrow =>
      have hform := h.hasForm_of_resolveParts hread hparts
      have hscale : ∀ c ∈ candidate, c.OfScale domain.form.scale :=
        fun c hc => (hform c hc).ofScale
      have hordered := narrow_ordered hscale hnarrow
      have hseparated := narrow_separated hscale hnarrow
      obtain ⟨-, -, hencloses, rfl⟩ := narrow_eq_ok_iff.mp hnarrow
      have hwithin : ∀ c ∈ sortByLow candidate, ∃ b ∈ cs, b.interval.encloses c.interval = true :=
        fun c hc => hencloses c (mem_sortByLow.mp hc)
      refine ⟨⟨?_, fun c hc => hform c (mem_sortByLow.mp hc), hordered, hseparated, ?_⟩, hwithin⟩
      · -- sorting and resolving keep the number of parts
        rw [← List.length_pos_iff, (sortByLow_perm candidate).length_eq,
          ← (resolveParts_eq_ok.mp hparts).length_eq, List.length_pos_iff]
        exact hne decl (by simp)
      · intro c hc
        obtain ⟨b, hb, hbc⟩ := hwithin c hc
        rw [Interval.encloses_iff (h.ofScale b hb) (hscale c (mem_sortByLow.mp hc))] at hbc
        have hb' := h.within b hb
        exact ⟨hb'.1.trans hbc.1, hbc.2.trans hb'.2⟩

/-! ### Where chains start -/

/-- One interval within the domain is canonical. -/
lemma singleton {low high : Number} (hlow : low.form = domain.form)
    (hhigh : high.form = domain.form) (hleast : domain.least ≤ low.toRat)
    (hle : low.toRat ≤ high.toRat) (hgreatest : high.toRat ≤ domain.greatest)
    (keyword : BoundKeyword) (doc : RestrictionDoc) :
    Canonical domain [Constraint.make keyword ⟨low, high⟩ doc] where
  nonempty := by simp
  form := by simpa [Constraint.make, Interval.HasForm] using ⟨hlow, hhigh⟩
  ordered := by simpa [Constraint.make, Constraint.Ordered] using hle
  separated := List.pairwise_singleton _ _
  within := by simpa [Constraint.make] using ⟨hleast, hgreatest⟩

lemma fullLength_canonical : Canonical .lengths fullLength := by
  refine singleton rfl rfl ?_ ?_ ?_ _ _
  · exact le_refl _
  · norm_num [Number.toRat, Width.maxValue, Width.bits, twoPow]
  · norm_num [Number.toRat, Width.maxValue, Width.bits, twoPow, Domain.lengths]

lemma fullRange_canonical (kind : IntegerKind) : Canonical (.integers kind) kind.fullRange := by
  refine singleton rfl rfl (le_refl _) ?_ (le_refl _) _ _
  rw [Number.toRat, Number.toRat, Int.cast_le]
  cases kind with
  | signed w => cases w <;> decide
  | unsigned w => cases w <;> decide

lemma fullDecimalRange_canonical {digits : ℕ} {ranges : List Constraint}
    (h : Derivation.fullDecimalRange digits = .ok ranges) :
    Canonical (.decimals digits) ranges := by
  obtain ⟨low, high, hlow, hhigh, rfl⟩ := fullDecimalRange_eq_ok.mp h
  rw [Decimal.least, Decimal.of] at hlow
  rw [Decimal.greatest, Decimal.of] at hhigh
  split at hlow
  next hvalid =>
    rw [dif_pos hvalid] at hhigh
    obtain rfl := Except.ok.inj hlow
    obtain rfl := Except.ok.inj hhigh
    have hpos : (0 : ℚ) < 10 ^ digits := by positivity
    refine singleton rfl rfl ?_ ?_ ?_ _ _
    · norm_num [Domain.decimals, Number.toRat, Decimal.toRat, Decimal.minUnscaled]
    · rw [Number.toRat, Number.toRat, Decimal.toRat, Decimal.toRat,
        div_le_div_iff_of_pos_right hpos]
      norm_num [Decimal.minUnscaled, Decimal.maxUnscaled]
    · norm_num [Domain.decimals, Number.toRat, Decimal.toRat, Decimal.maxUnscaled]
  next => simp at hlow

end Canonical

/-! ### Chains of derivations -/

/-- The bounds of a derived type are what its step makes of those of the base. -/
lemma derivedBody_narrowed {d : Derivation} {base : TypeDef} {info : TypeInfo}
    {body : Body TypeDef} {domain : Domain} (h : d.derivedBody base.body = .ok body)
    (hdomain : (⟨info, some base, body⟩ : TypeDef).domain? = some domain) :
    base.domain? = some domain ∧ ∃ (facets : Facets) (keyword : BoundKeyword),
      facets.domain? = some domain ∧
      Narrowed keyword facets.readBound base.bounds (d.boundsDeclared keyword)
        (⟨info, some base, body⟩ : TypeDef).bounds := by
  obtain ⟨binfo, bbase, bbody⟩ := base
  cases bbody with
  | simple facets =>
      obtain ⟨facets', rfl, hstep⟩ := derivedBody_simple h
      rw [TypeDef.domain?_simple, hstep.domain?_eq] at hdomain
      refine ⟨TypeDef.domain?_simple.trans hdomain, facets, facets.keyword, hdomain, ?_⟩
      rw [TypeDef.bounds_simple, TypeDef.bounds_simple]
      exact (hstep.narrowed hdomain).1
  | union members =>
      obtain ⟨members', rfl, -⟩ := derivedBody_union h
      simp [TypeDef.domain?_union] at hdomain

/-- A derived type has canonical bounds if its base has, and each of them lies
within one of the base. -/
lemma canonical_derived {d : Derivation} {engine : Engine} {base : TypeDef} {info : TypeInfo}
    {body : Body TypeDef} {domain : Domain} (hd : d.Admissible engine)
    (h : d.derivedBody base.body = .ok body)
    (hdomain : (⟨info, some base, body⟩ : TypeDef).domain? = some domain)
    (hbase : ∀ domain, base.domain? = some domain → Canonical domain base.bounds) :
    base.domain? = some domain ∧
      Canonical domain (⟨info, some base, body⟩ : TypeDef).bounds ∧
      ∀ c ∈ (⟨info, some base, body⟩ : TypeDef).bounds,
        ∃ b ∈ base.bounds, b.interval.encloses c.interval = true := by
  obtain ⟨hbdomain, facets, keyword, hfacets, hnarrowed⟩ := derivedBody_narrowed h hdomain
  exact ⟨hbdomain, (hbase domain hbdomain).narrowed
    (fun _ _ hread => Facets.form_of_readBound hfacets hread) (hd.parts keyword) hnarrowed⟩

/-- A root with bounds has canonical ones. -/
lemma canonical_root {d : Derivation} {engine : Engine} {kind : RootKind} {info : TypeInfo}
    {body : Body TypeDef} {domain : Domain} (hd : d.Admissible engine)
    (h : d.rootBody kind = .ok body)
    (hdomain : (⟨info, none, body⟩ : TypeDef).domain? = some domain) :
    Canonical domain (⟨info, none, body⟩ : TypeDef).bounds := by
  cases rootBody_step h with
  | @decimal64 decl full ranges _ hfull hnarrowed =>
      obtain rfl : Domain.decimals decl.value = domain := Option.some.inj hdomain
      have hdomain : (Facets.decimal64 decl.value ranges).domain? =
        some (.decimals decl.value) := rfl
      rw [TypeDef.bounds_simple]
      exact ((Canonical.fullDecimalRange_canonical hfull).narrowed
        (fun _ _ hread => Facets.form_of_readBound hdomain hread) (hd.parts .range) hnarrowed).1
  | bits | enumeration | identityref | leafref =>
      simp [TypeDef.domain?_simple, Facets.domain?] at hdomain
  | union => simp [TypeDef.domain?_union] at hdomain

/-- A built-in type with bounds has canonical ones. -/
lemma canonical_builtin {kind : Kind} {facets : Facets} {domain : Domain}
    (h : kind.facets? = .ok facets) (hdomain : facets.domain? = some domain) :
    Canonical domain facets.bounds := by
  cases kind with
  | binary =>
      obtain rfl := Except.ok.inj h
      obtain rfl := Option.some.inj hdomain
      exact Canonical.fullLength_canonical
  | string =>
      obtain rfl := Except.ok.inj h
      obtain rfl := Option.some.inj hdomain
      exact Canonical.fullLength_canonical
  | integer kind =>
      obtain rfl := Except.ok.inj h
      obtain rfl := Option.some.inj hdomain
      exact Canonical.fullRange_canonical kind
  | boolean | empty | instanceIdentifier =>
      obtain rfl := Except.ok.inj h
      simp [Facets.domain?] at hdomain
  | bits | decimal64 | enumeration | identityref | leafref | union => simp [Kind.facets?] at h

/-- The bounds of every reachable type are canonical. -/
lemma TypeDef.Reachable.canonical {engine : Engine} {t : TypeDef} (h : t.Reachable engine) :
    ∀ domain, t.domain? = some domain → Canonical domain t.bounds := by
  refine TypeDef.Reachable.ind ?builtin ?root ?derived h
  case builtin =>
    intro kind facets hfacets domain hdomain
    rw [Kind.define, TypeDef.domain?_simple] at hdomain
    rw [Kind.define, TypeDef.bounds_simple]
    exact canonical_builtin hfacets hdomain
  case root =>
    intro d mark kind body hd _ _ hbody _ domain hdomain
    exact canonical_root hd hbody hdomain
  case derived =>
    intro d mark base body hd _ _ hbody ihbase _ domain hdomain
    exact (canonical_derived hd hbody hdomain ihbase).2.1

/-- Each interval of a derived type lies within exactly one interval of its
base, which bounds numbers of the same domain. -/
lemma TypeDef.Reachable.countP_encloses {engine : Engine} {t base : TypeDef} {domain : Domain}
    (h : t.Reachable engine) (hdomain : t.domain? = some domain) (hbase : t.base = some base) :
    base.domain? = some domain ∧ ∀ c ∈ t.bounds,
      base.bounds.countP (fun b => b.interval.encloses c.interval) = 1 := by
  have hcanonical := h.canonical domain hdomain
  obtain ⟨d, mark, body, hd, hstart, hbody, rfl⟩ := h.exists_step hbase
  have hbreach := hd.base base hstart
  obtain ⟨hbdomain, -, hencloses⟩ := canonical_derived hd hbody hdomain hbreach.canonical
  refine ⟨hbdomain, fun c hc => ?_⟩
  exact (hbreach.canonical domain hbdomain).countP_encloses (hcanonical.ofScale c hc)
    (hcanonical.ordered c hc) (hencloses c hc)

/-- **The bounds of every type that can be built.** They are canonical for the
domain of the type; each interval lies within exactly one interval of the base;
and in any further restriction the keywords `min` and `max` stand for the least
and the greatest number that the type accepts. -/
theorem reachable_bounds_canonical {t : TypeDef} {domain : Domain} (h : t.Reachable)
    (hdomain : t.domain? = some domain) :
    Canonical domain t.bounds ∧
      (∀ base, t.base = some base → base.domain? = some domain ∧
        ∀ c ∈ t.bounds, base.bounds.countP (fun b => b.interval.encloses c.interval) = 1) ∧
      ∀ read, ∃ low high, resolveEnd t.bounds read .min = .ok low ∧
        resolveEnd t.bounds read .max = .ok high ∧
        IsLeast (acceptedNumbers domain.form t.bounds) low.toRat ∧
        IsGreatest (acceptedNumbers domain.form t.bounds) high.toRat := by
  have hcanonical := h.canonical domain hdomain
  refine ⟨hcanonical, fun base hbase => h.countP_encloses hdomain hbase, fun read => ?_⟩
  obtain ⟨low, hlow, -, hleast⟩ := hcanonical.resolveEnd_min read
  obtain ⟨high, hhigh, -, hgreatest⟩ := hcanonical.resolveEnd_max read
  exact ⟨low, high, hlow, hhigh, hleast, hgreatest⟩

/-- A step with one `range` on a reachable type is admissible. -/
lemma Derivation.admissible_range {base : TypeDef} {bounds : BoundsDecl} {location : Location}
    {path : SchemaPath} {options : DerivationOptions} (hbase : base.Reachable)
    (hparts : bounds.parts ≠ []) :
    (⟨.type base, [⟨.range bounds, location⟩], path, options⟩ : Derivation).Admissible where
  base := by
    rintro _ ⟨⟩
    exact hbase
  members := by simp [Derivation.declared, Statement.select, Declaration.type?]
  parts := by
    intro keyword
    cases keyword with
    | range => simpa [boundsDeclared, declared, Statement.select, Declaration.range?] using hparts
    | length => simp [boundsDeclared, declared, Statement.select, Declaration.length?]

/-- Two steps on 8-bit integers, the first with its parts out of order and the
second with both keywords. -/
theorem reachable_bounds_canonical_two_steps :
    let kind := IntegerKind.signed .w8
    let int8 := (Kind.integer kind).define (.integer kind kind.fullRange)
    let interval := fun low high : ℤ => Constraint.make .range ⟨.integer low, .integer high⟩ .none
    let first : Derivation := ⟨.type int8, [⟨.range ⟨[⟨.literal "20", .max⟩,
      ⟨.literal "-1", .literal "10"⟩], .none⟩, "first"⟩], .root, ⟨false⟩⟩
    let base : TypeDef :=
      ⟨first.info 0, some int8, .simple (.integer kind [interval (-1) 10, interval 20 127])⟩
    let second : Derivation := ⟨.type base, [⟨.range ⟨[⟨.min, .literal "0"⟩, ⟨.max, .max⟩],
      .none⟩, "second"⟩], .root, ⟨false⟩⟩
    let t : TypeDef :=
      ⟨second.info 0, some base, .simple (.integer kind [interval (-1) 0, interval 127 127])⟩
    first.build 0 = .ok base ∧ second.build 0 = .ok t ∧ t.Reachable ∧
      Canonical (.integers kind) t.bounds ∧
      ∀ c ∈ t.bounds, base.bounds.countP (fun b => b.interval.encloses c.interval) = 1 := by
  intro kind int8 interval first base second t
  have hfirst : first.build 0 = .ok base := rfl
  have hsecond : second.build 0 = .ok t := rfl
  have hint8 : int8.Reachable :=
    .builtin (show TypeDef.builtin? (.integer kind) = some int8 from rfl)
  have hbase : base.Reachable :=
    (Derivation.admissible_range hint8 (List.cons_ne_nil _ _)).reachable hfirst
  have ht : t.Reachable :=
    (Derivation.admissible_range hbase (List.cons_ne_nil _ _)).reachable hsecond
  obtain ⟨hcanonical, hencloses, -⟩ := reachable_bounds_canonical ht rfl
  exact ⟨hfirst, hsecond, ht, hcanonical, (hencloses base rfl).2⟩

end YangTypes
