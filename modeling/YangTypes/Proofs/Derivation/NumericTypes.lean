import Mathlib.Tactic
import YangTypes.Proofs.Derivation.Intervals

/-!
Which texts a numeric type accepts, said without the readers: those that denote
a number of the type within its ranges. So the form of a text never matters,
only the number that it denotes.
-/

namespace YangTypes

open Text

/-- A number lies in one of the intervals. -/
def InRanges (ranges : List Constraint) (q : ℚ) : Prop :=
  ∃ c ∈ ranges, c.interval.low.toRat ≤ q ∧ q ≤ c.interval.high.toRat

/-- The number of fraction digits of canonical ranges is a valid one. -/
lemma Canonical.validScale {digits : ℕ} {ranges : List Constraint}
    (h : Canonical (.decimals digits) ranges) : ValidScale digits := by
  obtain ⟨c, hc⟩ := List.exists_mem_of_ne_nil _ h.nonempty
  have hform := (h.form c hc).1
  cases hlow : c.interval.low with
  | integer n => simp [hlow, Number.form, Domain.decimals] at hform
  | decimal d =>
      obtain rfl : d.scale = digits := by
        simpa [hlow, Number.form, Domain.decimals] using hform
      exact d.scale_valid

section

variable {info : TypeInfo} {base : Option TypeDef} {text : String} {ranges : List Constraint}

/-- A decimal type accepts the texts that denote one of its decimals. -/
lemma accepts_decimal64_iff {digits : ℕ} (h : Canonical (.decimals digits) ranges) :
    (⟨info, base, .simple (.decimal64 digits ranges)⟩ : TypeDef).Accepts text ↔
      ∃ u : ℤ, FitsSigned 64 u ∧ DecimalLiteral text (u / 10 ^ digits) ∧
        InRanges ranges (u / 10 ^ digits) := by
  rw [TypeDef.accepts_simple, Facets.check_eq_ok_of_domain rfl]
  simp only [Facets.measure?, Facets.bounds, Facets.patterns, Option.map_eq_some_iff,
    toOption_eq_some, parseDecimal_eq_ok, List.not_mem_nil, false_implies, implies_true, and_true]
  constructor
  · rintro ⟨_, ⟨d, ⟨rfl, hliteral⟩, rfl⟩, hcheck⟩
    exact ⟨d.unscaled, d.unscaled_fits, hliteral, (h.check_eq_ok_iff rfl).mp hcheck⟩
  · rintro ⟨u, hu, hliteral, hranges⟩
    let d : Decimal := ⟨digits, u, h.validScale, hu⟩
    exact ⟨.decimal d, ⟨d, ⟨rfl, hliteral⟩, rfl⟩, (h.check_eq_ok_iff rfl).mpr hranges⟩

/-- An integer type accepts the texts that denote an integer within its ranges;
these lie within the type, so its own bounds need no mention. -/
lemma accepts_integer_iff {kind : IntegerKind} (h : Canonical (.integers kind) ranges) :
    (⟨info, base, .simple (.integer kind ranges)⟩ : TypeDef).Accepts text ↔
      ∃ n : ℤ, IntegerLiteral text n ∧ InRanges ranges n := by
  rw [TypeDef.accepts_simple, Facets.check_eq_ok_of_domain rfl]
  simp only [Facets.measure?, Facets.bounds, Facets.patterns, Option.map_eq_some_iff,
    toOption_eq_some, IntegerKind.parse_eq_ok, List.not_mem_nil, false_implies, implies_true,
    and_true]
  constructor
  · rintro ⟨_, ⟨n, ⟨hliteral, -⟩, rfl⟩, hcheck⟩
    exact ⟨n, hliteral, (h.check_eq_ok_iff rfl).mp hcheck⟩
  · rintro ⟨n, hliteral, hranges⟩
    have hwithin : kind.low ≤ n ∧ n ≤ kind.high := by
      obtain ⟨c, hc, hlow, hhigh⟩ := hranges
      obtain ⟨hleast, hgreatest⟩ := h.within c hc
      have h1 : (kind.low : ℚ) ≤ n := hleast.trans hlow
      have h2 : (n : ℚ) ≤ kind.high := hhigh.trans hgreatest
      exact_mod_cast And.intro h1 h2
    exact ⟨.integer n, ⟨n, ⟨hliteral, hwithin⟩, rfl⟩, (h.check_eq_ok_iff rfl).mpr hranges⟩

end

/-- **Numeric types accept exactly the literals of their numbers.** A decimal
type accepts a text if it has the form `[+-]?digits(.digits)?` and denotes a
64-bit integer divided by the power of ten of the type, within its ranges; an
integer type accepts a text if it has the form `[+-]?digits` and denotes an
integer within its ranges. Texts that denote one number are accepted alike. -/
theorem numeric_accepts_iff_denotes {t : TypeDef} (h : t.Reachable) :
    (∀ digits ranges, t.body = .simple (.decimal64 digits ranges) →
      (∀ text, t.Accepts text ↔ ∃ u : ℤ, FitsSigned 64 u ∧ DecimalLiteral text (u / 10 ^ digits) ∧
        InRanges ranges (u / 10 ^ digits)) ∧
      ∀ text text' q, DecimalLiteral text q → DecimalLiteral text' q →
        (t.Accepts text ↔ t.Accepts text')) ∧
    (∀ kind ranges, t.body = .simple (.integer kind ranges) →
      (∀ text, t.Accepts text ↔ ∃ n : ℤ, IntegerLiteral text n ∧ InRanges ranges n) ∧
      ∀ text text' n, IntegerLiteral text n → IntegerLiteral text' n →
        (t.Accepts text ↔ t.Accepts text')) := by
  have hcanonical := h.canonical
  obtain ⟨info, base, body⟩ := t
  constructor
  · rintro digits ranges rfl
    have hranges : Canonical (.decimals digits) ranges := hcanonical _ rfl
    refine ⟨fun text => accepts_decimal64_iff hranges, fun text text' q hq hq' => ?_⟩
    simp only [accepts_decimal64_iff hranges, hq.congr hq']
  · rintro kind ranges rfl
    have hranges : Canonical (.integers kind) ranges := hcanonical _ rfl
    refine ⟨fun text => accepts_integer_iff hranges, fun text text' n hn hn' => ?_⟩
    simp only [accepts_integer_iff hranges, hn.congr hn']

/-- The decimals with two fraction digits: a sign, leading zeros and a third
fraction digit that is zero change nothing, but another third digit is refused. -/
theorem numeric_accepts_iff_denotes_two_digits :
    let d : Derivation := ⟨.root .decimal64, [⟨.fractionDigits 2, "digits"⟩], .root, ⟨false⟩⟩
    let least : Decimal := ⟨2, -9223372036854775808, by decide, by decide⟩
    let greatest : Decimal := ⟨2, 9223372036854775807, by decide, by decide⟩
    let ranges := [Constraint.make .range ⟨.decimal least, .decimal greatest⟩ .none]
    let t : TypeDef := ⟨d.info 0, none, .simple (.decimal64 2 ranges)⟩
    d.build 0 = .ok t ∧ t.Reachable ∧ DecimalLiteral "1.5" (3 / 2) ∧
      DecimalLiteral "+001.500" (3 / 2) ∧ DecimalLiteral "1.505" (301 / 200) ∧
      t.Accepts "1.5" ∧ t.Accepts "+001.500" ∧ ¬ t.Accepts "1.505" := by
  intro d least greatest ranges t
  have hbuild : d.build 0 = .ok t := rfl
  have hd : d.Admissible := by
    refine ⟨?_, ?_, ?_⟩
    · rintro _ ⟨⟩
    · simp [d, Derivation.declared, Statement.select, Declaration.type?]
    · intro keyword
      cases keyword <;>
        simp [d, Derivation.boundsDeclared, Derivation.declared, Statement.select,
          Declaration.range?, Declaration.length?]
  have hreachable := hd.reachable hbuild
  have hwritten : ∀ (cs fs : List Char) (m n : ℕ) (q : ℚ), IsDigits cs ∧ digitsNat cs = m →
      IsDigits fs ∧ digitsNat fs = n → m + n / 10 ^ fs.length = q →
      UnsignedDecimal (cs ++ '.' :: fs) q := by
    rintro cs fs _ _ _ ⟨hcs, rfl⟩ ⟨hfs, rfl⟩ rfl
    exact .fraction hcs hfs
  have hshort : DecimalLiteral "1.5" (3 / 2) :=
    .plain (hwritten ['1'] ['5'] 1 5 _ (by decide) (by decide) (by norm_num))
  have hlong : DecimalLiteral "+001.500" (3 / 2) :=
    .plus (hwritten ['0', '0', '1'] ['5', '0', '0'] 1 500 _ (by decide) (by decide) (by norm_num))
  have hthird : DecimalLiteral "1.505" (301 / 200) :=
    .plain (hwritten ['1'] ['5', '0', '5'] 1 505 _ (by decide) (by decide) (by norm_num))
  obtain ⟨haccepts, hcongr⟩ := (numeric_accepts_iff_denotes hreachable).1 2 ranges rfl
  have hone : t.Accepts "1.5" := by
    have hvalue : ((150 : ℤ) : ℚ) / 10 ^ 2 = 3 / 2 := by norm_num
    refine (haccepts _).mpr ⟨150, by decide, by rwa [hvalue], ?_⟩
    refine ⟨_, List.mem_singleton_self _, ?_⟩
    norm_num [Constraint.make, Number.toRat, Decimal.toRat, least, greatest]
  refine ⟨hbuild, hreachable, hshort, hlong, hthird, hone, (hcongr _ _ _ hshort hlong).mp hone, ?_⟩
  intro h
  obtain ⟨u, -, hu, -⟩ := (haccepts _).mp h
  have heq : (2 * u : ℚ) = 301 := by
    have hu' := hu.unique hthird
    field_simp at hu'
    linarith
  have hodd : 2 * u = 301 := by exact_mod_cast heq
  omega

end YangTypes
