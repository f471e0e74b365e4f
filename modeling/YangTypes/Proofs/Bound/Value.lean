import Mathlib.Tactic
import YangTypes.Bound.Constraint

/-!
The rational number that a bound denotes, and where the order of bounds is the
order of these numbers.

* `Decimal.toRat`, `Number.toRat`: the denoted number.
* `Number.order_eq_compare`: the order is exact on integers together with the
  decimals of one scale. Only two decimals of different scales are compared
  through approximations, and such a pair is not `Comparable`.
* `Number.OfScale`: the numbers among which every pair is comparable. The rest
  of the theory speaks of intervals whose ends are such numbers, and reads
  `contains`, `encloses` and `overlaps` as statements about rationals.
-/

namespace YangTypes

lemma tenPow_eq (n : ℕ) : tenPow n = 10 ^ n := rfl

@[simp]
lemma cast_tenPow (n : ℕ) : ((tenPow n : ℕ) : ℚ) = 10 ^ n := by
  rw [tenPow_eq]
  push_cast
  rfl

namespace Decimal

/-- The number that a decimal denotes. -/
def toRat (d : Decimal) : ℚ := d.unscaled / 10 ^ d.scale

lemma divisor_pos (d : Decimal) : 0 < d.divisor := by
  rw [divisor]
  exact_mod_cast tenPow_pos d.scale

lemma toRat_eq_div (d : Decimal) : d.toRat = d.unscaled / (d.divisor : ℚ) := by
  rw [toRat, divisor, Int.cast_natCast, cast_tenPow]

/-- An integer is below a decimal if it is after scaling. -/
lemma intCast_lt_toRat (n : ℤ) (d : Decimal) :
    (n : ℚ) < d.toRat ↔ n * d.divisor < d.unscaled := by
  have hpos : (0 : ℚ) < d.divisor := by exact_mod_cast d.divisor_pos
  rw [toRat_eq_div, lt_div_iff₀ hpos]
  exact_mod_cast Iff.rfl

/-- An integer is above a decimal if it is after scaling. -/
lemma toRat_lt_intCast (n : ℤ) (d : Decimal) :
    d.toRat < (n : ℚ) ↔ d.unscaled < n * d.divisor := by
  have hpos : (0 : ℚ) < d.divisor := by exact_mod_cast d.divisor_pos
  rw [toRat_eq_div, div_lt_iff₀ hpos]
  exact_mod_cast Iff.rfl

/-- At one scale a decimal denotes more if its unscaled value is greater. -/
lemma toRat_lt_toRat {a b : Decimal} (h : a.scale = b.scale) :
    a.toRat < b.toRat ↔ a.unscaled < b.unscaled := by
  have hpos : (0 : ℚ) < 10 ^ b.scale := by positivity
  rw [toRat, toRat, h, div_lt_div_iff_of_pos_right hpos]
  exact_mod_cast Iff.rfl

/-- The longer of two forms of a number has zeros where the other has ended. -/
lemma unscaled_eq_mul_pow {s k : ℕ} {u v : ℤ} (h : (u : ℚ) / 10 ^ s = v / 10 ^ (s + k)) :
    v = u * 10 ^ k := by
  rw [div_eq_div_iff (by positivity) (by positivity), pow_add, mul_comm (10 ^ s : ℚ), ← mul_assoc]
    at h
  have hcancel : (u : ℚ) * 10 ^ k = v := mul_right_cancel₀ (by positivity) h
  exact_mod_cast hcancel.symm

end Decimal

/-- An order that is less, equal and greater where a comparison of rationals
is, is that comparison. -/
lemma eq_compare_of_iff {o : Ordering} {p q : ℚ} (hlt : o = .lt ↔ p < q) (hgt : o = .gt ↔ q < p) :
    o = compare p q := by
  cases o with
  | lt => exact (compare_lt_iff_lt.mpr (hlt.mp rfl)).symm
  | gt => exact (compare_gt_iff_gt.mpr (hgt.mp rfl)).symm
  | eq =>
      have h1 : ¬ p < q := fun h => by simpa using hlt.mpr h
      have h2 : ¬ q < p := fun h => by simpa using hgt.mpr h
      exact (compare_eq_iff_eq.mpr (le_antisymm (not_lt.mp h2) (not_lt.mp h1))).symm

/-- At one scale the order of decimals is exact. -/
lemma Decimal.order_eq_compare {a b : Decimal} (h : a.scale = b.scale) :
    a.order b = compare a.toRat b.toRat := by
  rw [Decimal.order, if_pos h]
  refine eq_compare_of_iff ?_ ?_
  · rw [compare_lt_iff_lt, toRat_lt_toRat h]
  · rw [compare_gt_iff_gt, toRat_lt_toRat h.symm]

namespace Number

/-! ### The order of an integer and a decimal -/

/-- The integer part and the fraction of a decimal have the sign of the number,
and the fraction is less than one unit. -/
lemma unscaled_cases (d : Decimal) :
    d.unscaled = d.intPart * d.divisor + d.signedFrac ∧
      (0 ≤ d.unscaled → 0 ≤ d.signedFrac ∧ d.signedFrac < d.divisor) ∧
      (d.unscaled ≤ 0 → d.signedFrac ≤ 0 ∧ -d.divisor < d.signedFrac) := by
  have hpos := d.divisor_pos
  refine ⟨?_, fun h => ⟨?_, ?_⟩, fun h => ⟨?_, ?_⟩⟩
  · rw [Decimal.intPart, Decimal.signedFrac, Int.tdiv_mul_add_tmod]
  · exact Int.tmod_nonneg _ h
  · exact Int.tmod_lt_of_pos _ hpos
  · rw [Decimal.signedFrac, ← Int.neg_neg d.unscaled, Int.neg_tmod]
    have := Int.tmod_nonneg d.divisor (show 0 ≤ -d.unscaled by omega)
    omega
  · rw [Decimal.signedFrac, ← Int.neg_neg d.unscaled, Int.neg_tmod]
    have := Int.tmod_lt_of_pos (-d.unscaled) hpos
    omega

/-- An integer below the integer part of a decimal is below the decimal. -/
lemma lt_unscaled_of_lt_intPart {n : ℤ} {d : Decimal} (h : n < d.intPart) :
    n * d.divisor < d.unscaled := by
  obtain ⟨heq, hnonneg, hnonpos⟩ := unscaled_cases d
  have hpos := d.divisor_pos
  have hle : (n + 1) * d.divisor ≤ d.intPart * d.divisor :=
    mul_le_mul_of_nonneg_right (by omega) hpos.le
  rw [add_mul, one_mul] at hle
  rcases le_total 0 d.unscaled with hu | hu
  · have := (hnonneg hu).1
    omega
  · have := (hnonpos hu).2
    omega

/-- An integer above the integer part of a decimal is above the decimal. -/
lemma unscaled_lt_of_intPart_lt {n : ℤ} {d : Decimal} (h : d.intPart < n) :
    d.unscaled < n * d.divisor := by
  obtain ⟨heq, hnonneg, hnonpos⟩ := unscaled_cases d
  have hpos := d.divisor_pos
  have hle : (d.intPart + 1) * d.divisor ≤ n * d.divisor :=
    mul_le_mul_of_nonneg_right (by omega) hpos.le
  rw [add_mul, one_mul] at hle
  rcases le_total 0 d.unscaled with hu | hu
  · have := (hnonneg hu).2
    omega
  · have := (hnonpos hu).1
    omega

/-- The sign that decides the order of a decimal and its integer part is the
sign of the fraction. -/
lemma fracSign_eq (d : Decimal) :
    (if d.fracPart = 0 then 0 else d.signum) = d.signedFrac.sign := by
  obtain ⟨heq, hnonneg, hnonpos⟩ := unscaled_cases d
  rw [Decimal.fracPart, Decimal.signum]
  by_cases hf : d.signedFrac = 0
  · simp [hf]
  · rw [if_neg (by simpa using hf)]
    rcases lt_trichotomy d.unscaled 0 with hu | hu | hu
    · have := (hnonpos hu.le).1
      rw [Int.sign_eq_neg_one_of_neg hu, Int.sign_eq_neg_one_of_neg (by omega)]
    · have h1 := (hnonneg hu.ge).1
      have h2 := (hnonpos hu.le).1
      omega
    · have := (hnonneg hu.le).1
      rw [Int.sign_eq_one_of_pos hu, Int.sign_eq_one_of_pos (by omega)]

/-- The order of an integer and a decimal is exact. -/
lemma mixedOrder_eq_compare (n : ℤ) (d : Decimal) :
    mixedOrder n d = compare (n : ℚ) d.toRat := by
  refine eq_compare_of_iff ?_ ?_
  · rw [d.intCast_lt_toRat, mixedOrder, fracSign_eq]
    rcases lt_trichotomy n d.intPart with h | h | h
    · rw [if_neg h.ne, compare_lt_iff_lt]
      simp [h, lt_unscaled_of_lt_intPart h]
    · have heq := (unscaled_cases d).1
      rw [if_pos h, compare_lt_iff_lt, Int.sign_pos_iff, h]
      omega
    · have hlt := unscaled_lt_of_intPart_lt h
      rw [if_neg h.ne', compare_lt_iff_lt]
      omega
  · rw [d.toRat_lt_intCast, mixedOrder, fracSign_eq]
    rcases lt_trichotomy n d.intPart with h | h | h
    · have hlt := lt_unscaled_of_lt_intPart h
      rw [if_neg h.ne, compare_gt_iff_gt]
      omega
    · have heq := (unscaled_cases d).1
      rw [if_pos h, compare_gt_iff_gt, Int.sign_neg_iff, h]
      omega
    · rw [if_neg h.ne', compare_gt_iff_gt]
      simp [h, unscaled_lt_of_intPart_lt h]

/-! ### The order of numbers -/

/-- The number that a bound denotes. -/
def toRat : Number → ℚ
  | integer n => n
  | decimal d => d.toRat

/-- Two numbers whose order does not go through approximations: they are not
two decimals of different scales. -/
def Comparable : Number → Number → Prop
  | decimal a, decimal b => a.scale = b.scale
  | _, _ => True

/-- The order of comparable numbers is exact. -/
theorem order_eq_compare {a b : Number} (h : Comparable a b) :
    a.order b = compare a.toRat b.toRat := by
  cases a with
  | integer m =>
      cases b with
      | integer n =>
          refine eq_compare_of_iff ?_ ?_
          · rw [order, compare_lt_iff_lt, toRat, toRat, Int.cast_lt]
          · rw [order, compare_gt_iff_gt, toRat, toRat, Int.cast_lt]
      | decimal e => exact mixedOrder_eq_compare m e
  | decimal d =>
      cases b with
      | integer n =>
          rw [order, mixedOrder_eq_compare]
          refine eq_compare_of_iff ?_ ?_
          · rw [Ordering.swap_eq_lt, compare_gt_iff_gt, toRat, toRat]
          · rw [Ordering.swap_eq_gt, compare_lt_iff_lt, toRat, toRat]
      | decimal e => exact Decimal.order_eq_compare h

lemma le_iff {a b : Number} (h : Comparable a b) : a.le b = true ↔ a.toRat ≤ b.toRat := by
  rw [le, order_eq_compare h, bne_iff_ne, compare_le_iff_le]

lemma order_eq_lt_iff {a b : Number} (h : Comparable a b) :
    a.order b = .lt ↔ a.toRat < b.toRat := by
  rw [order_eq_compare h, compare_lt_iff_lt]

/-- The form of a number: an integer, or a decimal with some fraction digits. -/
inductive Form where
  | integer
  | decimal (scale : ℕ)
deriving DecidableEq

/-- The form of a number. -/
def form : Number → Form
  | integer _ => .integer
  | decimal d => .decimal d.scale

/-- A number is of a scale if it is an integer or a decimal of that scale. -/
def OfScale (s : ℕ) (n : Number) : Prop := n.form = .integer ∨ n.form = .decimal s

/-- Numbers of one scale are comparable. -/
lemma OfScale.comparable {s : ℕ} {a b : Number} (ha : a.OfScale s) (hb : b.OfScale s) :
    Comparable a b := by
  cases a with
  | integer m => trivial
  | decimal d =>
      cases b with
      | integer n => trivial
      | decimal e =>
          simp only [OfScale, form, reduceCtorEq, Form.decimal.injEq, false_or] at ha hb
          exact ha.trans hb.symm

/-- A scale to which the numbers of a form belong. -/
def Form.scale : Form → ℕ
  | integer => 0
  | decimal s => s

lemma ofScale_form (n : Number) : n.OfScale n.form.scale := by
  cases n with
  | integer m => exact .inl rfl
  | decimal d => exact .inr rfl

end Number

/-! ### Intervals as sets of numbers -/

namespace Interval

/-- Both ends of an interval are of a scale. -/
def OfScale (s : ℕ) (i : Interval) : Prop := i.low.OfScale s ∧ i.high.OfScale s

/-- Both ends of an interval have a form. -/
def HasForm (φ : Number.Form) (i : Interval) : Prop := i.low.form = φ ∧ i.high.form = φ

/-- An interval of integers is of every scale. -/
lemma HasForm.ofScale_integer {i : Interval} (h : i.HasForm .integer) (s : ℕ) : i.OfScale s :=
  ⟨.inl h.1, .inl h.2⟩

lemma HasForm.ofScale {i : Interval} {φ : Number.Form} (h : i.HasForm φ) : i.OfScale φ.scale :=
  ⟨h.1 ▸ i.low.ofScale_form, h.2 ▸ i.high.ofScale_form⟩

variable {s : ℕ} {a b : Interval} {n : Number}

lemma contains_iff (ha : a.OfScale s) (hn : n.OfScale s) :
    a.contains n = true ↔ a.low.toRat ≤ n.toRat ∧ n.toRat ≤ a.high.toRat := by
  rw [contains, Bool.and_eq_true, Number.le_iff (ha.1.comparable hn),
    Number.le_iff (hn.comparable ha.2)]

lemma encloses_iff (ha : a.OfScale s) (hb : b.OfScale s) :
    a.encloses b = true ↔ a.low.toRat ≤ b.low.toRat ∧ b.high.toRat ≤ a.high.toRat := by
  rw [encloses, Bool.and_eq_true, Number.le_iff (ha.1.comparable hb.1),
    Number.le_iff (hb.2.comparable ha.2)]

lemma overlaps_iff (ha : a.OfScale s) (hb : b.OfScale s) :
    a.overlaps b = true ↔ a.low.toRat ≤ b.high.toRat ∧ b.low.toRat ≤ a.high.toRat := by
  rw [overlaps, Bool.and_eq_true, Number.le_iff (ha.1.comparable hb.2),
    Number.le_iff (hb.1.comparable ha.2)]

/-- An interval contains what an interval within it contains. -/
lemma contains_of_encloses (ha : a.OfScale s) (hb : b.OfScale s) (hn : n.OfScale s)
    (h : a.encloses b = true) (hbn : b.contains n = true) : a.contains n = true := by
  rw [encloses_iff ha hb] at h
  rw [contains_iff hb hn] at hbn
  rw [contains_iff ha hn]
  exact ⟨h.1.trans hbn.1, hbn.2.trans h.2⟩

end Interval

end YangTypes
