import Mathlib.Tactic
import YangTypes.Proofs.Bound.Notation
import YangTypes.Proofs.Bound.Sets

/-!
Bounds compare as the numbers that they denote.

* **Equality.** `Number.numEq_iff_toRat`: bounds are equal if and only if they
  denote one number. This holds across scales too, where the order is only an
  approximation.
* **Hashing.** `Number.hashed` are the words that a bound hands to a hasher: one
  word if it denotes an integer, and otherwise the integer part and the fraction.
  Which of the two it is depends on the number and not on its form, so equal
  bounds hand over the same words (`hashed_eq_iff`). `key` packs these words
  (`key_eq_pack`).
* **Order.** `Number.orderOfScale`: on the integers together with the decimals of
  one scale the order is total and transitive.
* **Intervals.** Among these numbers an interval is the set of what it contains:
  `Interval.encloses_iff_forall` and `Interval.overlaps_iff_exists_number`.
-/

namespace YangTypes

namespace Decimal

variable {d : Decimal} {n : ℤ}

/-- A decimal denotes an integer if its unscaled value is a multiple of the unit. -/
lemma toRat_eq_intCast : d.toRat = n ↔ d.unscaled = n * d.divisor := by
  rw [le_antisymm_iff, ← not_lt, ← not_lt, d.intCast_lt_toRat, d.toRat_lt_intCast]
  omega

lemma fracPart_eq_zero_of_toRat_eq (h : d.toRat = n) : d.fracPart = 0 := by
  rw [toRat_eq_intCast] at h
  rw [fracPart, signedFrac, h, Int.mul_tmod_left, Int.natAbs_zero]

/-- A decimal without a fraction is its integer part. -/
lemma toRat_of_fracPart_eq_zero (h : d.fracPart = 0) : d.toRat = d.intPart := by
  rw [fracPart, Int.natAbs_eq_zero] at h
  rw [toRat_eq_intCast, (Number.unscaled_cases d).1, h, add_zero]

end Decimal

namespace Number

variable {x y : Number} {s : ℕ}

/-! ### Equality -/

/-- Bounds are equal exactly if they denote the same number. -/
lemma numEq_iff_toRat : x.numEq y = true ↔ x.toRat = y.toRat := by
  cases x with
  | integer m => exact numEq_iff trivial
  | decimal d =>
      cases y with
      | integer n => exact numEq_iff trivial
      | decimal e =>
          -- at two scales the approximations may decide, but never for equality
          rw [numEq, beq_iff_eq, order, Decimal.order_eq_orderThrough]
          exact Decimal.orderThrough_eq_eq_iff

/-! ### Hashing -/

/-- A signed integer with the number of bits in which it is hashed. -/
structure Word where
  bits : ℕ
  value : ℤ

/-- What a bound hands to a hasher. -/
def hashed : Number → List Word
  | integer n => [⟨128, n⟩]
  | decimal d =>
    if d.fracPart = 0 then [⟨128, d.intPart⟩] else [⟨64, d.intPart⟩, ⟨64, d.normalizedFrac⟩]

/-- The bits of words in two's complement, those of the first word lowest. -/
def pack : List Word → ℕ
  | [] => 0
  | w :: ws => key.wrap w.bits w.value + twoPow w.bits * pack ws

/-- The key of a bound packs the words that it hands over. -/
lemma key_eq_pack (x : Number) : x.key = pack x.hashed := by
  cases x with
  | integer n => rfl
  | decimal d =>
      rw [key, hashed]
      split <;> rfl

lemma hashed_of_broken {d : Decimal} (h : d.fracPart ≠ 0) :
    (decimal d).hashed = [⟨64, d.intPart⟩, ⟨64, d.normalizedFrac⟩] := if_neg h

/-- A bound that denotes no integer is a decimal with a fraction. -/
lemma exists_broken (h : ¬ ∃ n : ℤ, x.toRat = n) : ∃ d, x = decimal d ∧ d.fracPart ≠ 0 := by
  cases x with
  | integer m => exact absurd ⟨m, rfl⟩ h
  | decimal d =>
      exact ⟨d, rfl, fun hd => h ⟨d.intPart, Decimal.toRat_of_fracPart_eq_zero hd⟩⟩

/-- A bound has the words of an integer exactly if it denotes the integer. -/
lemma hashed_eq_hashed_integer {n : ℤ} : x.hashed = (integer n).hashed ↔ x.toRat = n := by
  cases x with
  | integer m => simp [hashed, toRat]
  | decimal d =>
      by_cases hd : d.fracPart = 0
      · have hwhole : (decimal d).hashed = (integer d.intPart).hashed := if_pos hd
        rw [hwhole, toRat, Decimal.toRat_of_fracPart_eq_zero hd]
        simp [hashed]
      · rw [hashed_of_broken hd]
        refine ⟨fun h => ?_, fun h => absurd (Decimal.fracPart_eq_zero_of_toRat_eq h) hd⟩
        simp [hashed] at h

/-- **Bounds hand over the same words exactly if they denote the same number**,
be they integers or decimals of any scales. -/
lemma hashed_eq_iff : x.hashed = y.hashed ↔ x.toRat = y.toRat := by
  by_cases hx : ∃ n : ℤ, x.toRat = n
  · obtain ⟨n, hn⟩ := hx
    rw [hashed_eq_hashed_integer.mpr hn, hn, eq_comm, hashed_eq_hashed_integer, eq_comm]
  · by_cases hy : ∃ n : ℤ, y.toRat = n
    · obtain ⟨n, hn⟩ := hy
      rw [hashed_eq_hashed_integer.mpr hn, hn, hashed_eq_hashed_integer]
    · -- without integers both hand over the two parts of a key
      obtain ⟨d, rfl, hd⟩ := exists_broken hx
      obtain ⟨e, rfl, he⟩ := exists_broken hy
      rw [hashed_of_broken hd, hashed_of_broken he, toRat, toRat, ← Decimal.key_eq_iff]
      simp [Decimal.key]

/-! ### The order of one scale -/

/-- The order on the integers and the decimals of one scale. -/
def orderOfScale (s : ℕ) (x y : {n : Number // n.OfScale s}) : Ordering := x.1.order y.1

lemma orderOfScale_eq_compare (x y : {n : Number // n.OfScale s}) :
    orderOfScale s x y = compare x.1.toRat y.1.toRat :=
  order_eq_compare (x.2.comparable y.2)

/-- It is total and transitive, as the order of rationals is. -/
lemma transCmp_orderOfScale (s : ℕ) : Std.TransCmp (orderOfScale s) where
  eq_swap {x y} := by
    rw [orderOfScale_eq_compare, orderOfScale_eq_compare]
    exact Std.OrientedOrd.eq_swap
  isLE_trans {x y z} := by
    rw [orderOfScale_eq_compare, orderOfScale_eq_compare, orderOfScale_eq_compare]
    exact Std.TransOrd.isLE_trans

end Number

/-! ### Intervals of one scale -/

namespace Interval

variable {s : ℕ} {a b : Interval}

/-- An interval in order contains its ends. -/
lemma contains_ends (ha : a.OfScale s) (h : a.low.le a.high = true) :
    a.contains a.low = true ∧ a.contains a.high = true := by
  have hle := (Number.le_iff (ha.1.comparable ha.2)).mp h
  rw [contains_iff ha ha.1, contains_iff ha ha.2]
  exact ⟨⟨le_rfl, hle⟩, hle, le_rfl⟩

/-- Inclusion shows in the numbers of the scale: they include the ends. -/
lemma encloses_iff_forall (ha : a.OfScale s) (hb : b.OfScale s) (h : b.low.le b.high = true) :
    a.encloses b = true ↔
      ∀ n : Number, n.OfScale s → b.contains n = true → a.contains n = true := by
  constructor
  · exact fun hencloses n hn hbn => contains_of_encloses ha hb hn hencloses hbn
  · intro hall
    have hlow := hall b.low hb.1 (contains_ends hb h).1
    have hhigh := hall b.high hb.2 (contains_ends hb h).2
    rw [contains, Bool.and_eq_true] at hlow hhigh
    rw [encloses, Bool.and_eq_true]
    exact ⟨hlow.1, hhigh.2⟩

/-- So does a common number: the higher one of the two lower ends is one. -/
lemma overlaps_iff_exists_number (ha : a.OfScale s) (hb : b.OfScale s)
    (ha' : a.low.le a.high = true) (hb' : b.low.le b.high = true) :
    a.overlaps b = true ↔
      ∃ n : Number, n.OfScale s ∧ a.contains n = true ∧ b.contains n = true := by
  rw [overlaps, Bool.and_eq_true]
  constructor
  · rintro ⟨hab, hba⟩
    rcases le_total a.low.toRat b.low.toRat with hlow | hlow
    · refine ⟨b.low, hb.1, ?_, (contains_ends hb hb').1⟩
      rw [contains, Bool.and_eq_true]
      exact ⟨(Number.le_iff (ha.1.comparable hb.1)).mpr hlow, hba⟩
    · refine ⟨a.low, ha.1, (contains_ends ha ha').1, ?_⟩
      rw [contains, Bool.and_eq_true]
      exact ⟨(Number.le_iff (hb.1.comparable ha.1)).mpr hlow, hab⟩
  · rintro ⟨n, hn, han, hbn⟩
    rw [← Bool.and_eq_true, ← overlaps, overlaps_iff ha hb]
    rw [contains_iff ha hn] at han
    rw [contains_iff hb hn] at hbn
    exact ⟨han.1.trans hbn.2, hbn.1.trans han.2⟩

end Interval

/-- **Bounds compare as numbers.** Two bounds are equal if and only if they denote
one number, and hand over the same words to a hasher if and only if they are
equal; the key that is made of these words agrees then as well. Unless both are
decimals of different scales, their order is that of the numbers. On the integers
together with the decimals of one scale the order is therefore total and
transitive, and of intervals in order `encloses` is inclusion and `overlaps` a
common number, among all rationals and among the numbers of the scale. -/
theorem bounds_compare_as_numbers (x y : Number) (s : ℕ) :
    (x.numEq y = true ↔ x.toRat = y.toRat) ∧
    (x.hashed = y.hashed ↔ x.numEq y = true) ∧
    (x.numEq y = true → x.key = y.key) ∧
    (x.Comparable y → x.order y = compare x.toRat y.toRat) ∧
    Std.TransCmp (Number.orderOfScale s) ∧
    ∀ a b : Interval, a.OfScale s → b.OfScale s →
      a.low.le a.high = true → b.low.le b.high = true →
      ((a.encloses b = true ↔ b.numbers ⊆ a.numbers) ∧
        (a.encloses b = true ↔
          ∀ n : Number, n.OfScale s → b.contains n = true → a.contains n = true)) ∧
      (a.overlaps b = true ↔ (a.numbers ∩ b.numbers).Nonempty) ∧
      (a.overlaps b = true ↔
        ∃ n : Number, n.OfScale s ∧ a.contains n = true ∧ b.contains n = true) := by
  have hhashed : x.hashed = y.hashed ↔ x.numEq y = true := by
    rw [Number.hashed_eq_iff, Number.numEq_iff_toRat]
  refine ⟨Number.numEq_iff_toRat, hhashed, fun h => ?_, Number.order_eq_compare,
    Number.transCmp_orderOfScale s, fun a b ha hb ha' hb' => ?_⟩
  · rw [Number.key_eq_pack, Number.key_eq_pack, hhashed.mpr h]
  · have hale := (Number.le_iff (ha.1.comparable ha.2)).mp ha'
    have hble := (Number.le_iff (hb.1.comparable hb.2)).mp hb'
    exact ⟨⟨Interval.encloses_iff_subset ha hb hble, Interval.encloses_iff_forall ha hb hb'⟩,
      Interval.overlaps_iff_exists ha hb hale hble,
      Interval.overlaps_iff_exists_number ha hb ha' hb'⟩

/-- An integer and a decimal that denote one number below zero, and two intervals
from an integer to a decimal or the other way around. -/
theorem bounds_compare_as_numbers_below_zero :
    let decimal := fun (n : ℤ) (fits : FitsSigned 64 n) =>
      Number.decimal ⟨2, n, by decide, fits⟩
    let two := Number.integer (-2)
    let two' := decimal (-200) (by decide)
    let outer : Interval := ⟨.integer (-3), decimal 150 (by decide)⟩
    let inner : Interval := ⟨decimal (-250) (by decide), .integer 1⟩
    two.Comparable two' ∧ two.numEq two' = true ∧ two.hashed = two'.hashed ∧ two.key = two'.key ∧
      two.order two' = compare two.toRat two'.toRat ∧
      outer.OfScale 2 ∧ inner.OfScale 2 ∧ outer.low.le outer.high = true ∧
      inner.low.le inner.high = true ∧ inner.numbers ⊆ outer.numbers ∧
      (outer.numbers ∩ inner.numbers).Nonempty := by
  intro decimal two two' outer inner
  have hequal : two.numEq two' = true := by decide
  have houter : outer.OfScale 2 := ⟨.inl rfl, .inr rfl⟩
  have hinner : inner.OfScale 2 := ⟨.inr rfl, .inl rfl⟩
  have houter' : outer.low.le outer.high = true := by decide
  have hinner' : inner.low.le inner.high = true := by decide
  obtain ⟨-, hhashed, hkey, horder, -, hintervals⟩ := bounds_compare_as_numbers two two' 2
  obtain ⟨⟨hencloses, -⟩, hoverlaps, -⟩ := hintervals outer inner houter hinner houter' hinner'
  exact ⟨trivial, hequal, hhashed.mpr hequal, hkey hequal, horder trivial, houter, hinner, houter',
    hinner', hencloses.mp (by decide), hoverlaps.mp (by decide)⟩

end YangTypes
