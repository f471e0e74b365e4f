import Mathlib.Tactic
import YangTypes.Proofs.Decimal.Writing

/-!
One notion of equality for decimals.

* `key_eq_iff`: integer part and fraction at the largest scale are the quotient
  and the remainder of the unscaled value at that scale (`widened`), so they
  determine the number and depend on nothing else.
* `orderThrough`: the order of decimals with any comparison in the place of that
  of approximations. It is equality exactly where the numbers are equal
  (`orderThrough_eq_eq_iff`) and swaps with its arguments if that comparison
  does (`orderThrough_swap`); across scales nothing else is said of it.
* `equality_notions_tfae`: equality, number, text, key and order agree.
-/

namespace YangTypes

namespace Decimal

variable {a b : Decimal}

/-! ### The key of a number -/

/-- The unscaled value at the largest scale. -/
def widened (d : Decimal) : ℤ := d.unscaled * tenPow (maxScale - d.scale)

lemma divisor_mul_tenPow (d : Decimal) :
    d.divisor * tenPow (maxScale - d.scale) = tenPow maxScale := by
  rw [divisor, ← Nat.cast_mul, ← tenPow_add, Nat.add_sub_cancel' d.scale_valid.2]

lemma toRat_eq_widened (d : Decimal) : d.toRat = d.widened / tenPow maxScale := by
  have hpos : (0 : ℚ) < tenPow (maxScale - d.scale) := by exact_mod_cast tenPow_pos _
  have hdivisor : ((tenPow maxScale : ℕ) : ℚ) = d.divisor * tenPow (maxScale - d.scale) := by
    exact_mod_cast d.divisor_mul_tenPow.symm
  rw [toRat_eq_div, widened, hdivisor, Int.cast_mul, Int.cast_natCast,
    mul_div_mul_right _ _ hpos.ne']

/-- The key is the quotient and the remainder of the widened value. -/
lemma key_eq_widened (d : Decimal) :
    d.key = (d.widened.tdiv (tenPow maxScale), d.widened.tmod (tenPow maxScale)) := by
  have hpos : (0 : ℤ) < tenPow (maxScale - d.scale) := by exact_mod_cast tenPow_pos _
  rw [key, intPart, normalizedFrac, signedFrac, widened, ← d.divisor_mul_tenPow,
    mul_comm d.unscaled, mul_comm d.divisor, Int.mul_tdiv_mul_of_pos _ _ hpos,
    Int.mul_tmod_mul_of_pos _ _ hpos, mul_comm (d.unscaled.tmod _)]

/-- **Decimals have one key if they denote one number.** -/
lemma key_eq_iff : a.key = b.key ↔ a.toRat = b.toRat := by
  have hpos : (0 : ℚ) < tenPow maxScale := by exact_mod_cast tenPow_pos _
  have hwidened : a.toRat = b.toRat ↔ a.widened = b.widened := by
    rw [toRat_eq_widened, toRat_eq_widened, div_left_inj' hpos.ne', Int.cast_inj]
  rw [hwidened, key_eq_widened, key_eq_widened, Prod.mk.injEq]
  constructor
  · rintro ⟨hquotient, hremainder⟩
    rw [← Int.tdiv_mul_add_tmod a.widened (tenPow maxScale), hquotient, hremainder,
      Int.tdiv_mul_add_tmod]
  · intro h
    rw [h]
    exact ⟨rfl, rfl⟩

/-- At one scale decimals denote one number if their unscaled values agree. -/
lemma unscaled_eq_iff (h : a.scale = b.scale) : a.unscaled = b.unscaled ↔ a.toRat = b.toRat := by
  have hpos : (0 : ℚ) < 10 ^ b.scale := by positivity
  rw [toRat, toRat, h, div_left_inj' hpos.ne', Int.cast_inj]

lemma numEq_iff : a.numEq b = true ↔ a.toRat = b.toRat := by
  rw [numEq]
  split
  next hscale => rw [beq_iff_eq, unscaled_eq_iff hscale]
  next => rw [beq_iff_eq, key_eq_iff]

/-! ### The order -/

lemma keyOrder_eq_eq_iff : a.keyOrder b = .eq ↔ a.toRat = b.toRat := by
  rw [keyOrder, Ordering.then_eq_eq, compare_eq_iff_eq, compare_eq_iff_eq, ← key_eq_iff, key, key,
    Prod.mk.injEq]

lemma keyOrder_swap (a b : Decimal) : b.keyOrder a = (a.keyOrder b).swap := by
  rw [keyOrder, keyOrder, Ordering.swap_then, ← Std.OrientedOrd.eq_swap, ← Std.OrientedOrd.eq_swap]

/-- The order of decimals with some comparison in the place of that of
approximations. -/
def orderThrough (rough : Decimal → Decimal → Ordering) (a b : Decimal) : Ordering :=
  if a.scale = b.scale then compare a.unscaled b.unscaled
  else if a.numEq b then .eq
  else (rough a b).then (keyOrder a b)

lemma order_eq_orderThrough :
    order = orderThrough fun a b => a.approx.order b.approx := rfl

end Decimal

/-- The order of approximations swaps with its arguments. -/
lemma Binary64.order_swap (x y : Binary64) : y.order x = (x.order y).swap := by
  rw [order, order, min_comm]
  exact Std.OrientedOrd.eq_swap

namespace Decimal

variable {a b : Decimal} {rough : Decimal → Decimal → Ordering}

/-- No comparison makes decimals equal that denote different numbers: where it
does not decide, the keys do. -/
lemma orderThrough_eq_eq_iff : orderThrough rough a b = .eq ↔ a.toRat = b.toRat := by
  rw [orderThrough]
  split
  next hscale => rw [compare_eq_iff_eq, unscaled_eq_iff hscale]
  next =>
    split
    next heq => simp [numEq_iff.mp heq]
    next hne =>
      rw [numEq_iff] at hne
      simp [Ordering.then_eq_eq, keyOrder_eq_eq_iff, hne]

/-- The order swaps with its arguments if the comparison does. -/
lemma orderThrough_swap (h : ∀ x y, rough y x = (rough x y).swap) (a b : Decimal) :
    orderThrough rough b a = (orderThrough rough a b).swap := by
  have hnum : (b.numEq a = true) = (a.numEq b = true) := by
    rw [eq_iff_iff, numEq_iff, numEq_iff, eq_comm]
  by_cases hscale : a.scale = b.scale
  · rw [orderThrough, orderThrough, if_pos hscale, if_pos hscale.symm]
    exact Std.OrientedOrd.eq_swap
  · rw [orderThrough, orderThrough, if_neg hscale, if_neg (Ne.symm hscale)]
    simp only [hnum]
    split
    next => rfl
    next => rw [Ordering.swap_then, ← h, ← keyOrder_swap]

/-- At one scale the order is exact. -/
lemma orderThrough_eq_compare (h : a.scale = b.scale) :
    orderThrough rough a b = compare a.toRat b.toRat := by
  rw [← order_eq_compare h, order, orderThrough, if_pos h, if_pos h]

/-- **One notion of equality.** Two decimals are equal if and only if they denote
the same number, have the same canonical form, have the same key, and neither is
above the other; and the order swaps with its arguments and is exact at one
scale. Of the comparison across scales this takes only that it swaps with its
arguments: the same holds with any such comparison in its place. -/
theorem equality_notions_tfae (a b : Decimal) :
    [a.numEq b = true, a.toRat = b.toRat, a.canonical = b.canonical, a.key = b.key,
      a.order b = .eq].TFAE ∧
    b.order a = (a.order b).swap ∧
    (a.scale = b.scale → a.order b = compare a.toRat b.toRat) ∧
    ∀ rough : Decimal → Decimal → Ordering, (∀ x y, rough y x = (rough x y).swap) →
      (orderThrough rough a b = .eq ↔ a.toRat = b.toRat) ∧
      orderThrough rough b a = (orderThrough rough a b).swap ∧
      (a.scale = b.scale → orderThrough rough a b = compare a.toRat b.toRat) := by
  have hrough : ∀ x y : Decimal, y.approx.order x.approx = (x.approx.order y.approx).swap :=
    fun x y => Binary64.order_swap x.approx y.approx
  refine ⟨?_, ?_, order_eq_compare, fun rough h => ⟨orderThrough_eq_eq_iff,
    orderThrough_swap h a b, orderThrough_eq_compare⟩⟩
  · tfae_have 1 ↔ 2 := numEq_iff
    tfae_have 3 ↔ 2 := canonical_eq_iff
    tfae_have 4 ↔ 2 := key_eq_iff
    tfae_have 5 ↔ 2 := by
      rw [order_eq_orderThrough]
      exact orderThrough_eq_eq_iff
    tfae_finish
  · rw [order_eq_orderThrough]
    exact orderThrough_swap hrough a b

/-- One number at the least and at the largest scale, and another one at the
least scale. -/
theorem equality_notions_tfae_minus_one_and_a_half :
    let a : Decimal := ⟨1, -15, by decide, by decide⟩
    let b : Decimal := ⟨18, -1500000000000000000, by decide, by decide⟩
    let c : Decimal := ⟨1, 7, by decide, by decide⟩
    let rough := fun x y : Decimal => x.approx.order y.approx
    a.scale = c.scale ∧ (∀ x y, rough y x = (rough x y).swap) ∧ a.toRat = b.toRat ∧
      a.canonical = b.canonical ∧ a.order b = .eq ∧ a.order c = compare a.toRat c.toRat ∧
      orderThrough rough a b = .eq ∧ orderThrough rough a c = compare a.toRat c.toRat := by
  intro a b c rough
  have hrough : ∀ x y, rough y x = (rough x y).swap := fun x y => Binary64.order_swap _ _
  have hvalue : a.toRat = b.toRat := by norm_num [toRat, a, b]
  obtain ⟨htfae, -, -, hab⟩ := equality_notions_tfae a b
  obtain ⟨-, -, hexact, hac⟩ := equality_notions_tfae a c
  exact ⟨rfl, hrough, hvalue, (htfae.out 1 2).mp hvalue, (htfae.out 1 4).mp hvalue, hexact rfl,
    (hab rough hrough).1.mpr hvalue, (hac rough hrough).2.2 rfl⟩

end Decimal

end YangTypes
