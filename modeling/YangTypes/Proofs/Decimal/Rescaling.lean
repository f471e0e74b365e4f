import Mathlib.Tactic
import YangTypes.Decimal.Rounding
import YangTypes.Proofs.Bound.Value

/-!
Rescaling a decimal without losing a digit.

* `rescaled_of_exact`: if the number has a form with the requested scale,
  rescaling finds it, whatever the rounding mode is.
* `scaleTo_unnecessary_eq_ok`: rescaling without rounding gives the decimal of
  the requested scale that denotes the same number, and fails if there is none.
-/

namespace YangTypes.Decimal

variable {d e : Decimal} {scale : ℕ} {mode : RoundingMode} {u : ℤ}

/-- A number that can be written with the requested scale is written so. -/
lemma rescaled_of_exact (h : (u : ℚ) / 10 ^ scale = d.toRat) : d.rescaled scale mode = .ok u := by
  rw [toRat] at h
  rw [rescaled]
  split
  next hle =>
    obtain ⟨k, rfl⟩ := Nat.exists_eq_add_of_le hle
    rw [unscaled_eq_mul_pow h.symm, Nat.add_sub_cancel_left, tenPow_eq]
    push_cast
    rfl
  next hlt =>
    obtain ⟨k, hk⟩ := Nat.exists_eq_add_of_le (Nat.le_of_not_le hlt)
    rw [hk] at h
    have hpow : (tenPow k : ℤ) ≠ 0 := by exact_mod_cast (tenPow_pos k).ne'
    have hunscaled : d.unscaled = u * tenPow k := by
      rw [unscaled_eq_mul_pow h, tenPow_eq]
      push_cast
      rfl
    rw [narrow, hk, Nat.add_sub_cancel_left, hunscaled]
    simp only [Int.mul_tmod_left, if_true, Int.mul_tdiv_cancel _ hpow]

/-- Without rounding a number is only written with more or with fewer zeros. -/
lemma exact_of_rescaled (h : d.rescaled scale .unnecessary = .ok u) :
    (u : ℚ) / 10 ^ scale = d.toRat := by
  rw [toRat]
  rw [rescaled] at h
  split at h
  next hle =>
    obtain ⟨k, rfl⟩ := Nat.exists_eq_add_of_le hle
    rw [Nat.add_sub_cancel_left, Except.ok.injEq] at h
    rw [← h, pow_add]
    push_cast
    rw [cast_tenPow, mul_div_mul_right _ _ (by positivity)]
  next hlt =>
    obtain ⟨k, hk⟩ := Nat.exists_eq_add_of_le (Nat.le_of_not_le hlt)
    rw [narrow, hk, Nat.add_sub_cancel_left] at h
    split at h
    next hexact =>
      have hunscaled : d.unscaled = u * tenPow k := by
        rw [← Except.ok.inj h, Int.tdiv_mul_cancel_of_tmod_eq_zero hexact]
      rw [hunscaled, hk, pow_add]
      push_cast
      rw [cast_tenPow, mul_div_mul_right _ _ (by positivity)]
    next => simp [roundsAway?] at h

/-- A decimal is rescaled if its rescaled value fits. -/
lemma scaleTo_eq_ok :
    d.scaleTo scale mode = .ok e ↔ e.scale = scale ∧ d.rescaled scale mode = .ok e.unscaled := by
  rw [scaleTo]
  constructor
  · intro h
    split at h
    next =>
      split at h
      next => simp at h
      next u hu =>
        split at h
        next =>
          obtain rfl := Except.ok.inj h
          exact ⟨rfl, hu⟩
        next => simp at h
    next => simp at h
  · rintro ⟨rfl, hu⟩
    rw [dif_pos e.scale_valid, hu]
    simp only [dif_pos e.unscaled_fits]

/-- **Rescaling without rounding is exact.** -/
theorem scaleTo_unnecessary_eq_ok :
    d.scaleTo scale .unnecessary = .ok e ↔ e.scale = scale ∧ e.toRat = d.toRat := by
  rw [scaleTo_eq_ok]
  refine and_congr_right ?_
  rintro rfl
  exact ⟨exact_of_rescaled, rescaled_of_exact⟩

end YangTypes.Decimal
