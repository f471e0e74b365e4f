import Mathlib.Tactic
import YangTypes.Proofs.Bound.Order
import YangTypes.Proofs.Outcome

/-!
Decimals and integers.

* `fits_mul_iff`: the integers whose product with ten to the scale fits 64 bits
  are those between two quotients. Quotients go toward zero, so at the lower end
  this is the mirror image of the upper end and not the quotient rounded down.
* `ofInteger_eq_ok`, `toInteger_eq_ok`: both conversions are said by the number
  that a decimal denotes, so each is the inverse of the other.
* `integer_conversions_exact`: when conversions succeed, and how they fail.
-/

namespace YangTypes.Decimal

variable {d : Decimal} {s bits : ℕ} {n : ℤ}

/-! ### The integers of a scale -/

lemma mul_le_iff_le_tdiv {k m : ℤ} (hk : 0 < k) (hm : 0 ≤ m) : n * k ≤ m ↔ n ≤ m.tdiv k := by
  rw [Int.tdiv_eq_ediv_of_nonneg hm, Int.le_ediv_iff_mul_le hk]

lemma neg_le_mul_iff_tdiv_le {k m : ℤ} (hk : 0 < k) (hm : 0 ≤ m) :
    -m ≤ n * k ↔ (-m).tdiv k ≤ n := by
  rw [neg_le, ← neg_mul, mul_le_iff_le_tdiv hk hm, Int.neg_tdiv, neg_le]

/-- The integers that fit a scale. -/
lemma fits_mul_iff : FitsSigned 64 (n * tenPow s) ↔
    minUnscaled.tdiv (tenPow s) ≤ n ∧ n ≤ maxUnscaled.tdiv (tenPow s) := by
  have hpos : (0 : ℤ) < tenPow s := by exact_mod_cast tenPow_pos s
  have hlow : minUnscaled = -(2 ^ 63) := by rw [minUnscaled]; norm_num
  have hhigh : maxUnscaled = 2 ^ 63 - 1 := by rw [maxUnscaled]; norm_num
  have hfits : FitsSigned 64 (n * tenPow s) ↔
      -(2 ^ 63) ≤ n * tenPow s ∧ n * tenPow s ≤ 2 ^ 63 - 1 := by
    rw [Int.le_sub_one_iff]
    exact Iff.rfl
  rw [hfits, hlow, hhigh, neg_le_mul_iff_tdiv_le hpos (by norm_num),
    mul_le_iff_le_tdiv hpos (by norm_num)]

/-! ### Both conversions -/

/-- A decimal is made of an integer if it has the scale and denotes the integer. -/
lemma ofInteger_eq_ok : ofInteger s n = .ok d ↔ d.scale = s ∧ d.toRat = n := by
  rw [toRat_eq_intCast, divisor, ofInteger]
  constructor
  · intro h
    split at h
    next =>
      split at h
      next =>
        obtain rfl := Except.ok.inj h
        exact ⟨rfl, rfl⟩
      next => simp at h
    next => simp at h
  · rintro ⟨rfl, hunscaled⟩
    have hfits := d.unscaled_fits
    rw [hunscaled] at hfits
    rw [dif_pos d.scale_valid, dif_pos hfits]
    obtain ⟨scale, unscaled, _, _⟩ := d
    obtain rfl : unscaled = n * tenPow scale := hunscaled
    rfl

/-- An integer that does not fit the scale is reported with those that do. -/
lemma ofInteger_eq_error (hs : ValidScale s) {e : ValueError} : ofInteger s n = .error e ↔
    ¬ FitsSigned 64 (n * tenPow s) ∧
      e = .outOfRange n (minUnscaled.tdiv (tenPow s)) (maxUnscaled.tdiv (tenPow s)) := by
  rw [ofInteger, dif_pos hs]
  split
  next hfits => simp [hfits]
  next hfits => simp [hfits, eq_comm]

lemma exists_ofInteger (hs : ValidScale s) :
    (∃ d, ofInteger s n = .ok d) ↔ FitsSigned 64 (n * tenPow s) := by
  rw [ofInteger, dif_pos hs]
  split
  next hfits => simp [hfits]
  next hfits => simp [hfits]

/-- A decimal is converted to the integer that it denotes. -/
lemma toInteger_eq_ok : d.toInteger = .ok n ↔ d.toRat = n := by
  rw [toInteger]
  split
  next hfrac => rw [toRat_of_fracPart_eq_zero hfrac, Except.ok.injEq, Int.cast_inj]
  next hfrac =>
    simp only [reduceCtorEq, false_iff]
    exact fun h => hfrac (fracPart_eq_zero_of_toRat_eq h)

lemma toInteger_eq_error {e : ArithmeticError} :
    d.toInteger = .error e ↔ (¬ ∃ n : ℤ, d.toRat = n) ∧ e = .lostFraction d := by
  simp only [← toInteger_eq_ok]
  rw [toInteger]
  split
  next => simp
  next => simp [eq_comm]

/-- An integer that a decimal denotes fits 64 bits, because the unscaled value is
farther from zero. -/
lemma fits_of_toRat_eq (h : d.toRat = n) : FitsSigned 64 n := by
  obtain ⟨hlow, hhigh⟩ := d.unscaled_fits
  rw [toRat_eq_intCast.mp h] at hlow hhigh
  have hone : 1 ≤ d.divisor := d.divisor_pos
  rw [FitsSigned]
  rcases le_total 0 n with hn | hn
  · have hle : n ≤ n * d.divisor := le_mul_of_one_le_right hn hone
    omega
  · have hle : n * d.divisor ≤ n := mul_le_of_one_le_right hn hone
    omega

lemma toSigned_eq_ok : d.toSigned bits = .ok n ↔ d.toRat = n ∧ FitsSigned bits n := by
  rw [toSigned, bind_eq_ok]
  simp only [toInteger_eq_ok]
  constructor
  · rintro ⟨m, hm, h⟩
    split at h
    next hfits =>
      obtain rfl := Except.ok.inj h
      exact ⟨hm, hfits⟩
    next => simp at h
  · rintro ⟨hn, hfits⟩
    exact ⟨n, hn, if_pos hfits⟩

/-- A conversion to fewer bits fails for the fraction, or for the target. -/
lemma toSigned_eq_error {e : ArithmeticError} : d.toSigned bits = .error e ↔
    ((¬ ∃ n : ℤ, d.toRat = n) ∧ e = .lostFraction d) ∨
      ∃ n : ℤ, d.toRat = n ∧ ¬ FitsSigned bits n ∧
        e = .outOfTargetRange n ("i" ++ toString bits) := by
  rw [toSigned, bind_eq_error, toInteger_eq_error]
  simp only [toInteger_eq_ok]
  refine or_congr_right (exists_congr fun n => and_congr_right fun _ => ?_)
  split
  next hfits => simp [hfits]
  next hfits =>
    rw [Except.error.injEq, eq_comm, and_iff_right hfits]
    exact Iff.rfl

/-! ### Exactness -/

lemma least_eq_ok (hs : ValidScale s) :
    least s = .ok ⟨s, minUnscaled, hs, by decide⟩ := dif_pos hs

lemma greatest_eq_ok (hs : ValidScale s) :
    greatest s = .ok ⟨s, maxUnscaled, hs, by decide⟩ := dif_pos hs

/-- **Integer conversions are exact inverses.** An integer is converted to a scale
exactly if it lies between the integer parts of the least and of the greatest
decimal of the scale, which the error shows, and it is found again. A decimal is
converted to an integer exactly if it is what the integer is converted to at its
scale, that is, if it denotes the integer; if it denotes none, its fraction would
be lost. Conversions to fewer bits succeed exactly if the integer fits them, and
name the integer and the target if it does not. -/
theorem integer_conversions_exact :
    (∀ s, ValidScale s → ∃ low high : Decimal, least s = .ok low ∧ greatest s = .ok high ∧
      ∀ n, FitsSigned 64 n →
        ((∃ d, ofInteger s n = .ok d) ↔ low.intPart ≤ n ∧ n ≤ high.intPart) ∧
        (∀ d, ofInteger s n = .ok d → d.toInteger = .ok n) ∧
        ∀ e, ofInteger s n = .error e → e = .outOfRange n low.intPart high.intPart) ∧
    ∀ d : Decimal,
      (∀ n : ℤ, [d.toInteger = .ok n, FitsSigned 64 n ∧ ofInteger d.scale n = .ok d,
        d.toRat = n].TFAE) ∧
      (∀ e, d.toInteger = .error e ↔ (¬ ∃ n : ℤ, d.toRat = n) ∧ e = .lostFraction d) ∧
      ∀ bits : ℕ,
        (∀ n : ℤ, d.toSigned bits = .ok n ↔ d.toRat = n ∧ FitsSigned bits n) ∧
        ∀ (n : ℤ) (target : String), d.toSigned bits = .error (.outOfTargetRange n target) ↔
          d.toRat = n ∧ ¬ FitsSigned bits n ∧ target = "i" ++ toString bits := by
  constructor
  · intro s hs
    refine ⟨_, _, least_eq_ok hs, greatest_eq_ok hs, fun n _ => ⟨?_, fun d hd => ?_,
      fun e he => ?_⟩⟩
    · rw [exists_ofInteger hs, fits_mul_iff]
      exact Iff.rfl
    · exact toInteger_eq_ok.mpr (ofInteger_eq_ok.mp hd).2
    · exact ((ofInteger_eq_error hs).mp he).2
  · intro d
    refine ⟨fun n => ?_, fun e => toInteger_eq_error, fun bits => ⟨fun n => toSigned_eq_ok,
      fun n target => ?_⟩⟩
    · tfae_have 1 ↔ 3 := toInteger_eq_ok
      tfae_have 2 → 3 := fun h => (ofInteger_eq_ok.mp h.2).2
      tfae_have 3 → 2 := fun h => ⟨fits_of_toRat_eq h, ofInteger_eq_ok.mpr ⟨rfl, h⟩⟩
      tfae_finish
    · rw [toSigned_eq_error]
      constructor
      · rintro (⟨-, h⟩ | ⟨m, hm, hfits, h⟩)
        · simp at h
        · obtain ⟨rfl, rfl⟩ := ArithmeticError.outOfTargetRange.inj h
          exact ⟨hm, hfits, rfl⟩
      · rintro ⟨hn, hfits, rfl⟩
        exact .inr ⟨n, hn, hfits, rfl⟩

/-- At the largest scale the integers from -9 to 9 are left. -/
theorem integer_conversions_exact_largest_scale :
    ValidScale 18 ∧ FitsSigned 64 (-9) ∧ FitsSigned 64 10 ∧
      (∃ d, ofInteger 18 (-9) = .ok d ∧ d.toInteger = .ok (-9)) ∧
      ¬ ∃ d, ofInteger 18 10 = .ok d := by
  have hnine : FitsSigned 64 (-9) := by decide
  have hten : FitsSigned 64 10 := by decide
  obtain ⟨low, high, hlow, hhigh, h⟩ := integer_conversions_exact.1 18 (by decide)
  obtain rfl := Except.ok.inj ((least_eq_ok (by decide)).symm.trans hlow)
  obtain rfl := Except.ok.inj ((greatest_eq_ok (by decide)).symm.trans hhigh)
  obtain ⟨d, hd⟩ := (h (-9) hnine).1.mpr (by decide)
  exact ⟨by decide, hnine, hten, ⟨d, hd, (h (-9) hnine).2.1 d hd⟩,
    fun hok => absurd ((h 10 hten).1.mp hok) (by decide)⟩

end YangTypes.Decimal
