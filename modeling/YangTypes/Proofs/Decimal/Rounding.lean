import YangTypes.Proofs.Decimal.Prescribed
import YangTypes.Proofs.Decimal.Reading
import YangTypes.Proofs.Decimal.Rescaling

/-!
Rescaling rounds as the mode prescribes.

* `exactAt`: what the unscaled value at a scale would have to be, as a rational.
* `rescaled_eq_ok`: rescaling finds the integer that the mode prescribes for it,
  whether digits are added or dropped, and fails where there is none.
* `narrowing_words_fit`: dropping digits never leaves the 64-bit integers, so it
  is only adding digits that overflows.
* `scaleTo_rounds_correctly`, `rescaling_composes`: the outcome of one rescaling
  and of two.
-/

namespace YangTypes.Decimal

variable {d e : Decimal} {scale : ℕ} {mode : RoundingMode} {n : ℤ}

/-! ### The exact value at a scale -/

/-- The number multiplied by ten to a scale. -/
def exactAt (d : Decimal) (scale : ℕ) : ℚ := d.unscaled * 10 ^ ((scale : ℤ) - d.scale)

lemma exactAt_eq (d : Decimal) (scale : ℕ) : d.exactAt scale = d.toRat * 10 ^ scale := by
  rw [exactAt, toRat, zpow_sub₀ (by norm_num), zpow_natCast, zpow_natCast]
  ring

lemma exactAt_self (d : Decimal) : d.exactAt d.scale = d.unscaled := by
  rw [exactAt, sub_self, zpow_zero, mul_one]

/-- Fewer digits: the value is divided. -/
lemma exactAt_div (d : Decimal) {a b : ℕ} (h : b ≤ a) :
    d.exactAt b = d.exactAt a / (tenPow (a - b) : ℕ) := by
  obtain ⟨k, rfl⟩ := Nat.exists_eq_add_of_le h
  rw [Nat.add_sub_cancel_left, cast_tenPow, exactAt_eq, exactAt_eq, pow_add, ← mul_assoc,
    mul_div_cancel_right₀ _ (by positivity)]

/-- More digits: the value is an integer. -/
lemma exactAt_of_le (h : d.scale ≤ scale) :
    d.exactAt scale = (d.unscaled * tenPow (scale - d.scale) : ℤ) := by
  obtain ⟨k, rfl⟩ := Nat.exists_eq_add_of_le h
  rw [Nat.add_sub_cancel_left, exactAt]
  push_cast
  rw [cast_tenPow, add_sub_cancel_left, zpow_natCast]

/-! ### The prescribed integer -/

/-- Half of a power of ten compares to a remainder as one half to its part. -/
lemma half_le_iff {k : ℕ} (hk : k ≠ 0) (r : ℕ) :
    (((tenPow k : ℤ) / 2).natAbs ≤ r ↔ 1 / 2 ≤ (r : ℚ) / (tenPow k : ℤ)) ∧
      (((tenPow k : ℤ) / 2).natAbs < r ↔ 1 / 2 < (r : ℚ) / (tenPow k : ℤ)) := by
  obtain ⟨half, hhalf⟩ : 2 ∣ tenPow k := Dvd.dvd.trans (by norm_num) (dvd_pow_self 10 hk)
  have hpos : (0 : ℚ) < half := by
    have := tenPow_pos k
    exact_mod_cast (by omega : 0 < half)
  have hnatAbs : ((tenPow k : ℤ) / 2).natAbs = half := by
    rw [hhalf]
    omega
  have hpart : (r : ℚ) / (tenPow k : ℤ) = r / half / 2 := by
    rw [hhalf]
    push_cast
    rw [div_div, mul_comm]
  rw [hnatAbs, hpart, div_le_div_iff_of_pos_right two_pos, div_lt_div_iff_of_pos_right two_pos,
    le_div_iff₀ hpos, lt_div_iff₀ hpos, one_mul, Nat.cast_le, Nat.cast_lt]
  exact ⟨Iff.rfl, Iff.rfl⟩

/-- **Dropping digits rounds as the mode prescribes.** -/
lemma narrow_eq_ok (h : scale < d.scale) :
    d.narrow scale mode = .ok n ↔ mode.Prescribes (d.exactAt scale) n := by
  have hexact : d.exactAt scale = d.unscaled / ((tenPow (d.scale - scale) : ℤ) : ℚ) := by
    rw [exactAt_div d h.le, exactAt_self, Int.cast_natCast]
  have hhalf := half_le_iff (k := d.scale - scale) (by omega)
  have hpos : (0 : ℤ) < tenPow (d.scale - scale) := by exact_mod_cast tenPow_pos _
  rw [hexact, narrow]
  generalize (tenPow (d.scale - scale) : ℤ) = D at hhalf hpos ⊢
  split
  next hzero =>
    have hquotient : (d.unscaled : ℚ) / D = d.unscaled.tdiv D := by
      rw [div_eq_iff (by exact_mod_cast hpos.ne')]
      exact_mod_cast (Int.tdiv_mul_cancel_of_tmod_eq_zero hzero).symm
    rw [hquotient, prescribes_intCast, Except.ok.injEq, eq_comm]
  next hlost =>
    have hbetween := between_tdiv hpos hlost
    obtain ⟨hle, hlt⟩ := hhalf (d.unscaled.tmod D).natAbs
    have hpositive : decide (0 < d.unscaled) = decide (d.unscaled.sign = 1) := by
      rw [decide_eq_decide, Int.sign_eq_one_iff_pos]
    rw [hpositive]
    split
    next hnone => simpa using hbetween.not_prescribes hnone
    next haway =>
      rw [hbetween.prescribes_iff hle hlt haway, Except.ok.injEq, eq_comm, if_pos rfl]
    next hstays =>
      rw [hbetween.prescribes_iff hle hlt hstays, Except.ok.injEq, eq_comm,
        if_neg Bool.false_ne_true]

/-- **Rescaling finds the prescribed integer.** -/
lemma rescaled_eq_ok :
    d.rescaled scale mode = .ok n ↔ mode.Prescribes (d.exactAt scale) n := by
  rw [rescaled]
  split
  next hle => rw [exactAt_of_le hle, prescribes_intCast, Except.ok.injEq, eq_comm]
  next hlt => exact narrow_eq_ok (not_le.mp hlt)

/-- Rescaling fails only where digits would be lost and none may be. -/
lemma rescaled_eq_error {err : ArithmeticError} (h : d.rescaled scale mode = .error err) :
    mode = .unnecessary ∧ err = .roundingNecessary d scale := by
  rw [rescaled] at h
  split at h
  next => simp at h
  next =>
    rw [narrow] at h
    split at h
    next => simp at h
    next =>
      split at h
      next hnone =>
        refine ⟨?_, (Except.error.inj h).symm⟩
        cases mode with
        | unnecessary => rfl
        | _ => simp [roundsAway?] at hnone
      next => simp at h
      next => simp at h

/-! ### Words of 64 bits -/

/-- **Dropping digits computes with words.** The divisor is at least ten, so the
quotient is far from the ends of the 64-bit integers. -/
lemma narrowing_words_fit (h : scale < d.scale) :
    let divisor : ℤ := tenPow (d.scale - scale)
    ∀ word ∈ [divisor, divisor / 2, d.unscaled.tdiv divisor, d.unscaled.tmod divisor,
      d.unscaled.tdiv divisor + d.unscaled.sign], FitsSigned 64 word := by
  intro divisor
  have hlow : 10 ≤ divisor.natAbs := by
    have hpow : 10 ^ 1 ≤ 10 ^ (d.scale - scale) := Nat.pow_le_pow_right (by norm_num) (by omega)
    exact hpow
  have hhigh : divisor.natAbs ≤ 10 ^ 18 := by
    have hscale : d.scale ≤ 18 := d.scale_valid.2
    have hpow : 10 ^ (d.scale - scale) ≤ 10 ^ 18 := Nat.pow_le_pow_right (by norm_num) (by omega)
    exact hpow
  have hquotient : (d.unscaled.tdiv divisor).natAbs < 10 ^ 18 := by
    rw [Int.natAbs_tdiv]
    refine Nat.div_lt_of_lt_mul (lt_of_lt_of_le d.natAbs_unscaled_lt ?_)
    calc 10 ^ 19 = 10 * 10 ^ 18 := by norm_num
      _ ≤ divisor.natAbs * 10 ^ 18 := Nat.mul_le_mul_right _ hlow
  have hremainder : (d.unscaled.tmod divisor).natAbs < divisor.natAbs := by
    rw [Int.natAbs_tmod]
    exact Nat.mod_lt _ (by omega)
  have hsign : d.unscaled.sign.natAbs ≤ 1 := by
    rw [Int.natAbs_sign]
    split <;> omega
  have htriangle := Int.natAbs_add_le (d.unscaled.tdiv divisor) d.unscaled.sign
  simp only [List.forall_mem_cons]
  exact ⟨fits_of_natAbs_le hhigh, fits_of_natAbs_le (by omega), fits_of_natAbs_le hquotient.le,
    fits_of_natAbs_le (by omega), fits_of_natAbs_le (by omega), nofun⟩

/-- The result of dropping digits fits. -/
lemma fits_of_narrow (h : scale < d.scale) (hn : d.rescaled scale mode = .ok n) :
    FitsSigned 64 n := by
  have hwords := narrowing_words_fit h
  simp only [List.forall_mem_cons] at hwords
  obtain ⟨-, -, hquotient, -, haway, -⟩ := hwords
  rw [rescaled, if_neg (by omega), narrow] at hn
  split at hn
  next => exact Except.ok.inj hn ▸ hquotient
  next =>
    split at hn
    next => simp at hn
    next => exact Except.ok.inj hn ▸ haway
    next => exact Except.ok.inj hn ▸ hquotient

/-- Digits can be dropped wherever rounding is allowed. -/
lemma exists_scaleTo (hscale : 1 ≤ scale) (hle : scale ≤ d.scale) (hmode : mode ≠ .unnecessary) :
    ∃ e, d.scaleTo scale mode = .ok e := by
  have hvalid : ValidScale scale := ⟨hscale, hle.trans d.scale_valid.2⟩
  cases hrescaled : d.rescaled scale mode with
  | error err => exact absurd (rescaled_eq_error hrescaled).1 hmode
  | ok n =>
      have hfits : FitsSigned 64 n := by
        rcases hle.lt_or_eq with hlt | rfl
        · exact fits_of_narrow hlt hrescaled
        · rw [rescaled_eq_ok, exactAt_self, prescribes_intCast] at hrescaled
          exact hrescaled ▸ d.unscaled_fits
      exact ⟨⟨scale, n, hvalid, hfits⟩, scaleTo_eq_ok.mpr ⟨rfl, hrescaled⟩⟩

/-! ### One rescaling -/

/-- A scale is refused if it is out of bounds, and for no other reason. -/
lemma scaleTo_eq_scaleOutOfBounds {s : ℕ} :
    d.scaleTo scale mode = .error (.scaleOutOfBounds s) ↔ s = scale ∧ ¬ ValidScale scale := by
  rw [scaleTo]
  split
  next hvalid =>
    simp only [hvalid, not_true_eq_false, and_false, iff_false]
    split
    next err herr =>
      rw [(rescaled_eq_error herr).2]
      simp
    next =>
      split <;> simp
  next hinvalid => simp [hinvalid, eq_comm]

lemma scaleTo_eq_error (hvalid : ValidScale scale) {err : ArithmeticError}
    (h : d.rescaled scale mode = .error err) : d.scaleTo scale mode = .error err := by
  rw [scaleTo, dif_pos hvalid, h]

lemma scaleTo_eq_overflow (hvalid : ValidScale scale) (hn : d.rescaled scale mode = .ok n)
    (hfits : ¬ FitsSigned 64 n) : d.scaleTo scale mode = .error (.overflow d scale) := by
  rw [scaleTo, dif_pos hvalid, hn]
  exact dif_neg hfits

/-- **Rescaling rounds correctly in all modes.** With `x` the exact number at the
new scale: an integer is kept if it has 64 bits, and any other number becomes the
one integer that the mode prescribes. What is computed on the way has 64 bits. -/
theorem scaleTo_rounds_correctly (d : Decimal) (scale : ℕ) (mode : RoundingMode) :
    let x : ℚ := d.unscaled * 10 ^ ((scale : ℤ) - d.scale)
    (∀ s, d.scaleTo scale mode = .error (.scaleOutOfBounds s) ↔
      s = scale ∧ ¬ (1 ≤ scale ∧ scale ≤ 18)) ∧
    (1 ≤ scale ∧ scale ≤ 18 →
      (∀ n : ℤ, x = n →
        (FitsSigned 64 n →
          ∃ e, d.scaleTo scale mode = .ok e ∧ e.scale = scale ∧ e.unscaled = n) ∧
        (¬ FitsSigned 64 n → d.scaleTo scale mode = .error (.overflow d scale))) ∧
      ((∀ n : ℤ, x ≠ n) →
        (mode = .unnecessary → d.scaleTo scale mode = .error (.roundingNecessary d scale)) ∧
        (mode ≠ .unnecessary → ∃ e, d.scaleTo scale mode = .ok e ∧ e.scale = scale ∧
          ∀ n, mode.Prescribes x n ↔ n = e.unscaled) ∧
        let divisor : ℤ := tenPow (d.scale - scale)
        ∀ word ∈ [divisor, divisor / 2, d.unscaled.tdiv divisor, d.unscaled.tmod divisor,
          d.unscaled.tdiv divisor + d.unscaled.sign], FitsSigned 64 word)) := by
  intro x
  refine ⟨fun s => scaleTo_eq_scaleOutOfBounds, fun hvalid => ⟨fun n hx => ?_, fun hx => ?_⟩⟩
  · have hn : d.rescaled scale mode = .ok n := by
      have hexact : d.exactAt scale = n := hx
      rw [rescaled_eq_ok, hexact, prescribes_intCast]
    exact ⟨fun hfits => ⟨⟨scale, n, hvalid, hfits⟩, scaleTo_eq_ok.mpr ⟨rfl, hn⟩, rfl, rfl⟩,
      scaleTo_eq_overflow hvalid hn⟩
  · have hlt : scale < d.scale := by
      by_contra hle
      exact hx _ (exactAt_of_le (not_lt.mp hle))
    refine ⟨?_, fun hmode => ?_, narrowing_words_fit hlt⟩
    · rintro rfl
      cases hrescaled : d.rescaled scale .unnecessary with
      | ok n => exact absurd (rescaled_eq_ok.mp hrescaled) (hx n)
      | error err =>
          rw [scaleTo_eq_error hvalid hrescaled, (rescaled_eq_error hrescaled).2]
    · obtain ⟨e, he⟩ := exists_scaleTo hvalid.1 hlt.le hmode
      obtain ⟨hscale, hrescaled⟩ := scaleTo_eq_ok.mp he
      refine ⟨e, he, hscale, fun n => ?_⟩
      have hprescribed : mode.Prescribes x n ↔ d.rescaled scale mode = .ok n := rescaled_eq_ok.symm
      rw [hprescribed, hrescaled, Except.ok.injEq, eq_comm]

/-- A half below zero, an overflow at the least 64-bit integer, and a scale that
is out of bounds. -/
theorem scaleTo_rounds_correctly_half_below_zero :
    let d : Decimal := ⟨2, -125, by decide, by decide⟩
    let least : Decimal := ⟨1, -9223372036854775808, by decide, by decide⟩
    (∀ n : ℤ, (d.unscaled : ℚ) * 10 ^ (((1 : ℕ) : ℤ) - d.scale) ≠ n) ∧
      d.scaleTo 1 .halfEven = .ok ⟨1, -12, by decide, by decide⟩ ∧
      RoundingMode.halfEven.Prescribes (-125 / 10) (-12) ∧
      d.scaleTo 1 .unnecessary = .error (.roundingNecessary d 1) ∧
      least.scaleTo 2 .down = .error (.overflow least 2) ∧
      d.scaleTo 19 .down = .error (.scaleOutOfBounds 19) := by
  intro d least
  have hvalue : (d.unscaled : ℚ) * 10 ^ (((1 : ℕ) : ℤ) - d.scale) = -125 / 10 := by
    norm_num [d]
  have hlost : ∀ n : ℤ, (d.unscaled : ℚ) * 10 ^ (((1 : ℕ) : ℤ) - d.scale) ≠ n := by
    intro n hn
    rw [hvalue, div_eq_iff (by norm_num)] at hn
    have hint : (-125 : ℤ) = n * 10 := by exact_mod_cast hn
    omega
  have hresult : d.scaleTo 1 .halfEven = .ok ⟨1, -12, by decide, by decide⟩ := by decide
  obtain ⟨-, htie⟩ := scaleTo_rounds_correctly d 1 .halfEven
  obtain ⟨e, he, -, hprescribed⟩ := ((htie (by decide)).2 hlost).2.1 nofun
  obtain rfl := Except.ok.inj (he.symm.trans hresult)
  obtain ⟨-, hnone⟩ := scaleTo_rounds_correctly d 1 .unnecessary
  obtain ⟨-, hwide⟩ := scaleTo_rounds_correctly least 2 .down
  refine ⟨hlost, hresult, ?_, ((hnone (by decide)).2 hlost).1 rfl, ?_, ?_⟩
  · rw [← hvalue]
    exact (hprescribed _).mpr rfl
  · exact ((hwide (by decide)).1 (-92233720368547758080) (by norm_num [least])).2 (by decide)
  · exact ((scaleTo_rounds_correctly d 19 .down).1 19).mpr (by decide)

/-! ### Two rescalings -/

/-- Adding digits keeps the number. -/
lemma toRat_of_widened (hle : d.scale ≤ e.scale) (h : d.rescaled e.scale mode = .ok e.unscaled) :
    e.toRat = d.toRat := by
  have hunscaled : (e.unscaled : ℚ) = d.exactAt e.scale := by
    rw [rescaled_eq_ok, exactAt_of_le hle, prescribes_intCast] at h
    rw [exactAt_of_le hle, h]
  rw [← exactAt_self, exactAt_eq, exactAt_eq] at hunscaled
  exact mul_right_cancel₀ (by positivity) hunscaled

/-- A stop on the way to fewer digits does not matter to a directed mode. -/
lemma rescaled_of_steps (hmode : mode.Directed) (hle : scale ≤ e.scale)
    (he : d.rescaled e.scale mode = .ok e.unscaled) (hn : e.rescaled scale mode = .ok n) :
    d.rescaled scale mode = .ok n := by
  rw [rescaled_eq_ok] at he hn ⊢
  rw [exactAt_div e hle, exactAt_self] at hn
  rw [exactAt_div d hle]
  exact hmode.prescribes_div (tenPow_pos _) he hn

/-- **Rescaling composes.** Digits that were added can be dropped again, whatever
the modes are, and a directed mode drops digits in two steps as in one. -/
theorem rescaling_composes (d : Decimal) :
    (∀ (scale : ℕ) (m₁ m₂ : RoundingMode) (w : Decimal), d.scale ≤ scale →
      d.scaleTo scale m₁ = .ok w → w.scaleTo d.scale m₂ = .ok d) ∧
    (∀ (a b : ℕ) (mode : RoundingMode), mode.Directed → 1 ≤ b → b ≤ a → a ≤ d.scale →
      ∃ w e, d.scaleTo a mode = .ok w ∧ w.scaleTo b mode = .ok e ∧ d.scaleTo b mode = .ok e) := by
  constructor
  · intro scale m₁ m₂ w hle hw
    obtain ⟨rfl, hwidened⟩ := scaleTo_eq_ok.mp hw
    exact scaleTo_eq_ok.mpr ⟨rfl, rescaled_of_exact (toRat_of_widened hle hwidened).symm⟩
  · intro a b mode hmode hb hba had
    have hrounds : mode ≠ .unnecessary := by
      rintro rfl
      exact absurd hmode (by decide)
    obtain ⟨w, hw⟩ := exists_scaleTo (hb.trans hba) had hrounds
    obtain ⟨rfl, hstop⟩ := scaleTo_eq_ok.mp hw
    obtain ⟨e, he⟩ := exists_scaleTo hb hba hrounds
    obtain ⟨hscale, hend⟩ := scaleTo_eq_ok.mp he
    exact ⟨w, e, hw, he, scaleTo_eq_ok.mpr ⟨hscale, rescaled_of_steps hmode hba hstop hend⟩⟩

/-- Digits that are added and dropped again with other modes, and digits below
zero that are dropped in two steps, where the first one carries. -/
theorem rescaling_composes_below_zero :
    let d : Decimal := ⟨3, -1999, by decide, by decide⟩
    let w : Decimal := ⟨9, -1999000000, by decide, by decide⟩
    d.scaleTo 9 .unnecessary = .ok w ∧ w.scaleTo 3 .halfUp = .ok d ∧
      RoundingMode.Directed .floor ∧
      ∃ a b, d.scaleTo 2 .floor = .ok a ∧ a.scaleTo 1 .floor = .ok b ∧
        d.scaleTo 1 .floor = .ok b := by
  intro d w
  have hwidened : d.scaleTo 9 .unnecessary = .ok w := by decide
  obtain ⟨hback, hsteps⟩ := rescaling_composes d
  exact ⟨hwidened, hback 9 .unnecessary .halfUp w (by decide) hwidened, by decide,
    hsteps 2 1 .floor (by decide) (by decide) (by decide) (by decide)⟩

end YangTypes.Decimal
