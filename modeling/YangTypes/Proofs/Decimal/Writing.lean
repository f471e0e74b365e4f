import Mathlib.Tactic
import YangTypes.Proofs.Decimal.Reading

/-!
The text of a decimal is the text of its number.

* `decimalLiteral_canonical`: the canonical form denotes the number.
* `canonical_eq_iff`: it depends on the number alone, not on the zeros at the
  end of the unscaled value. The fraction is written with as many digits as the
  scale says (`padded`), and zeros at its end are dropped; digits of one length
  are determined by their number, so nothing has to be said about how they were
  found.
* `Shortest.scale_le`: a shortest form has the least scale.
-/

namespace YangTypes.Decimal

open Text

/-! ### The digits of a fraction -/

/-- A fraction with all of its digits, the zeros at its end included. -/
def padded (scale frac : ℕ) : List Char := (Nat.toDigits 10 frac).leftpad scale '0'

lemma padded_eq (scale frac : ℕ) :
    padded scale frac =
      List.replicate (scale - (Nat.toDigits 10 frac).length) '0' ++ Nat.toDigits 10 frac := rfl

/-- A fraction below one has as many digits as the scale says. -/
lemma length_padded {scale frac : ℕ} (hscale : 1 ≤ scale) (hfrac : frac < 10 ^ scale) :
    (padded scale frac).length = scale := by
  have hlength := (Nat.length_toDigits_le_iff (by norm_num) hscale).mpr hfrac
  rw [padded_eq, List.length_append, List.length_replicate]
  omega

lemma isDigits_padded (scale frac : ℕ) : IsDigits (padded scale frac) := by
  obtain ⟨hne, hdigits⟩ := isDigits_toDigits frac
  rw [padded_eq]
  exact ⟨by simp [hne], List.forall_mem_append.mpr ⟨fun _ => isDigit_of_mem_zeros, hdigits⟩⟩

@[simp]
lemma digitsNat_padded (scale frac : ℕ) : digitsNat (padded scale frac) = frac := by
  rw [padded_eq, digitsNat_append, digitsNat_replicate_zero, digitsNat_toDigits, zero_mul, zero_add]

/-- More digits of a fraction are zeros at its end. -/
lemma padded_add {scale frac : ℕ} (hscale : 1 ≤ scale) (hfrac : frac < 10 ^ scale) (k : ℕ) :
    padded (scale + k) (frac * 10 ^ k) = padded scale frac ++ List.replicate k '0' := by
  have hlt : frac * 10 ^ k < 10 ^ (scale + k) := by
    rw [pow_add]
    exact Nat.mul_lt_mul_of_pos_right hfrac (by positivity)
  refine eq_of_digitsNat_eq (isDigits_padded _ _).2 ?_ ?_ ?_
  · exact List.forall_mem_append.mpr ⟨(isDigits_padded _ _).2, fun _ => isDigit_of_mem_zeros⟩
  · rw [length_padded (by omega) hlt, List.length_append, List.length_replicate,
      length_padded hscale hfrac]
  · rw [digitsNat_append, digitsNat_replicate_zero, digitsNat_padded, digitsNat_padded,
      List.length_replicate, add_zero]

/-- The first of some digits is dropped if it is a zero and nothing is left of
the others. -/
lemma dropTrailingZeros_cons (c : Char) (cs : List Char) :
    dropTrailingZeros (c :: cs) =
      if c = '0' ∧ dropTrailingZeros cs = [] then [] else c :: dropTrailingZeros cs := by
  have hempty : (cs.reverse.dropWhile (· == '0')).isEmpty = true ↔ dropTrailingZeros cs = [] := by
    rw [List.isEmpty_iff, dropTrailingZeros, List.reverse_eq_nil_iff]
  rw [dropTrailingZeros, List.reverse_cons, List.dropWhile_append]
  by_cases hcs : dropTrailingZeros cs = []
  · rw [if_pos (hempty.mpr hcs), hcs]
    by_cases hc : c = '0'
    · simp [hc]
    · simp [hc]
  · rw [if_neg (fun h => hcs (hempty.mp h)), if_neg (fun h => hcs h.2), List.reverse_append]
    rfl

lemma dropTrailingZeros_append_zeros (cs : List Char) (k : ℕ) :
    dropTrailingZeros (cs ++ List.replicate k '0') = dropTrailingZeros cs := by
  have hzeros : ∀ c ∈ List.replicate k '0', (c == '0') = true := by
    intro c hc
    rw [(List.mem_replicate.mp hc).2]
    rfl
  rw [dropTrailingZeros, List.reverse_append, List.reverse_replicate,
    List.dropWhile_append_of_pos hzeros, dropTrailingZeros]

/-- A fraction is written without the zeros at its end, but with its first
digit. -/
lemma fractionDigits_eq {scale frac : ℕ} {c : Char} {cs : List Char}
    (h : padded scale frac = c :: cs) :
    fractionDigits scale frac = c :: dropTrailingZeros cs := by
  rw [fractionDigits, ← padded, h, dropTrailingZeros_cons]
  by_cases hzero : c = '0' ∧ dropTrailingZeros cs = []
  · rw [if_pos hzero, hzero.1, hzero.2]
  · rw [if_neg hzero]

/-- More digits of a fraction are not written. -/
lemma fractionDigits_add {scale frac : ℕ} (hscale : 1 ≤ scale) (hfrac : frac < 10 ^ scale)
    (k : ℕ) : fractionDigits (scale + k) (frac * 10 ^ k) = fractionDigits scale frac := by
  rw [fractionDigits, ← padded, padded_add hscale hfrac, dropTrailingZeros_append_zeros, padded,
    ← fractionDigits]

lemma isDigits_fractionDigits (scale frac : ℕ) : IsDigits (fractionDigits scale frac) := by
  have hpadded := isDigits_padded scale frac
  obtain ⟨c, cs, h⟩ := List.exists_cons_of_ne_nil hpadded.1
  rw [h] at hpadded
  rw [fractionDigits_eq h]
  exact ⟨by simp, isDigits_dropTrailingZeros.mpr hpadded⟩

/-- The digits of a fraction denote it. -/
lemma fractionDigits_value {scale frac : ℕ} (hscale : 1 ≤ scale) (hfrac : frac < 10 ^ scale) :
    (digitsNat (fractionDigits scale frac) : ℚ) / 10 ^ (fractionDigits scale frac).length =
      frac / 10 ^ scale := by
  obtain ⟨c, cs, h⟩ := List.exists_cons_of_ne_nil (isDigits_padded scale frac).1
  rw [fractionDigits_eq h, ← fraction_dropTrailingZeros, ← h, digitsNat_padded,
    length_padded hscale hfrac]

/-! ### The canonical form -/

/-- The canonical form without its sign. -/
def unsignedChars (scale magnitude : ℕ) : List Char :=
  Nat.toDigits 10 (magnitude / tenPow scale) ++
    '.' :: fractionDigits scale (magnitude % tenPow scale)

lemma canonicalChars_eq (d : Decimal) :
    d.canonicalChars =
      if d.unscaled < 0 then '-' :: unsignedChars d.scale d.unscaled.natAbs
      else unsignedChars d.scale d.unscaled.natAbs := rfl

lemma unsignedDecimal_unsignedChars {scale : ℕ} (hscale : 1 ≤ scale) (magnitude : ℕ) :
    UnsignedDecimal (unsignedChars scale magnitude) (magnitude / 10 ^ scale) := by
  have hpos : (0 : ℚ) < 10 ^ scale := by positivity
  have hfrac : magnitude % 10 ^ scale < 10 ^ scale := Nat.mod_lt _ (by positivity)
  have hwritten := UnsignedDecimal.fraction (isDigits_toDigits (magnitude / 10 ^ scale))
    (isDigits_fractionDigits scale (magnitude % 10 ^ scale))
  have hsplit : (magnitude : ℚ) =
      10 ^ scale * (magnitude / 10 ^ scale : ℕ) + (magnitude % 10 ^ scale : ℕ) := by
    exact_mod_cast (Nat.div_add_mod magnitude (10 ^ scale)).symm
  rw [digitsNat_toDigits, fractionDigits_value hscale hfrac] at hwritten
  rw [unsignedChars, tenPow_eq]
  convert hwritten using 1
  rw [div_eq_iff hpos.ne', add_mul, div_mul_cancel₀ _ hpos.ne']
  linarith

/-- **The canonical form denotes the number.** -/
lemma decimalLiteral_canonical (d : Decimal) : DecimalLiteral d.canonical d.toRat := by
  have hunsigned := unsignedDecimal_unsignedChars d.scale_valid.1 d.unscaled.natAbs
  rw [DecimalLiteral, canonical, String.toList_ofList, canonicalChars_eq, toRat]
  split
  next hneg =>
    rw [Nat.cast_natAbs, abs_of_neg hneg, Int.cast_neg, neg_div] at hunsigned
    simpa using Signed.minus hunsigned
  next hnonneg =>
    rw [Nat.cast_natAbs, abs_of_nonneg (not_lt.mp hnonneg)] at hunsigned
    exact .plain hunsigned

/-- Zeros at the end of the unscaled value are not written. -/
lemma unsignedChars_add {scale : ℕ} (hscale : 1 ≤ scale) (magnitude k : ℕ) :
    unsignedChars (scale + k) (magnitude * 10 ^ k) = unsignedChars scale magnitude := by
  have hfrac : magnitude % 10 ^ scale < 10 ^ scale := Nat.mod_lt _ (by positivity)
  have hpow : 0 < 10 ^ k := by positivity
  rw [unsignedChars, unsignedChars, tenPow_eq, tenPow_eq, pow_add,
    Nat.mul_div_mul_right _ _ hpow, Nat.mul_mod_mul_right, fractionDigits_add hscale hfrac]

/-- **The canonical form depends on the number alone.** -/
theorem canonical_eq_iff {a b : Decimal} : a.canonical = b.canonical ↔ a.toRat = b.toRat := by
  constructor
  · intro h
    have hb := b.decimalLiteral_canonical
    rw [← h] at hb
    exact a.decimalLiteral_canonical.unique hb
  · intro h
    wlog hle : a.scale ≤ b.scale generalizing a b
    · exact (this h.symm (by omega)).symm
    -- the form with the larger scale ends in zeros, and those are not written
    obtain ⟨k, hk⟩ := Nat.exists_eq_add_of_le hle
    rw [toRat, toRat, hk] at h
    have hunscaled := unscaled_eq_mul_pow h
    have hpow : (0 : ℤ) < 10 ^ k := by positivity
    have hsign : b.unscaled < 0 ↔ a.unscaled < 0 := by
      rw [hunscaled]
      exact ⟨fun h => by nlinarith, fun h => by nlinarith⟩
    have habs : b.unscaled.natAbs = a.unscaled.natAbs * 10 ^ k := by
      rw [hunscaled, Int.natAbs_mul, Int.natAbs_pow]
      rfl
    rw [canonical, canonical, canonicalChars_eq, canonicalChars_eq, hk, habs,
      unsignedChars_add a.scale_valid.1]
    simp only [hsign]

/-! ### Reading what was written -/

/-- No form of a number has a smaller scale than a shortest one. -/
lemma Shortest.scale_le {s t : ℕ} {u v : ℤ} (hu : Shortest s u) (ht : 1 ≤ t)
    (h : (v : ℚ) / 10 ^ t = u / 10 ^ s) : s ≤ t := by
  by_contra hlt
  obtain ⟨k, rfl⟩ := Nat.exists_eq_add_of_lt (not_le.mp hlt)
  rw [add_assoc] at h hu
  rcases hu with hone | hnot
  · omega
  · -- the longer form ends in a zero
    exact hnot ⟨v * 10 ^ k, by rw [unscaled_eq_mul_pow h, pow_succ]; ring⟩

/-- **Decimals survive being written and read.** The canonical form of a decimal
is read as the decimal of the same number with the smallest scale, which has the
same canonical form; a decimal that was read from a text is read from its
canonical form as it is. -/
theorem parse_canonical_round_trip :
    (∀ d : Decimal, ∃ e : Decimal, parse d.canonical = .ok e ∧ e.toRat = d.toRat ∧
      (∀ (scale : ℕ) (unscaled : ℤ), 1 ≤ scale → (unscaled : ℚ) / 10 ^ scale = d.toRat →
        e.scale ≤ scale) ∧
      e.canonical = d.canonical) ∧
    ∀ (text : String) (p : Decimal), parse text = .ok p → parse p.canonical = .ok p := by
  constructor
  · intro d
    obtain ⟨e, he, hshortest⟩ := exists_shortest d
    have hliteral := d.decimalLiteral_canonical
    rw [← he] at hliteral
    refine ⟨e, parse_eq_ok.mpr ⟨hliteral, hshortest⟩, he, ?_, canonical_eq_iff.mpr he⟩
    intro scale unscaled hscale h
    exact hshortest.scale_le hscale (h.trans he.symm)
  · intro text p h
    exact parse_eq_ok.mpr ⟨p.decimalLiteral_canonical, (parse_eq_ok.mp h).2⟩

/-- A negative number whose unscaled value ends in zeros, and the least decimal
of all, read from a text with leading zeros. -/
theorem parse_canonical_round_trip_negative :
    let d : Decimal := ⟨18, -1500000000000000000, by decide, by decide⟩
    let least : Decimal := ⟨18, -9223372036854775808, by decide, by decide⟩
    ((-15 : ℤ) : ℚ) / 10 ^ 1 = d.toRat ∧ parse "-0009.223372036854775808" = .ok least ∧
      (∃ e : Decimal, parse d.canonical = .ok e ∧ e.toRat = d.toRat ∧ e.scale ≤ 1 ∧
        e.canonical = d.canonical) ∧
      parse least.canonical = .ok least := by
  intro d least
  have hvalue : ((-15 : ℤ) : ℚ) / 10 ^ 1 = d.toRat := by norm_num [toRat, d]
  have hparse : parse "-0009.223372036854775808" = .ok least := by decide +kernel
  obtain ⟨hwritten, hread⟩ := parse_canonical_round_trip
  obtain ⟨e, hparsed, he, hleast, hsame⟩ := hwritten d
  exact ⟨hvalue, hparse, ⟨e, hparsed, he, hleast 1 (-15) (by decide) hvalue, hsame⟩,
    hread _ _ hparse⟩

end YangTypes.Decimal
