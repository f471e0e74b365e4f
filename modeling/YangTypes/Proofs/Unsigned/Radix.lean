import Mathlib.Tactic
import YangTypes.Proofs.Text.Radix
import YangTypes.Proofs.Unsigned.Literal

/-!
Unsigned integers in every radix.

* `InRange`: the integers of a width; `of_eq_error` is about the others.
* `ofLiteral_eq_error`: which errors reading a literal gives. There are two
  limits, that of 128 signed bits and that of the width, and a literal that only
  keeps the first one is reported with its value.
* `ofLiteral_exact`: what is read, for every text and every radix.
-/

namespace YangTypes.Unsigned

open Text

variable {w : Width} {u : Unsigned w} {radix : ℕ} {text : String} {n : ℤ} {e : ValueError}

/-- The integers of a width. -/
def InRange (w : Width) (n : ℤ) : Prop := 0 ≤ n ∧ n ≤ 2 ^ w.bits - 1

lemma cast_twoPow (k : ℕ) : ((twoPow k : ℕ) : ℤ) = 2 ^ k := by
  rw [twoPow, Nat.pow_eq, Nat.cast_pow, Nat.cast_ofNat]

lemma cast_maxValue (w : Width) : ((w.maxValue : ℕ) : ℤ) = 2 ^ w.bits - 1 := by
  rw [Width.maxValue, Nat.cast_sub (twoPow_pos w.bits), cast_twoPow, Nat.cast_one]

lemma inRange_toInt (u : Unsigned w) : InRange w u.toInt := by
  have hlt : (u.val : ℤ) < twoPow w.bits := by exact_mod_cast u.lt
  rw [cast_twoPow] at hlt
  rw [InRange, toInt]
  omega

/-- The integers of a width are those of its values. -/
lemma inRange_iff : InRange w n ↔ ∃ u : Unsigned w, u.toInt = n := by
  constructor
  · rintro ⟨hlow, hhigh⟩
    have hlt : n.toNat < twoPow w.bits := by
      rw [← Nat.cast_lt (α := ℤ), cast_twoPow, Int.toNat_of_nonneg hlow]
      omega
    exact ⟨⟨n.toNat, hlt⟩, Int.toNat_of_nonneg hlow⟩
  · rintro ⟨u, rfl⟩
    exact u.inRange_toInt

/-- An integer outside of the width is reported with the range. -/
lemma of_eq_error :
    of w n = .error e ↔ ¬ InRange w n ∧ e = .outOfRange n 0 (2 ^ w.bits - 1) := by
  have hnone : ofInt? w n = none ↔ ¬ InRange w n := by
    rw [inRange_iff, Option.eq_none_iff_forall_ne_some]
    simp only [ne_eq, ofInt?_eq_some, not_exists]
  rw [of, ← cast_maxValue, ← hnone]
  cases ofInt? w n with
  | none => simp [eq_comm]
  | some u => simp

/-- Every failure is one of two: the text is no literal of 128 bits, or its value
is outside of the width. -/
lemma ofLiteral_eq_error (h : 2 ≤ radix ∧ radix ≤ 36) :
    ofLiteral w text radix = .error e ↔
      (¬ ∃ n, RadixLiteral radix text n ∧ FitsInt128 n) ∧ e = .violation (.ofMessage
        ("'" ++ text ++ "' is not a valid " ++ w.typeName ++ " in radix " ++ toString radix)) ∨
      ∃ n, (RadixLiteral radix text n ∧ FitsInt128 n) ∧ ¬ InRange w n ∧
        e = .outOfRange n 0 (2 ^ w.bits - 1) := by
  rw [ofLiteral, if_pos h]
  simp only [← readInt128?_eq_some_iff]
  cases readInt128? radix text with
  | none =>
      simp only [Except.error.injEq, reduceCtorEq, false_and, exists_false, not_false_eq_true,
        true_and, or_false]
      exact eq_comm
  | some m => simp [of_eq_error]

/-- **Reading a literal is exact, in every radix.** The radix is refused if it is
not between 2 and 36. Otherwise a text is read exactly if it denotes an integer of
the width, and as that integer; it is out of range exactly if it denotes an
integer of 128 signed bits that is not of the width; and it is a violation in all
other cases. So a value is read back from each of its texts, whatever the radix,
the zeros before it and the case of the letters, and from its canonical form. -/
theorem ofLiteral_exact (w : Width) (radix : ℕ) (text : String) :
    (∀ r, ofLiteral w text radix = .error (.invalidRadix r) ↔
      ¬ (2 ≤ radix ∧ radix ≤ 36) ∧ r = radix) ∧
    (2 ≤ radix ∧ radix ≤ 36 →
      (∀ u : Unsigned w, ofLiteral w text radix = .ok u ↔
        ∃ n, RadixLiteral radix text n ∧ InRange w n ∧ u.toInt = n) ∧
      (∀ n low high, ofLiteral w text radix = .error (.outOfRange n low high) ↔
        RadixLiteral radix text n ∧ FitsInt128 n ∧ ¬ InRange w n ∧
          low = 0 ∧ high = 2 ^ w.bits - 1) ∧
      ((∃ report, ofLiteral w text radix = .error (.violation report)) ↔
        ¬ ∃ n, RadixLiteral radix text n ∧ FitsInt128 n) ∧
      ∀ (u : Unsigned w) (zeros : ℕ) (capital : ℕ → Bool),
        ofLiteral w (render radix zeros capital u.val) radix = .ok u) ∧
    ∀ u : Unsigned w, parse w u.canonical = .ok u := by
  refine ⟨fun r => ?_, fun hradix => ⟨fun u => ?_, fun n low high => ?_, ?_, ?_⟩, fun u => ?_⟩
  · by_cases hradix : 2 ≤ radix ∧ radix ≤ 36
    · simp [ofLiteral_eq_error hradix, hradix]
    · simp [ofLiteral, hradix, eq_comm]
  · rw [ofLiteral_eq_ok hradix, readInt?_eq_some_iff]
    constructor
    · intro h
      exact ⟨_, h, u.inRange_toInt, rfl⟩
    · rintro ⟨n, hn, -, rfl⟩
      exact hn
  · rw [ofLiteral_eq_error hradix]
    constructor
    · rintro (⟨-, h⟩ | ⟨m, ⟨hm, hfits⟩, hout, h⟩)
      · simp at h
      · obtain ⟨rfl, rfl, rfl⟩ := ValueError.outOfRange.inj h
        exact ⟨hm, hfits, hout, rfl, rfl⟩
    · rintro ⟨hn, hfits, hout, rfl, rfl⟩
      exact .inr ⟨n, ⟨hn, hfits⟩, hout, rfl⟩
  · simp [ofLiteral_eq_error hradix]
  · intro u zeros capital
    rw [ofLiteral_eq_ok hradix, readInt?_eq_some_iff]
    exact radixLiteral_render hradix zeros capital u.val
  · rw [parse_eq_ok]
    exact integerLiteral_toString u.toInt

/-- A sign, zeros and both cases in the largest radix: read in 16 bits, out of
range in 8 bits. A sign alone is no literal. -/
theorem ofLiteral_exact_thirty_six :
    (2 ≤ 36 ∧ 36 ≤ 36) ∧ RadixLiteral 36 "+00zZ" 1295 ∧
      ofLiteral .w16 "+00zZ" 36 = .ok ⟨1295, by decide⟩ ∧
      ofLiteral .w8 "+00zZ" 36 = .error (.outOfRange 1295 0 255) ∧
      ∃ report, ofLiteral .w8 "-" 36 = .error (.violation report) := by
  have hradix : 2 ≤ 36 ∧ 36 ≤ 36 := by decide
  have hliteral : RadixLiteral 36 "+00zZ" 1295 := readInt?_eq_some_iff.mp (by decide)
  have hsign : ¬ ∃ n, RadixLiteral 36 "-" n ∧ FitsInt128 n := by
    have hnone : readInt? 36 "-".toList = none := by decide
    rintro ⟨n, hn, -⟩
    rw [← readInt?_eq_some_iff, hnone] at hn
    simp at hn
  refine ⟨hradix, hliteral, ?_, ?_, ?_⟩
  · refine (((ofLiteral_exact .w16 36 "+00zZ").2.1 hradix).1 _).mpr ⟨1295, hliteral, ?_, rfl⟩
    norm_num [InRange, Width.bits]
  · refine (((ofLiteral_exact .w8 36 "+00zZ").2.1 hradix).2.1 1295 0 255).mpr
      ⟨hliteral, by decide, ?_, rfl, by norm_num [Width.bits]⟩
    norm_num [InRange, Width.bits]
  · exact ((ofLiteral_exact .w8 36 "-").2.1 hradix).2.2.1.mpr hsign

end YangTypes.Unsigned
