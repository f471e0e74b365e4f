import Mathlib.Tactic
import YangTypes.Proofs.Outcome
import YangTypes.Proofs.Text.Numeral
import YangTypes.Unsigned.Basic

/-!
Reading an unsigned integer: a literal is read if its value fits the width. Such
a value fits 128 bits, so the limit of the literal reader refuses none.
-/

namespace YangTypes.Unsigned

open Text

variable {w : Width} {u : Unsigned w}

lemma ofInt?_eq_some {n : ℤ} : ofInt? w n = some u ↔ u.toInt = n := by
  rw [ofInt?, toInt]
  constructor
  · intro h
    split at h
    next hnonneg =>
      simp only [Option.dite_none_right_eq_some, Option.some.injEq] at h
      obtain ⟨-, rfl⟩ := h
      exact Int.toNat_of_nonneg hnonneg
    next => simp at h
  · rintro rfl
    rw [if_pos (Int.natCast_nonneg _), dif_pos (by rw [Int.toNat_natCast]; exact u.lt)]
    simp only [Int.toNat_natCast]

lemma of_eq_ok {n : ℤ} : of w n = .ok u ↔ u.toInt = n := by
  rw [of, ← ofInt?_eq_some]
  cases ofInt? w n <;> simp

lemma fitsInt128 (u : Unsigned w) : FitsInt128 u.toInt := by
  have hlt := u.lt
  have hwidth : twoPow w.bits ≤ twoPow 64 := by
    cases w <;> decide
  have hmax : twoPow 64 ≤ twoPow 127 := by decide
  rw [FitsInt128, toInt]
  omega

/-- A literal of a radix is read if its value is one of the width. -/
lemma ofLiteral_eq_ok {radix : ℕ} {text : String} (h : 2 ≤ radix ∧ radix ≤ 36) :
    ofLiteral w text radix = .ok u ↔ readInt? radix text.toList = some u.toInt := by
  have hread : readInt128? radix text = some u.toInt ↔
      readInt? radix text.toList = some u.toInt := by
    rw [readInt128?_eq_some, and_iff_left u.fitsInt128]
  rw [ofLiteral, if_pos h, ← hread]
  split
  next n hn => rw [of_eq_ok, hn, Option.some.injEq, eq_comm]
  next hn => simp [hn]

lemma parse_eq_ok {text : String} : parse w text = .ok u ↔ IntegerLiteral text u.toInt := by
  rw [parse, mapError_eq_ok, ofLiteral_eq_ok (by decide), readInt?_ten_eq_some]

end YangTypes.Unsigned
