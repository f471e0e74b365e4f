import Mathlib.Tactic
import YangTypes.Command.Run
import YangTypes.Proofs.Unsigned.Radix

/-!
Reading with saturation.

* `IsNearest`: a value is nearest to an integer among the values of its width.
  There is exactly one such value, which clamping finds (`isNearest_iff`).
* `Command.saturates_iff`: a literal is read with saturation, as the nearest
  value, exactly if it fits 128 signed bits; `Command.saturation_beyond_bits`
  is the first literal above them.
-/

namespace YangTypes

namespace Unsigned

variable {w : Width} {u : Unsigned w} {n : ℤ}

/-- A value is nearest to an integer among the values of its width. -/
def IsNearest (u : Unsigned w) (n : ℤ) : Prop :=
  ∀ v : Unsigned w, |n - u.toInt| ≤ |n - v.toInt|

lemma toInt_inj {v : Unsigned w} : u.toInt = v.toInt ↔ u = v := by
  cases u
  cases v
  simp [toInt]

lemma toInt_clamp (w : Width) (n : ℤ) :
    (clamp w n).toInt = max 0 (min n (2 ^ w.bits - 1)) := by
  rw [clamp]
  split
  next h =>
    rw [← Nat.cast_lt (α := ℤ), cast_twoPow] at h
    simp only [toInt]
    omega
  next h =>
    rw [← Nat.cast_lt (α := ℤ), cast_twoPow] at h
    have hpos : (0 : ℤ) < 2 ^ w.bits := by positivity
    rw [greatest, toInt, cast_maxValue]
    omega

/-- **Clamping finds the nearest value**, and there is no other one. -/
lemma isNearest_iff : u.IsNearest n ↔ u = clamp w n := by
  have hclamp := toInt_clamp w n
  have hrange : ∀ v : Unsigned w, 0 ≤ v.toInt ∧ v.toInt ≤ 2 ^ w.bits - 1 := inRange_toInt
  rw [IsNearest, ← toInt_inj]
  simp only [Int.abs_eq_natAbs, Nat.cast_le]
  constructor
  · -- Outside of the width all values lie on one side of the integer, so no two
    -- of them are equally far from it.
    intro h
    have hle := h (clamp w n)
    have hu := hrange u
    omega
  · intro h v
    have hv := hrange v
    omega

/-- A value of the width is nearest to itself. -/
lemma clamp_toInt (u : Unsigned w) : clamp w u.toInt = u := by
  have hself : u.IsNearest u.toInt := by
    intro v
    rw [sub_self, abs_zero]
    exact abs_nonneg _
  exact (isNearest_iff.mp hself).symm

end Unsigned

namespace Command

open Text Unsigned

variable {radix : ℕ} {text : String} {n : ℤ}

/-- With saturation the value is clamped, if the literal could be read. -/
lemma readUnsigned_true (w : Width) (h : RadixLiteral radix text n) :
    readUnsigned w text radix true =
      if FitsInt128 n then .ok (clamp w n)
      else .error ("'" ++ text ++ "' is not an integer in radix " ++ toString radix) := by
  rw [readUnsigned, if_pos rfl, readInt128?, readInt?_eq_some_iff.mpr h]
  by_cases hfits : FitsInt128 n
  · simp [Option.filter, hfits]
  · simp [Option.filter, hfits]

/-- The command prints the canonical form of what it reads. -/
lemma runUnsigned_bits (hradix : 2 ≤ radix ∧ radix ≤ 36) (w : Width) (saturate : Bool) :
    runUnsigned w.bits text radix saturate false =
      (readUnsigned w text radix saturate).map canonical := by
  have hwidth : Width.ofBits? w.bits = some w := by cases w <;> rfl
  rw [runUnsigned, if_neg (not_not.mpr hradix), hwidth]
  simp only [Bool.false_eq_true, if_false]
  cases readUnsigned w text radix saturate with
  | error e => rfl
  | ok u => rfl

/-- **Saturation holds within 128 bits.** For a literal of any length the command
reads and prints the value of the width that is nearest to it exactly if the
literal fits 128 signed bits; otherwise it is refused as if it were no integer.
What is read without saturation is read with it. -/
theorem saturates_iff (w : Width) (hradix : 2 ≤ radix ∧ radix ≤ 36)
    (h : RadixLiteral radix text n) :
    ((∃ u : Unsigned w, u.IsNearest n ∧ readUnsigned w text radix true = .ok u ∧
        runUnsigned w.bits text radix true false = .ok u.canonical) ↔ FitsInt128 n) ∧
    (∀ e, readUnsigned w text radix true = .error e ↔ ¬ FitsInt128 n ∧
      e = "'" ++ text ++ "' is not an integer in radix " ++ toString radix) ∧
    ∀ u : Unsigned w, readUnsigned w text radix false = .ok u →
      readUnsigned w text radix true = .ok u := by
  rw [readUnsigned_true w h]
  refine ⟨⟨?_, fun hfits => ?_⟩, fun e => ?_, fun u hu => ?_⟩
  · rintro ⟨u, -, hread, -⟩
    by_contra hfits
    rw [if_neg hfits] at hread
    simp at hread
  · refine ⟨clamp w n, isNearest_iff.mpr rfl, if_pos hfits, ?_⟩
    rw [runUnsigned_bits hradix, readUnsigned_true w h, if_pos hfits]
    rfl
  · by_cases hfits : FitsInt128 n
    · simp [hfits]
    · simp [hfits, eq_comm]
  · rw [readUnsigned, if_neg Bool.false_ne_true, mapError_eq_ok, ofLiteral_eq_ok hradix,
      readInt?_eq_some_iff] at hu
    obtain rfl := hu.unique h
    rw [if_pos u.fitsInt128, clamp_toInt]

/-- A negative literal in a radix with letters saturates at zero. -/
theorem saturates_iff_below_zero :
    (2 ≤ 16 ∧ 16 ≤ 36) ∧ RadixLiteral 16 "-fF" (-255) ∧ FitsInt128 (-255) ∧
      ∃ u : Unsigned .w8, u.IsNearest (-255) ∧ readUnsigned .w8 "-fF" 16 true = .ok u ∧
        runUnsigned 8 "-fF" 16 true false = .ok u.canonical := by
  have hradix : 2 ≤ 16 ∧ 16 ≤ 36 := by decide
  have hliteral : RadixLiteral 16 "-fF" (-255) := readInt?_eq_some_iff.mp (by decide)
  have hfits : FitsInt128 (-255) := by decide
  exact ⟨hradix, hliteral, hfits, (saturates_iff .w8 hradix hliteral).1.mpr hfits⟩

/-- The first literal above 128 bits is refused, although the greatest value is
nearest to it. -/
theorem saturation_beyond_bits :
    RadixLiteral 10 "170141183460469231731687303715884105728" (2 ^ 127) ∧
      (greatest .w8).IsNearest (2 ^ 127) ∧
      runUnsigned 8 "170141183460469231731687303715884105728" 10 true false =
        .error "'170141183460469231731687303715884105728' is not an integer in radix 10" := by
  have hliteral : RadixLiteral 10 "170141183460469231731687303715884105728" (2 ^ 127) :=
    readInt?_eq_some_iff.mp (by decide)
  have hfits : ¬ FitsInt128 (2 ^ 127) := by decide
  refine ⟨hliteral, isNearest_iff.mpr (by decide), ?_⟩
  refine (runUnsigned_bits (by decide) .w8 true).trans ?_
  rw [readUnsigned_true .w8 hliteral, if_neg hfits]
  rfl

end Command

end YangTypes
