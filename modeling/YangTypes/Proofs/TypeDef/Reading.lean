import Mathlib.Tactic
import YangTypes.Proofs.Decimal.Reading
import YangTypes.Proofs.Decimal.Rescaling
import YangTypes.Proofs.Unsigned.Literal
import YangTypes.TypeDef.Facets

/-!
The numbers of the numeric types. A text is read as an integer of a type, or as
a decimal with some fraction digits, exactly if it denotes that number; neither
the reader's limits nor the form of the text matter.
-/

namespace YangTypes

open Text

namespace IntegerKind

variable {kind : IntegerKind} {text : String} {n : ℤ}

/-- The values of a type fit 128 bits. -/
lemma fitsInt128 (h : kind.low ≤ n ∧ n ≤ kind.high) : FitsInt128 n := by
  have hlow : -(twoPow 127 : ℤ) ≤ kind.low := by
    cases kind with
    | signed w => cases w <;> decide
    | unsigned w => cases w <;> decide
  have hhigh : kind.high < (twoPow 127 : ℤ) := by
    cases kind with
    | signed w => cases w <;> decide
    | unsigned w => cases w <;> decide
  exact ⟨hlow.trans h.1, h.2.trans_lt hhigh⟩

lemma readInteger_eq_ok (h : kind.low ≤ n ∧ n ≤ kind.high) :
    kind.readInteger text = .ok n ↔ IntegerLiteral text n := by
  cases kind with
  | signed w =>
      have hread : readInt128? 10 text = some n ↔ IntegerLiteral text n := by
        rw [readInt128?_eq_some, and_iff_left (fitsInt128 h), readInt?_ten_eq_some]
      rw [← hread, readInteger]
      split
      next m hm => rw [hm, Except.ok.injEq, Option.some.injEq]
      next hm => simp [hm]
  | unsigned w =>
      rw [readInteger, map_eq_ok]
      constructor
      · rintro ⟨u, hu, rfl⟩
        exact Unsigned.parse_eq_ok.mp hu
      · intro hliteral
        have hlt : n.toNat < twoPow w.bits := by
          have hpos := twoPow_pos w.bits
          simp only [low, high, Width.maxValue] at h
          omega
        have hn : (⟨n.toNat, hlt⟩ : Unsigned w).toInt = n := Int.toNat_of_nonneg h.1
        exact ⟨_, Unsigned.parse_eq_ok.mpr (by rwa [hn]), hn⟩

/-- An integer is read if the text denotes it and it is a value of the type. -/
lemma parse_eq_ok :
    kind.parse text = .ok n ↔ IntegerLiteral text n ∧ kind.low ≤ n ∧ n ≤ kind.high := by
  rw [parse, bind_eq_ok]
  constructor
  · rintro ⟨m, hm, h⟩
    split at h
    next hrange =>
      obtain rfl := pure_eq_ok.mp h
      exact ⟨(readInteger_eq_ok hrange).mp hm, hrange⟩
    next => simp at h
  · rintro ⟨hliteral, hrange⟩
    refine ⟨n, (readInteger_eq_ok hrange).mpr hliteral, ?_⟩
    rw [if_pos hrange]
    rfl

end IntegerKind

/-- A decimal is read if the text denotes it and it has the fraction digits. -/
lemma parseDecimal_eq_ok {digits : ℕ} {text : String} {d : Decimal} :
    parseDecimal digits text = .ok d ↔ d.scale = digits ∧ DecimalLiteral text d.toRat := by
  simp only [parseDecimal, bind_eq_ok, mapError_eq_ok, Decimal.parse_eq_ok,
    Decimal.scaleTo_unnecessary_eq_ok]
  constructor
  · rintro ⟨e, ⟨hliteral, -⟩, hscale, hrat⟩
    rw [hrat]
    exact ⟨hscale, hliteral⟩
  · rintro ⟨hscale, hliteral⟩
    obtain ⟨e, he, hshort⟩ := d.exists_shortest
    rw [← he] at hliteral
    exact ⟨e, ⟨hliteral, hshort⟩, hscale, he.symm⟩

end YangTypes
