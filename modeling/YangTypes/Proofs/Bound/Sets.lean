import Mathlib.Tactic
import YangTypes.Proofs.Bound.Narrowing

/-!
Narrowing as a relation between sets of numbers.

* `Interval.numbers`: the numbers of an interval. Of intervals in order,
  `overlaps` and `encloses` test for a common number and for inclusion;
* `Narrows`: what a candidate has to satisfy, said with these sets and for all
  pairs of its intervals. It does not mention an order of the candidate;
* `narrow_eq_ok_iff_narrows`, `narrow_eq_reversed`, `narrow_eq_overlap` and
  `narrow_eq_outside`: which outcome each case has;
* `narrow_decides_narrows`: narrowing succeeds exactly if `Narrows` holds, and
  all orders of a candidate have the same outcome.
-/

namespace YangTypes

namespace Interval

/-- The numbers from the lower to the upper end of an interval. -/
def numbers (i : Interval) : Set ℚ := Set.Icc i.low.toRat i.high.toRat

variable {s : ℕ} {a b : Interval}

/-- Intervals in order overlap if they share a number. -/
lemma overlaps_iff_exists (ha : a.OfScale s) (hb : b.OfScale s)
    (ha' : a.low.toRat ≤ a.high.toRat) (hb' : b.low.toRat ≤ b.high.toRat) :
    a.overlaps b = true ↔ ∃ x ∈ a.numbers, x ∈ b.numbers := by
  rw [overlaps_iff ha hb]
  constructor
  · rintro ⟨hab, hba⟩
    -- the higher one of the two lower ends is in both
    exact ⟨max a.low.toRat b.low.toRat, ⟨le_max_left _ _, max_le ha' hba⟩,
      ⟨le_max_right _ _, max_le hab hb'⟩⟩
  · rintro ⟨x, hxa, hxb⟩
    exact ⟨hxa.1.trans hxb.2, hxb.1.trans hxa.2⟩

/-- An interval in order is enclosed by another one if all its numbers are in
it. -/
lemma encloses_iff_subset (ha : a.OfScale s) (hb : b.OfScale s)
    (hb' : b.low.toRat ≤ b.high.toRat) :
    a.encloses b = true ↔ b.numbers ⊆ a.numbers := by
  rw [encloses_iff ha hb, numbers, numbers, Set.Icc_subset_Icc_iff hb']

end Interval

namespace Constraint

/-- Two constraints share no number. -/
def Apart (a b : Constraint) : Prop := ¬ ∃ x ∈ a.interval.numbers, x ∈ b.interval.numbers

/-- A constraint is a subset of a single one of a list. -/
def Within (base : List Constraint) (c : Constraint) : Prop :=
  ∃ b ∈ base, c.interval.numbers ⊆ b.interval.numbers

lemma Apart.symm {a b : Constraint} (h : a.Apart b) : b.Apart a := by
  rintro ⟨x, hxb, hxa⟩
  exact h ⟨x, hxa, hxb⟩

lemma Before.apart {a b : Constraint} (h : a.Before b) : a.Apart b := by
  rintro ⟨x, hxa, hxb⟩
  exact absurd (hxb.1.trans hxa.2) (not_le.mpr h)

lemma ordered_iff {s : ℕ} {c : Constraint} (hc : c.OfScale s) :
    c.interval.low.le c.interval.high = true ↔ c.Ordered :=
  Number.le_iff (hc.1.comparable hc.2)

end Constraint

/-- A list of constraints narrows another one: each of its intervals is in
order, no two of them share a number, and each is a subset of a single interval
of the other list. -/
structure Narrows (base candidate : List Constraint) : Prop where
  ordered : ∀ c ∈ candidate, c.Ordered
  apart : candidate.Pairwise Constraint.Apart
  within : ∀ c ∈ candidate, c.Within base

lemma Narrows.perm {base candidate other : List Constraint} (h : Narrows base candidate)
    (hperm : other.Perm candidate) : Narrows base other where
  ordered c hc := h.ordered c (hperm.mem_iff.mp hc)
  apart := (hperm.pairwise_iff Constraint.Apart.symm).mpr h.apart
  within c hc := h.within c (hperm.mem_iff.mp hc)

/-! ### The outcome of narrowing -/

section

variable {s : ℕ} {keyword : BoundKeyword} {base candidate result : List Constraint}

/-- The neighbours of the sorted candidate decide about all pairs. -/
lemma overlapping?_sortByLow_eq_none_iff (hscale : ∀ c ∈ candidate, c.OfScale s)
    (hordered : ∀ c ∈ candidate, c.Ordered) :
    overlapping? (sortByLow candidate) = none ↔ candidate.Pairwise Constraint.Apart := by
  rw [← (sortByLow_perm candidate).pairwise_iff Constraint.Apart.symm]
  have hscale' : ∀ c ∈ sortByLow candidate, c.OfScale s := fun c hc =>
    hscale c (mem_sortByLow.mp hc)
  have hordered' : ∀ c ∈ sortByLow candidate, c.Ordered := fun c hc =>
    hordered c (mem_sortByLow.mp hc)
  constructor
  · intro h
    exact (separated_of_overlapping?_eq_none hscale' hordered' (sortByLow_sorted hscale) h).imp
      Constraint.Before.apart
  · intro h
    refine overlapping?_eq_none (h.imp_of_mem fun {a b} ha hb hab => ?_)
    have hoverlaps := Interval.overlaps_iff_exists (hscale' a ha) (hscale' b hb)
      (hordered' a ha) (hordered' b hb)
    rw [Bool.eq_false_iff, Ne, hoverlaps]
    exact hab

lemma exists_encloses_iff_within (hbase : ∀ b ∈ base, b.OfScale s) {c : Constraint}
    (hc : c.OfScale s) (hordered : c.Ordered) :
    (∃ b ∈ base, b.interval.encloses c.interval = true) ↔ c.Within base := by
  refine exists_congr fun b => and_congr_right fun hb => ?_
  exact Interval.encloses_iff_subset (hbase b hb) hc hordered

/-- Narrowing succeeds if the candidate narrows the base, and sorts it. -/
theorem narrow_eq_ok_iff_narrows (hbase : ∀ b ∈ base, b.OfScale s)
    (hscale : ∀ c ∈ candidate, c.OfScale s) :
    narrow keyword base candidate = .ok result ↔
      Narrows base candidate ∧ result = sortByLow candidate := by
  rw [narrow_eq_ok_iff]
  constructor
  · rintro ⟨hle, hover, hencloses, rfl⟩
    have hordered : ∀ c ∈ candidate, c.Ordered := fun c hc =>
      (Constraint.ordered_iff (hscale c hc)).mp (hle c hc)
    refine ⟨⟨hordered, (overlapping?_sortByLow_eq_none_iff hscale hordered).mp hover, ?_⟩, rfl⟩
    intro c hc
    exact (exists_encloses_iff_within hbase (hscale c hc) (hordered c hc)).mp (hencloses c hc)
  · rintro ⟨⟨hordered, hapart, hwithin⟩, rfl⟩
    refine ⟨fun c hc => (Constraint.ordered_iff (hscale c hc)).mpr (hordered c hc),
      (overlapping?_sortByLow_eq_none_iff hscale hordered).mpr hapart, fun c hc => ?_, rfl⟩
    exact (exists_encloses_iff_within hbase (hscale c hc) (hordered c hc)).mpr (hwithin c hc)

variable (keyword base) in
/-- An interval that is not in order is reported before anything else. -/
lemma narrow_eq_reversed (hscale : ∀ c ∈ candidate, c.OfScale s)
    (h : ¬ ∀ c ∈ candidate, c.Ordered) :
    ∃ i, narrow keyword base candidate = .error (.invalidBound (.reversed keyword i)) := by
  cases hfind : candidate.find? fun c => !c.interval.low.le c.interval.high with
  | some c => exact ⟨c.interval, by rw [narrow, hfind]⟩
  | none =>
      refine absurd (fun c hc => ?_) h
      have hle := List.find?_eq_none.mp hfind c hc
      exact (Constraint.ordered_iff (hscale c hc)).mp (by simpa using hle)

lemma find?_reversed_eq_none (hscale : ∀ c ∈ candidate, c.OfScale s)
    (hordered : ∀ c ∈ candidate, c.Ordered) :
    (candidate.find? fun c => !c.interval.low.le c.interval.high) = none := by
  rw [List.find?_eq_none]
  intro c hc
  simpa using (Constraint.ordered_iff (hscale c hc)).mpr (hordered c hc)

variable (keyword base) in
/-- A common number of two intervals is reported before the base is looked at. -/
lemma narrow_eq_overlap (hscale : ∀ c ∈ candidate, c.OfScale s)
    (hordered : ∀ c ∈ candidate, c.Ordered) (h : ¬ candidate.Pairwise Constraint.Apart) :
    ∃ i j, narrow keyword base candidate = .error (.invalidBound (.overlap keyword i j)) := by
  cases hover : overlapping? (sortByLow candidate) with
  | some pair =>
      refine ⟨pair.1, pair.2, ?_⟩
      rw [narrow, find?_reversed_eq_none hscale hordered]
      simp only [hover]
  | none => exact absurd ((overlapping?_sortByLow_eq_none_iff hscale hordered).mp hover) h

variable (keyword) in
/-- What lies in no interval of the base is reported last. -/
lemma narrow_eq_outside (hbase : ∀ b ∈ base, b.OfScale s) (hscale : ∀ c ∈ candidate, c.OfScale s)
    (hordered : ∀ c ∈ candidate, c.Ordered) (hapart : candidate.Pairwise Constraint.Apart)
    (h : ¬ ∀ c ∈ candidate, c.Within base) :
    ∃ i, narrow keyword base candidate =
      .error (.notNarrower i (base.map Constraint.interval)) := by
  have hnone := (overlapping?_sortByLow_eq_none_iff hscale hordered).mpr hapart
  cases hout : (sortByLow candidate).find? fun c =>
      !base.any fun b => b.interval.encloses c.interval with
  | some c =>
      refine ⟨c.interval, ?_⟩
      rw [narrow, find?_reversed_eq_none hscale hordered]
      simp only [hnone, hout]
  | none =>
      refine absurd (fun c hc => ?_) h
      have hencloses := List.find?_eq_none.mp hout c (mem_sortByLow.mpr hc)
      refine (exists_encloses_iff_within hbase (hscale c hc) (hordered c hc)).mp ?_
      simpa using hencloses

end

/-- Two outcomes of narrowing that differ only in the intervals that an error
shows. -/
inductive SameOutcome :
    Except TypeFault (List Constraint) → Except TypeFault (List Constraint) → Prop where
  | ok (result : List Constraint) : SameOutcome (.ok result) (.ok result)
  | reversed (keyword : BoundKeyword) (i j : Interval) :
      SameOutcome (.error (.invalidBound (.reversed keyword i)))
        (.error (.invalidBound (.reversed keyword j)))
  | overlap (keyword : BoundKeyword) (i i' j j' : Interval) :
      SameOutcome (.error (.invalidBound (.overlap keyword i i')))
        (.error (.invalidBound (.overlap keyword j j')))
  | outside (base : List Interval) (i j : Interval) :
      SameOutcome (.error (.notNarrower i base)) (.error (.notNarrower j base))

section

variable {s : ℕ} {keyword : BoundKeyword} {base candidate : List Constraint}

lemma Narrows.separated (h : Narrows base candidate) (hscale : ∀ c ∈ candidate, c.OfScale s) :
    (sortByLow candidate).Pairwise Constraint.Before :=
  separated_of_overlapping?_eq_none (fun c hc => hscale c (mem_sortByLow.mp hc))
    (fun c hc => h.ordered c (mem_sortByLow.mp hc)) (sortByLow_sorted hscale)
    ((overlapping?_sortByLow_eq_none_iff hscale h.ordered).mpr h.apart)

/-- A candidate that narrows a base is the same after sorting, whatever order it
had. -/
lemma Narrows.sortByLow_eq (h : Narrows base candidate) (hscale : ∀ c ∈ candidate, c.OfScale s)
    {other : List Constraint} (hperm : other.Perm candidate) :
    sortByLow other = sortByLow candidate := by
  have hscale' : ∀ c ∈ other, c.OfScale s := fun c hc => hscale c (hperm.mem_iff.mp hc)
  refine List.Perm.eq_of_pairwise ?_ ((h.perm hperm).separated hscale') (h.separated hscale)
    (((sortByLow_perm other).trans hperm).trans (sortByLow_perm candidate).symm)
  -- of two intervals in order, not both end before the other starts
  intro a b ha hb hab hba
  have ha' : a.Ordered := h.ordered a (hperm.mem_iff.mp (mem_sortByLow.mp ha))
  have hb' : b.Ordered := h.ordered b (mem_sortByLow.mp hb)
  have hcycle : a.interval.high.toRat < a.interval.high.toRat :=
    calc a.interval.high.toRat < b.interval.low.toRat := hab
      _ ≤ b.interval.high.toRat := hb'
      _ < a.interval.low.toRat := hba
      _ ≤ a.interval.high.toRat := ha'
  exact absurd hcycle (lt_irrefl _)

lemma narrow_sameOutcome_of_perm (hbase : ∀ b ∈ base, b.OfScale s)
    (hscale : ∀ c ∈ candidate, c.OfScale s) {other : List Constraint}
    (hperm : other.Perm candidate) :
    SameOutcome (narrow keyword base other) (narrow keyword base candidate) := by
  have hscale' : ∀ c ∈ other, c.OfScale s := fun c hc => hscale c (hperm.mem_iff.mp hc)
  have hordered_iff : (∀ c ∈ other, c.Ordered) ↔ ∀ c ∈ candidate, c.Ordered := by
    simp only [hperm.mem_iff]
  have hapart_iff : other.Pairwise Constraint.Apart ↔ candidate.Pairwise Constraint.Apart :=
    hperm.pairwise_iff Constraint.Apart.symm
  have hwithin_iff : (∀ c ∈ other, c.Within base) ↔ ∀ c ∈ candidate, c.Within base := by
    simp only [hperm.mem_iff]
  -- the three tests in the order in which they are made
  by_cases hordered : ∀ c ∈ candidate, c.Ordered
  · by_cases hapart : candidate.Pairwise Constraint.Apart
    · by_cases hwithin : ∀ c ∈ candidate, c.Within base
      · have hnarrows : Narrows base candidate := ⟨hordered, hapart, hwithin⟩
        rw [(narrow_eq_ok_iff_narrows hbase hscale').mpr ⟨hnarrows.perm hperm, rfl⟩,
          (narrow_eq_ok_iff_narrows hbase hscale).mpr ⟨hnarrows, rfl⟩,
          hnarrows.sortByLow_eq hscale hperm]
        exact .ok _
      · obtain ⟨i, hi⟩ := narrow_eq_outside keyword hbase hscale' (hordered_iff.mpr hordered)
          (hapart_iff.mpr hapart) (mt hwithin_iff.mp hwithin)
        obtain ⟨j, hj⟩ := narrow_eq_outside keyword hbase hscale hordered hapart hwithin
        rw [hi, hj]
        exact .outside _ i j
    · obtain ⟨i, i', hi⟩ := narrow_eq_overlap keyword base hscale' (hordered_iff.mpr hordered)
        (mt hapart_iff.mp hapart)
      obtain ⟨j, j', hj⟩ := narrow_eq_overlap keyword base hscale hordered hapart
      rw [hi, hj]
      exact .overlap keyword i i' j j'
  · obtain ⟨i, hi⟩ := narrow_eq_reversed keyword base hscale' (mt hordered_iff.mp hordered)
    obtain ⟨j, hj⟩ := narrow_eq_reversed keyword base hscale hordered
    rw [hi, hj]
    exact .reversed keyword i j

variable (keyword) in
/-- **Narrowing decides a relation between sets of numbers, and the order of the
candidate does not matter.** On bounds that are integers or decimals of one
scale, it succeeds exactly if the candidate narrows the base; the result is the
candidate with all that it declares, sorted by the lower ends; and another order
of the candidate gives the same result, or fails in the same way. -/
theorem narrow_decides_narrows (hbase : ∀ b ∈ base, b.OfScale s)
    (hscale : ∀ c ∈ candidate, c.OfScale s) :
    ((∃ result, narrow keyword base candidate = .ok result) ↔ Narrows base candidate) ∧
      (∀ result, narrow keyword base candidate = .ok result →
        result.Perm candidate ∧
          result.Pairwise fun a b => a.interval.low.toRat < b.interval.low.toRat) ∧
      ∀ other : List Constraint, other.Perm candidate →
        SameOutcome (narrow keyword base other) (narrow keyword base candidate) := by
  refine ⟨?_, fun result h => ?_, fun other hperm => ?_⟩
  · simp only [narrow_eq_ok_iff_narrows hbase hscale, exists_and_left, exists_eq, and_true]
  · have hordered := narrow_ordered hscale h
    have hseparated := narrow_separated hscale h
    obtain ⟨-, rfl⟩ := (narrow_eq_ok_iff_narrows hbase hscale).mp h
    exact ⟨sortByLow_perm candidate,
      hseparated.imp_of_mem fun ha _ hab => lt_of_le_of_lt (hordered _ ha) hab⟩
  · exact narrow_sameOutcome_of_perm hbase hscale hperm

/-- An interval from an integer to a decimal, before one that starts lower; the
base has an interval for each of them. -/
theorem narrow_decides_narrows_mixed_bounds :
    let decimal := fun (n : ℤ) (fits : FitsSigned 64 n) =>
      Number.decimal ⟨1, n, by decide, fits⟩
    let interval := fun low high => Constraint.make .range ⟨low, high⟩ .none
    let base := [interval (.integer 20) (.integer 30), interval (.integer 1) (.integer 10)]
    let upper := interval (.integer 25) (decimal 285 (by decide))
    let lower := interval (decimal 25 (by decide)) (.integer 10)
    (∀ b ∈ base, b.OfScale 1) ∧ (∀ c ∈ [upper, lower], c.OfScale 1) ∧
      narrow .range base [upper, lower] = .ok [lower, upper] ∧
      Narrows base [upper, lower] ∧
      SameOutcome (narrow .range base [lower, upper]) (narrow .range base [upper, lower]) := by
  intro decimal interval base upper lower
  have hbase : ∀ b ∈ base, b.OfScale 1 := by
    simp [base, interval, Constraint.OfScale, Interval.OfScale, Number.OfScale, Constraint.make,
      Number.form]
  have hscale : ∀ c ∈ [upper, lower], c.OfScale 1 := by
    simp [upper, lower, interval, decimal, Constraint.OfScale, Interval.OfScale, Number.OfScale,
      Constraint.make, Number.form]
  have hnarrow : narrow .range base [upper, lower] = .ok [lower, upper] := rfl
  have hdecides := narrow_decides_narrows .range hbase hscale
  exact ⟨hbase, hscale, hnarrow, hdecides.1.mp ⟨_, hnarrow⟩, hdecides.2.2 _ (.swap ..)⟩

end

end YangTypes
