import Mathlib.Tactic
import YangTypes.Derivation.Narrowing
import YangTypes.Proofs.Bound.Value

/-!
What `narrow` makes of a candidate.

* **The result.** `narrow_eq_ok_iff` says once when narrowing succeeds and with
  what; no later proof opens `narrow`. The result is the candidate sorted by its
  lower ends: `sortByLow_perm` and `sortByLow_sorted`.
* **Separation.** Only neighbours are tested for a common number, but in a
  sorted list this separates every pair (`separated_of_overlapping?_eq_none`):
  what ends before its neighbour starts ends before everything after it.
* **Narrowing as sets.** Every number in the result is in the base
  (`narrow_contains`). An empty list of constraints is read as no restriction,
  so the lists behave like the sets unless the candidate is empty
  (`narrow_check_base`).
-/

namespace YangTypes

namespace Constraint

/-- Both ends of a constraint are of a scale. -/
def OfScale (s : ℕ) (c : Constraint) : Prop := c.interval.OfScale s

/-- The least number of a constraint is not above its greatest. -/
def Ordered (c : Constraint) : Prop := c.interval.low.toRat ≤ c.interval.high.toRat

/-- A constraint ends before another one starts. -/
def Before (a b : Constraint) : Prop := a.interval.high.toRat < b.interval.low.toRat

/-- A number is accepted if there is no constraint, or if it lies in one. -/
lemma check_eq_ok_iff (cs : List Constraint) (n : Number) :
    check cs n = .ok () ↔ cs = [] ∨ ∃ c ∈ cs, c.interval.contains n = true := by
  cases cs with
  | nil => simp [check]
  | cons c cs =>
      have hadmits : admits (c :: cs) n = true ↔ ∃ d ∈ c :: cs, d.interval.contains n = true := by
        rw [admits, List.isEmpty_cons, Bool.false_or, List.any_eq_true]
      rw [check, ← hadmits]
      by_cases h : admits (c :: cs) n = true <;> simp [h]

end Constraint

/-! ### Sorting by lower ends -/

lemma insertByLow_perm (c : Constraint) (cs : List Constraint) :
    (insertByLow c cs).Perm (c :: cs) := by
  induction cs with
  | nil => rfl
  | cons d cs ih =>
      rw [insertByLow]
      split
      · exact (ih.cons d).trans (List.Perm.swap c d cs)
      · rfl

lemma foldl_insertByLow_perm (cs : List Constraint) (sorted : List Constraint) :
    (cs.foldl (fun sorted c => insertByLow c sorted) sorted).Perm (cs ++ sorted) := by
  induction cs generalizing sorted with
  | nil => rfl
  | cons c cs ih =>
      rw [List.foldl_cons, List.cons_append]
      exact (ih (insertByLow c sorted)).trans
        (((insertByLow_perm c sorted).append_left cs).trans List.perm_middle)

/-- Sorting keeps every constraint as often as it occurs. -/
lemma sortByLow_perm (cs : List Constraint) : (sortByLow cs).Perm cs := by
  rw [sortByLow]
  refine (List.reverse_perm _).trans ?_
  simpa using foldl_insertByLow_perm cs []

lemma mem_sortByLow {c : Constraint} {cs : List Constraint} : c ∈ sortByLow cs ↔ c ∈ cs :=
  (sortByLow_perm cs).mem_iff

/-- Lower ends do not rise along a list, which is how the loop keeps it. -/
def Falling (cs : List Constraint) : Prop :=
  cs.Pairwise fun a b => b.interval.low.toRat ≤ a.interval.low.toRat

/-- Insertion keeps the lower ends falling. -/
lemma Falling.insertByLow {s : ℕ} {c : Constraint} {cs : List Constraint} (hc : c.OfScale s)
    (hcs : ∀ d ∈ cs, d.OfScale s) (h : Falling cs) : Falling (insertByLow c cs) := by
  induction cs with
  | nil => exact List.pairwise_singleton _ _
  | cons d cs ih =>
      obtain ⟨hd, htail⟩ := List.pairwise_cons.mp h
      have hcomp := hc.1.comparable (hcs d (by simp)).1
      rw [YangTypes.insertByLow]
      split
      next hlt =>
        rw [Number.order_eq_lt_iff hcomp] at hlt
        refine List.pairwise_cons.mpr ⟨?_, ih (fun e he => hcs e (by simp [he])) htail⟩
        intro e he
        rcases List.mem_cons.mp ((insertByLow_perm c cs).mem_iff.mp he) with rfl | he'
        · exact hlt.le
        · exact hd e he'
      next hge =>
        rw [Number.order_eq_lt_iff hcomp, not_lt] at hge
        refine List.pairwise_cons.mpr ⟨?_, h⟩
        intro e he
        rcases List.mem_cons.mp he with rfl | he'
        · exact hge
        · exact (hd e he').trans hge

lemma Falling.foldl_insertByLow {s : ℕ} {cs sorted : List Constraint}
    (hcs : ∀ c ∈ cs, c.OfScale s) (hsorted : ∀ c ∈ sorted, c.OfScale s) (h : Falling sorted) :
    Falling (cs.foldl (fun sorted c => YangTypes.insertByLow c sorted) sorted) := by
  induction cs generalizing sorted with
  | nil => exact h
  | cons c cs ih =>
      have hc := hcs c (by simp)
      refine ih (fun d hd => hcs d (by simp [hd])) (fun d hd => ?_) (h.insertByLow hc hsorted)
      rcases List.mem_cons.mp ((insertByLow_perm c sorted).mem_iff.mp hd) with rfl | hd'
      · exact hc
      · exact hsorted d hd'

/-- On constraints of one scale the result is sorted by the lower ends. -/
lemma sortByLow_sorted {s : ℕ} {cs : List Constraint} (hcs : ∀ c ∈ cs, c.OfScale s) :
    (sortByLow cs).Pairwise fun a b => a.interval.low.toRat ≤ b.interval.low.toRat := by
  rw [sortByLow, List.pairwise_reverse]
  exact Falling.foldl_insertByLow hcs (by simp) List.Pairwise.nil

lemma foldl_insertByLow_of_rising {cs sorted : List Constraint}
    (h : (sorted.reverse ++ cs).Pairwise fun a b =>
      b.interval.low.order a.interval.low ≠ .lt) :
    cs.foldl (fun sorted c => insertByLow c sorted) sorted = cs.reverse ++ sorted := by
  induction cs generalizing sorted with
  | nil => rfl
  | cons c cs ih =>
      have hinsert : insertByLow c sorted = c :: sorted := by
        cases sorted with
        | nil => rfl
        | cons other rest =>
            rw [insertByLow, if_neg]
            exact (List.pairwise_append.mp h).2.2 other (by simp) c (by simp)
      rw [List.foldl_cons, hinsert, ih (by simpa using h), List.reverse_cons, List.append_assoc]
      rfl

/-- A list whose lower ends do not fall is sorted already. -/
lemma sortByLow_eq_self {cs : List Constraint}
    (h : cs.Pairwise fun a b => b.interval.low.order a.interval.low ≠ .lt) :
    sortByLow cs = cs := by
  rw [sortByLow, foldl_insertByLow_of_rising (by simpa using h), List.append_nil,
    List.reverse_reverse]

lemma overlapping?_eq_none {cs : List Constraint}
    (h : cs.Pairwise fun a b => a.interval.overlaps b.interval = false) :
    overlapping? cs = none := by
  induction cs with
  | nil => rfl
  | cons a cs ih =>
      cases cs with
      | nil => rfl
      | cons b cs =>
          obtain ⟨hfirst, hrest⟩ := List.pairwise_cons.mp h
          rw [overlapping?, hfirst b (by simp), if_neg Bool.false_ne_true, ih hrest]

/-! ### The result of narrowing -/

/-- Narrowing succeeds if every interval is in order, no two neighbours of the
sorted candidate share a number, and each interval lies within one of the
base; the result is the sorted candidate. -/
theorem narrow_eq_ok_iff {keyword : BoundKeyword} {base candidate result : List Constraint} :
    narrow keyword base candidate = .ok result ↔
      (∀ c ∈ candidate, c.interval.low.le c.interval.high = true) ∧
      overlapping? (sortByLow candidate) = none ∧
      (∀ c ∈ candidate, ∃ b ∈ base, b.interval.encloses c.interval = true) ∧
      result = sortByLow candidate := by
  have hfind : ∀ p : Constraint → Bool, ∀ cs : List Constraint,
      (cs.find? fun c => !p c) = none ↔ ∀ c ∈ cs, p c = true := by
    intro p cs
    simp
  have hbase : (∀ c ∈ candidate, ∃ b ∈ base, b.interval.encloses c.interval = true) ↔
      ((sortByLow candidate).find? fun c => !base.any fun b => b.interval.encloses c.interval)
        = none := by
    rw [hfind fun c => base.any fun b => b.interval.encloses c.interval]
    simp only [mem_sortByLow, List.any_eq_true]
  rw [narrow, hbase, ← hfind fun c => c.interval.low.le c.interval.high]
  -- the three tests in turn: each failure is an error on the left and false on the right
  cases hrev : candidate.find? fun c => !c.interval.low.le c.interval.high with
  | some c => simp
  | none =>
      cases hover : overlapping? (sortByLow candidate) with
      | some pair => simp [hover]
      | none =>
          cases hout : (sortByLow candidate).find? fun c =>
              !base.any fun b => b.interval.encloses c.interval with
          | some c => simp [hover, hout]
          | none => simp [hover, hout, eq_comm]

/-- In a sorted list of intervals in order, neighbours without a common number
leave no two intervals with one. -/
lemma separated_of_overlapping?_eq_none {s : ℕ} {cs : List Constraint}
    (hscale : ∀ c ∈ cs, c.OfScale s) (hordered : ∀ c ∈ cs, c.Ordered)
    (hsorted : cs.Pairwise fun a b => a.interval.low.toRat ≤ b.interval.low.toRat)
    (h : overlapping? cs = none) : cs.Pairwise Constraint.Before := by
  induction cs with
  | nil => exact List.Pairwise.nil
  | cons a cs ih =>
      cases cs with
      | nil => exact List.pairwise_singleton _ _
      | cons b cs =>
          have ha := hscale a (by simp)
          have hb := hscale b (by simp)
          rw [overlapping?] at h
          split at h
          next => simp at h
          next hno =>
            obtain ⟨hlow, htail⟩ := List.pairwise_cons.mp hsorted
            have hab : a.Before b := by
              rw [Interval.overlaps_iff ha hb, not_and, not_le] at hno
              exact hno ((hlow b (by simp)).trans (hordered b (by simp)))
            refine List.pairwise_cons.mpr ⟨fun c hc => ?_, ih
              (fun c hc => hscale c (List.mem_cons_of_mem a hc))
              (fun c hc => hordered c (List.mem_cons_of_mem a hc)) htail h⟩
            -- whatever follows the neighbour starts no earlier than it
            rcases List.mem_cons.mp hc with rfl | hc'
            · exact hab
            · exact lt_of_lt_of_le hab ((List.pairwise_cons.mp htail).1 c hc')

section

variable {s : ℕ} {keyword : BoundKeyword} {base candidate result : List Constraint}

/-- Every interval of the result is in order. -/
lemma narrow_ordered (hscale : ∀ c ∈ candidate, c.OfScale s)
    (h : narrow keyword base candidate = .ok result) : ∀ c ∈ result, c.Ordered := by
  obtain ⟨hle, -, -, rfl⟩ := narrow_eq_ok_iff.mp h
  intro c hc
  have hc' := mem_sortByLow.mp hc
  have hs := hscale c hc'
  exact (Number.le_iff (hs.1.comparable hs.2)).mp (hle c hc')

/-- Every interval of the result ends before the ones after it start. -/
lemma narrow_separated (hscale : ∀ c ∈ candidate, c.OfScale s)
    (h : narrow keyword base candidate = .ok result) : result.Pairwise Constraint.Before := by
  have hordered := narrow_ordered hscale h
  obtain ⟨-, hno, -, rfl⟩ := narrow_eq_ok_iff.mp h
  exact separated_of_overlapping?_eq_none (fun c hc => hscale c (mem_sortByLow.mp hc)) hordered
    (sortByLow_sorted hscale) hno

/-- The result accepts what the candidate accepts. -/
lemma narrow_check_iff (h : narrow keyword base candidate = .ok result) (n : Number) :
    Constraint.check result n = .ok () ↔ Constraint.check candidate n = .ok () := by
  obtain ⟨-, -, -, rfl⟩ := narrow_eq_ok_iff.mp h
  have hnil : sortByLow candidate = [] ↔ candidate = [] := by
    rw [← List.length_eq_zero_iff, ← List.length_eq_zero_iff, (sortByLow_perm candidate).length_eq]
  simp only [Constraint.check_eq_ok_iff, hnil, mem_sortByLow]

/-- A number in an interval of the candidate is in an interval of the base. -/
lemma narrow_contains (hbase : ∀ c ∈ base, c.OfScale s) (hscale : ∀ c ∈ candidate, c.OfScale s)
    (h : narrow keyword base candidate = .ok result) {n : Number} (hn : n.OfScale s)
    (hex : ∃ c ∈ candidate, c.interval.contains n = true) :
    ∃ b ∈ base, b.interval.contains n = true := by
  obtain ⟨c, hc, hcn⟩ := hex
  obtain ⟨-, -, henc, -⟩ := narrow_eq_ok_iff.mp h
  obtain ⟨b, hb, hbc⟩ := henc c hc
  exact ⟨b, hb, Interval.contains_of_encloses (hbase b hb) (hscale c hc) hn hbc hcn⟩

/-- A candidate with at least one interval accepts only what the base accepts. -/
lemma narrow_check_base (hbase : ∀ c ∈ base, c.OfScale s) (hscale : ∀ c ∈ candidate, c.OfScale s)
    (hne : candidate ≠ []) (h : narrow keyword base candidate = .ok result) {n : Number}
    (hn : n.OfScale s) (hcheck : Constraint.check result n = .ok ()) :
    Constraint.check base n = .ok () := by
  rw [narrow_check_iff h, Constraint.check_eq_ok_iff] at hcheck
  rw [Constraint.check_eq_ok_iff]
  exact .inr (narrow_contains hbase hscale h hn (hcheck.resolve_left hne))

end

/-! ### Narrowing and the empty list -/

/-- **Exactly when a narrowed list of integer intervals accepts only what its
base accepts**: unless the candidate is empty, which is read as no restriction
at all and so accepts also what the base does not. -/
theorem narrow_accepts_only_base_iff {keyword : BoundKeyword}
    {base candidate result : List Constraint}
    (hbase : ∀ c ∈ base, c.interval.HasForm .integer)
    (hcandidate : ∀ c ∈ candidate, c.interval.HasForm .integer)
    (h : narrow keyword base candidate = .ok result) (n : Number) :
    (Constraint.check result n = .ok () → Constraint.check base n = .ok ()) ↔
      candidate ≠ [] ∨ Constraint.check base n = .ok () := by
  constructor
  · intro himp
    rcases eq_or_ne candidate [] with rfl | hne
    · refine .inr (himp ?_)
      rw [narrow_check_iff h, Constraint.check_eq_ok_iff]
      exact .inl rfl
    · exact .inl hne
  · rintro (hne | hcheck) hresult
    · -- the number fixes the scale in which all comparisons are made
      exact narrow_check_base (fun c hc => (hbase c hc).ofScale_integer _)
        (fun c hc => (hcandidate c hc).ofScale_integer _) hne h n.ofScale_form hresult
    · exact hcheck

/-- Two intervals out of order within two intervals of the base. -/
theorem narrow_accepts_only_base_two_intervals :
    let interval := fun low high : ℤ =>
      Constraint.make .range ⟨.integer low, .integer high⟩ .none
    let base := [interval 1 10, interval 20 30]
    let candidate := [interval 25 28, interval 2 4]
    let result := [interval 2 4, interval 25 28]
    narrow .range base candidate = .ok result ∧
      ((Constraint.check result (.integer 26) = .ok () →
          Constraint.check base (.integer 26) = .ok ()) ↔
        candidate ≠ [] ∨ Constraint.check base (.integer 26) = .ok ()) := by
  intro interval base candidate result
  have h : narrow .range base candidate = .ok result := rfl
  refine ⟨h, narrow_accepts_only_base_iff ?_ ?_ h _⟩
  · simp [base, interval, Constraint.make, Interval.HasForm, Number.form]
  · simp [candidate, interval, Constraint.make, Interval.HasForm, Number.form]

/-- The empty candidate is accepted on every base and lifts its restriction:
11 is not in `1..10`, but it is accepted after narrowing. -/
theorem narrow_empty_candidate_widens :
    let base := [Constraint.make .range ⟨.integer 1, .integer 10⟩ .none]
    narrow .range base [] = .ok [] ∧ Constraint.check [] (.integer 11) = .ok () ∧
      Constraint.check base (.integer 11) ≠ .ok () :=
  ⟨rfl, rfl, nofun⟩

end YangTypes
