import YangTypes.Pattern.Basic
import YangTypes.Proofs.Outcome
import YangTypes.Proofs.Pattern.Tokens

/-!
The anchors around the expression of a pattern.

An expression opens a group after its first anchor and closes it before its last
one. It is matched against whole values if nothing in between closes that group.

* `expression_enclosed_iff_balanced`: of the patterns whose expressions are
  balanced, those keep the group open that are balanced themselves;
* `expression_broken_out_of`: a pattern that closes the group and opens another
  one has a balanced expression too, and accepts values of which it matches a
  part.
-/

namespace YangTypes

/-! ### Expressions that compare the same -/

namespace Regex.Expr

mutual

lemma eq_of_same (a b : Expr) (h : a.same b = true) : a = b := by
  cases a <;> cases b <;>
    simp only [same, Bool.and_eq_true, beq_iff_eq, reduceCtorEq] at h
  case empty.empty => rfl
  case literal.literal => rw [h]
  case chars.chars => rw [h.1, h.2]
  case look.look => rw [h]
  case capture.capture a _ b => rw [h.1, eq_of_same a b h.2]
  case rep.rep a _ _ _ b => rw [h.1.1.1, h.1.1.2, h.1.2, eq_of_same a b h.2]
  case seq.seq as bs => rw [eq_of_sameParts as bs h]
  case alt.alt as bs => rw [eq_of_sameParts as bs h]

lemma eq_of_sameParts (as bs : List Expr) (h : sameParts as bs = true) : as = bs := by
  cases as <;> cases bs <;> simp only [sameParts, Bool.and_eq_true, reduceCtorEq] at h
  case nil.nil => rfl
  case cons.cons a as b bs => rw [eq_of_same a b h.1, eq_of_sameParts as bs h.2]

end

end Regex.Expr

namespace Pattern

open Scan

/-! ### The group of an expression -/

/-- The group that is opened by the second character of a text is not closed
before the last but one. -/
def Enclosed (cs : List Char) : Prop := ∀ i, 2 ≤ i → i + 2 ≤ cs.length → 1 ≤ depthAt cs i

lemma expression_toList (pattern : String) :
    (expression pattern).toList = ['^', '(', '?', ':'] ++ (body pattern.toList ++ [')', '$']) := by
  simp [expression, expressionChars]

/-- Inside of the group, an expression is one group deeper than its pattern. -/
lemma after_open_group : start.after ['^', '(', '?', ':'] = start.raise 1 := rfl

lemma after_expression (pattern : String) :
    start.after (expression pattern).toList =
      ((start.after pattern.toList).raise 1).after [')', '$'] := by
  rw [expression_toList, after_append, after_append, after_open_group, after_raise,
    (alike_body pattern.toList).after_eq]

/-- The last two characters close a group, unless they are taken by a backslash
or by a class. -/
lemma depth_after_close_group (s : Scan) :
    (s.after [')', '$']).depth = s.depth - 1 ∨ (s.after [')', '$']).depth = s.depth := by
  obtain ⟨_ | _, _ | k, d⟩ := s <;> simp [next]

lemma depthAt_expression (pattern : String) {i : ℕ} (hi : i ≤ (body pattern.toList).length) :
    depthAt (expression pattern).toList (i + 4) =
      ((start.raise 1).after ((body pattern.toList).take i)).depth := by
  have htake : (expression pattern).toList.take (i + 4) =
      ['^', '(', '?', ':'] ++ (body pattern.toList).take i := by
    rw [expression_toList, List.take_append, List.take_append_of_le_length (by simpa using hi)]
    simp
  rw [depthAt, htake, after_append, after_open_group]

lemma enclosed_expression_iff (pattern : String) :
    Enclosed (expression pattern).toList ↔ start.Above 0 pattern.toList := by
  have hlength : (expression pattern).toList.length = (body pattern.toList).length + 6 := by
    simp [expression_toList]
  rw [(alike_body pattern.toList).above_iff, ← above_raise 1, above_iff, Enclosed, hlength]
  constructor
  · intro h i hi
    rw [← depthAt_expression pattern hi]
    exact h (i + 4) (by omega) (by omega)
  · intro h i hlow hhigh
    rcases lt_or_ge i 4 with hi | hi
    · -- the question mark and the colon after the parenthesis do not count
      have hopen : depthAt (expression pattern).toList i = 1 := by
        rw [expression_toList]
        obtain rfl | rfl : i = 2 ∨ i = 3 := by omega
        · rfl
        · rfl
      exact hopen.ge
    · obtain ⟨j, rfl⟩ := Nat.exists_eq_add_of_le' hi
      have hj : j ≤ (body pattern.toList).length := by omega
      rw [depthAt_expression pattern hj]
      exact h j hj

lemma balanced_iff (cs : List Char) :
    Balanced cs ↔ start.Above 0 cs ∧ (start.after cs).depth = 0 := by
  rw [above_iff]
  constructor
  · intro h
    refine ⟨h.nonneg, ?_⟩
    have hclosed := h.closed
    rwa [depthAt, List.take_length] at hclosed
  · rintro ⟨hnonneg, hclosed⟩
    exact ⟨hnonneg, by rwa [depthAt, List.take_length]⟩

/-- **A balanced expression keeps its group open exactly if the pattern is
balanced itself.** -/
theorem expression_enclosed_iff_balanced (pattern : String)
    (h : Balanced (expression pattern).toList) :
    Enclosed (expression pattern).toList ↔ Balanced pattern.toList := by
  rw [enclosed_expression_iff, balanced_iff]
  refine ⟨fun habove => ⟨habove, ?_⟩, And.left⟩
  have hend : 0 ≤ (start.after pattern.toList).depth := by
    rw [above_iff] at habove
    simpa using habove pattern.toList.length le_rfl
  have hclosed := ((balanced_iff _).mp h).2
  rw [after_expression] at hclosed
  -- were the last parenthesis taken by the pattern, the group would stay open
  rcases depth_after_close_group ((start.after pattern.toList).raise 1) with hdepth | hdepth
  · simp only [raise] at hdepth hclosed
    omega
  · simp only [raise] at hdepth hclosed
    omega

/-- Groups, a class with parentheses in it, an escaped parenthesis, a block and
a dollar sign. -/
theorem expression_enclosed_iff_balanced_nested :
    let pattern := "((a)|[()])\\)\\p\x7bIsGreek\x7d$"
    Balanced (expression pattern).toList ∧ Balanced pattern.toList ∧
      Enclosed (expression pattern).toList := by
  intro pattern
  have hexpression : Balanced (expression pattern).toList := by decide +kernel
  have hpattern : Balanced pattern.toList := by decide +kernel
  exact ⟨hexpression, hpattern,
    (expression_enclosed_iff_balanced pattern hexpression).mpr hpattern⟩

lemma exists_make_of_parse {regex : String} {expr : Regex.Expr} (inverted : Bool)
    (declared : RestrictionDoc) (h : Regex.parse (expression regex) = .ok expr) :
    ∃ p, make regex inverted declared = .ok p ∧ p.expr = expr ∧ p.inverted = inverted := by
  unfold make
  split
  next e herror => exact absurd (herror.symm.trans h) nofun
  next expr' hexpr =>
    obtain rfl := Except.ok.inj (hexpr.symm.trans h)
    exact ⟨_, rfl, rfl, rfl⟩

/-- **The group can be broken out of.** A pattern that closes the group and
opens another one has a balanced expression, but neither of the two parts is
held by both anchors: the pattern accepts a value of which it matches the start
only. -/
theorem expression_broken_out_of :
    let pattern := "a)|(b"
    Balanced (expression pattern).toList ∧ ¬ Enclosed (expression pattern).toList ∧
      ∃ p, make pattern false .none = .ok p ∧ p.accepts "ax" = true := by
  intro pattern
  refine ⟨by decide +kernel, fun h => ?_, ?_⟩
  · have hdepth : depthAt (expression pattern).toList 6 = 0 := by decide +kernel
    have hsix := h 6 (by decide) (by decide +kernel)
    omega
  · let expr : Regex.Expr := .alt [.seq [.look .textStart, .literal ['a']],
      .seq [.capture 1 (.literal ['b']), .look .textEnd]]
    have hsame : (Regex.parse (expression pattern)).toOption.any expr.same = true := by
      decide +kernel
    obtain ⟨expr', hexpr', heq⟩ := (Option.any_eq_true _ _).mp hsame
    obtain rfl := Regex.Expr.eq_of_same expr expr' heq
    obtain ⟨p, hp, hpexpr, hpinverted⟩ :=
      exists_make_of_parse false .none (toOption_eq_some.mp hexpr')
    have hlog : Nat.log2 3 = 1 := by decide
    refine ⟨p, hp, ?_⟩
    simp [accepts, isMatch, hpexpr, hpinverted, expr, Regex.Expr.isMatch, Regex.Expr.place,
      Regex.Expr.placeParts, Regex.Expr.placeAlternatives, Regex.Placed.run,
      Regex.Subject.ofList, Regex.Subject.charPositions, Regex.Subject.lookPositions,
      Regex.Subject.allPositions, Regex.positionsWhere, Regex.positionsFrom, Regex.Look.holds,
      Std.HashMap.getD_insert, twoPow, hlog]

end Pattern

end YangTypes
