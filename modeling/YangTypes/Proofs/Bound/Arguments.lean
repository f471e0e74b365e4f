import Mathlib.Data.List.DropRight
import Mathlib.Tactic
import YangTypes.Proofs.Bound.Notation

/-!
What reading an argument of `range` or `length` gives, for every text.

* `Text.length_splitOnP`: a text falls into one part more than it has bars.
* `Text.trimChars_trimChars`: trimming twice is trimming once, because what is
  left does not begin or end with a blank.
* `BoundEnd.Tidy`: a literal that is neither empty nor a keyword and has no
  blanks around it. Every end that is read is tidy (`BoundPair.tidy_of_read`).
* `BoundPair.parseList_reads_back`: every written argument is read as the list
  that was written, and every list that is read has a part for each bar and one
  more, with tidy ends.
-/

namespace YangTypes

namespace Text

/-! ### Parts of a text -/

lemma length_splitOnP {α : Type} (p : α → Bool) (xs : List α) :
    (xs.splitOnP p).length = xs.countP p + 1 := by
  induction xs with
  | nil => rfl
  | cons x xs ih =>
      rw [List.splitOnP_cons_eq_if_modifyHead]
      split
      next hx => rw [List.length_cons, ih, List.countP_cons_of_pos hx]
      next hx => rw [List.length_modifyHead, ih, List.countP_cons_of_neg hx]

/-! ### Trimming -/

lemma trimChars_eq (cs : List Char) :
    trimChars cs = (cs.dropWhile isBlank).rdropWhile isBlank := rfl

/-- What is left after trimming does not begin with a blank. -/
lemma dropWhile_trimChars (cs : List Char) : (trimChars cs).dropWhile isBlank = trimChars cs := by
  have hstart : trimChars cs <+: cs.dropWhile isBlank := List.rdropWhile_prefix _ _
  refine List.dropWhile_eq_self_iff.mpr fun hlength => ?_
  rw [hstart.getElem hlength]
  exact List.dropWhile_get_zero_not _ _ _

lemma trimChars_trimChars (cs : List Char) : trimChars (trimChars cs) = trimChars cs := by
  rw [trimChars_eq (trimChars cs), dropWhile_trimChars, trimChars_eq, List.rdropWhile_idempotent]

end Text

open Text

/-! ### Ends that are read -/

namespace BoundEnd

/-- A keyword, or a literal that is neither empty nor a keyword and has no blanks
around it. -/
def Tidy : BoundEnd → Prop
  | min => True
  | max => True
  | literal text => text ≠ "" ∧ trim text = text ∧ text ≠ "min" ∧ text ≠ "max"

lemma tidy_of_read {cs : List Char} {e : BoundEnd} (h : read cs = .ok e) : e.Tidy := by
  have htrim : trim (String.ofList (trimChars cs)) = String.ofList (trimChars cs) := by
    rw [trim, String.toList_ofList, trimChars_trimChars]
  rw [read] at h
  split at h
  next => simp at h
  next =>
    obtain rfl := Except.ok.inj h
    trivial
  next =>
    obtain rfl := Except.ok.inj h
    trivial
  next hempty hmin hmax =>
    obtain rfl := Except.ok.inj h
    exact ⟨hempty, htrim, hmin, hmax⟩

end BoundEnd

namespace BoundPair

/-- Both ends of a part that is read are tidy. -/
lemma tidy_of_read {cs : List Char} {p : BoundPair} (h : read cs = .ok p) :
    p.low.Tidy ∧ p.high.Tidy := by
  rw [read] at h
  split at h
  next low high _ =>
    simp only [bind_eq_ok, pure_eq_ok] at h
    obtain ⟨l, hl, u, hu, rfl⟩ := h
    exact ⟨BoundEnd.tidy_of_read hl, BoundEnd.tidy_of_read hu⟩
  next =>
    simp only [bind_eq_ok, pure_eq_ok] at h
    obtain ⟨e, he, rfl⟩ := h
    exact ⟨BoundEnd.tidy_of_read he, BoundEnd.tidy_of_read he⟩

lemma parseList_eq_ok {text : String} {pairs : List BoundPair} : parseList text = .ok pairs ↔
    List.Forall₂ (fun part p => read part = .ok p) (text.toList.splitOnP (· == '|')) pairs := by
  rw [parseList, mapM_eq_ok]

/-- **Arguments are read back.** However a list of parts is written, with blanks
around each end and with one end for two equal ones or with both, reading gives
the list. A list that is read from any text has one part more than the text has
bars, so it is not empty, and its literals are neither empty nor keywords and
have no blanks around them. -/
theorem parseList_reads_back :
    (∀ (pairs : List BoundPair) (parts : List (List Char)), pairs ≠ [] →
      List.Forall₂ Written pairs parts →
        parseList (String.ofList (['|'].intercalate parts)) = .ok pairs) ∧
    ∀ (text : String) (pairs : List BoundPair), parseList text = .ok pairs →
      pairs.length = text.toList.count '|' + 1 ∧ pairs ≠ [] ∧
        ∀ p ∈ pairs, p.low.Tidy ∧ p.high.Tidy := by
  constructor
  · intro pairs parts hne hwritten
    refine parseList_intercalate hwritten ?_
    rintro rfl
    exact hne (List.forall₂_nil_right_iff.mp hwritten)
  · intro text pairs hread
    rw [parseList_eq_ok] at hread
    have hlength : pairs.length = text.toList.count '|' + 1 := by
      rw [← hread.length_eq, length_splitOnP, List.count]
    refine ⟨hlength, ?_, ?_⟩
    · rintro rfl
      simp at hlength
    · have htidy := hread.flip.imp fun p part h => And.intro (tidy_of_read h) h
      exact ((List.forall₂_and_left _ _).mp htidy).1

/-- A keyword, a number with a point next to blanks of several kinds, and a single
number. -/
theorem parseList_reads_back_blanks :
    let pairs : List BoundPair := [⟨.min, .literal "-1.5"⟩, ⟨.literal "+42", .literal "+42"⟩]
    let parts : List (List Char) := ["min ..\u2003-1.5\t".toList, " +42".toList]
    pairs ≠ [] ∧ List.Forall₂ Written pairs parts ∧
      parseList (String.ofList (['|'].intercalate parts)) = .ok pairs ∧
      pairs.length = (String.ofList (['|'].intercalate parts)).toList.count '|' + 1 := by
  intro pairs parts
  have hblank : Blank [] ∧ Blank [' '] ∧ Blank ['\u2003'] ∧ Blank ['\t'] := by
    simp [Blank, isBlank]
  have hfraction : ∃ q, DecimalLiteral "-1.5" q :=
    ⟨_, .minus (.fraction (show IsDigits ['1'] by decide) (show IsDigits ['5'] by decide))⟩
  have hinteger : ∃ q, DecimalLiteral "+42" q :=
    ⟨_, .plus (.integer (show IsDigits ['4', '2'] by decide))⟩
  have hmin : BoundEnd.Written .min "min ".toList :=
    ⟨trivial, [], [' '], hblank.1, hblank.2.1, rfl⟩
  have hhigh : BoundEnd.Written (.literal "-1.5") "\u2003-1.5\t".toList :=
    ⟨hfraction, ['\u2003'], ['\t'], hblank.2.2.1, hblank.2.2.2, rfl⟩
  have hsingle : BoundEnd.Written (.literal "+42") " +42".toList :=
    ⟨hinteger, [' '], [], hblank.2.1, hblank.1, rfl⟩
  have hne : pairs ≠ [] := by simp [pairs]
  have hwritten : List.Forall₂ Written pairs parts :=
    .cons (.two hmin hhigh) (.cons (.one hsingle) .nil)
  have hread := parseList_reads_back.1 pairs parts hne hwritten
  exact ⟨hne, hwritten, hread, (parseList_reads_back.2 _ pairs hread).1⟩

end BoundPair

end YangTypes
