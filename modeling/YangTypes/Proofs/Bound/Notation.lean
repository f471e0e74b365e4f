import Mathlib.Tactic
import YangTypes.Bound.Argument
import YangTypes.Proofs.Decimal.Equality
import YangTypes.Proofs.Decimal.Writing
import YangTypes.Proofs.Outcome

/-!
Written arguments of `range` and `length`, and how they are read.

* `BoundEnd.Written`, `BoundPair.Written`: the ways to write an end and a part.
  Blanks may stand around each end, and a part with two equal ends may be
  written as one.
* `Skips`: text in which two dots are not found, whatever follows it. A number
  has a single point in it, with a digit after it, so the two dots that divide a
  part are the first ones (`Signed.skips`).
* `BoundPair.Written.read`, `BoundPair.parseList_intercalate`: a part, and an
  argument, are read as they were written.
* `Interval.written_text`: the text of an interval is such a part.
-/

namespace YangTypes

namespace Text

/-! ### Blanks -/

/-- Blank characters only. -/
def Blank (cs : List Char) : Prop := ∀ c ∈ cs, isBlank c = true

/-- Blanks around a text without blanks are trimmed. -/
lemma trimChars_padded {before cs after : List Char} (hbefore : Blank before)
    (hafter : Blank after) (hcs : ∀ c ∈ cs, isBlank c = false) :
    trimChars (before ++ cs ++ after) = cs := by
  have hreverse : (after.reverse ++ cs.reverse).dropWhile isBlank = cs.reverse := by
    rw [List.dropWhile_append_of_pos fun c hc => hafter c (List.mem_reverse.mp hc)]
    refine List.dropWhile_eq_self_iff.mpr fun hlength => ?_
    rw [hcs _ (List.mem_reverse.mp (List.getElem_mem hlength))]
    simp
  rw [trimChars, List.append_assoc, List.dropWhile_append_of_pos hbefore]
  cases cs with
  | nil =>
      rw [List.nil_append, List.dropWhile_eq_nil_iff.mpr hafter]
      rfl
  | cons c cs =>
      rw [List.cons_append, List.dropWhile_cons_of_neg (by rw [hcs c (by simp)]; simp),
        ← List.cons_append, trimEndChars, List.reverse_append, hreverse, List.reverse_reverse]

/-! ### Characters of numbers -/

/-- The characters of written numbers. -/
def IsNumeral (c : Char) : Prop := IsDigit c ∨ c = '+' ∨ c = '-' ∨ c = '.'

lemma IsNumeral.not_blank {c : Char} (h : IsNumeral c) : isBlank c = false := by
  rcases h with h | rfl | rfl | rfl
  · have hbounds := isDigit_iff.mp h
    rw [← Bool.not_eq_true, isBlank]
    simp only [Bool.or_eq_true, Bool.and_eq_true, decide_eq_true_eq, beq_iff_eq]
    omega
  · decide
  · decide
  · decide

lemma UnsignedDecimal.isNumeral {cs : List Char} {q : ℚ} (h : UnsignedDecimal cs q) :
    ∀ c ∈ cs, IsNumeral c := by
  cases h with
  | integer h => exact fun c hc => .inl (h.2 c hc)
  | fraction h hf =>
      intro c hc
      rw [List.mem_append, List.mem_cons] at hc
      rcases hc with hc | rfl | hc
      · exact .inl (h.2 c hc)
      · exact .inr (.inr (.inr rfl))
      · exact .inl (hf.2 c hc)

lemma Signed.isNumeral {cs : List Char} {q : ℚ} (h : Signed UnsignedDecimal cs q) :
    ∀ c ∈ cs, IsNumeral c := by
  cases h with
  | plain h => exact h.isNumeral
  | plus h => exact List.forall_mem_cons.mpr ⟨.inr (.inl rfl), h.isNumeral⟩
  | minus h => exact List.forall_mem_cons.mpr ⟨.inr (.inr (.inl rfl)), h.isNumeral⟩

lemma UnsignedDecimal.ne_nil {cs : List Char} {q : ℚ} (h : UnsignedDecimal cs q) : cs ≠ [] := by
  cases h with
  | integer h => exact h.1
  | fraction h hf => simp

lemma Signed.ne_nil {cs : List Char} {q : ℚ} (h : Signed UnsignedDecimal cs q) : cs ≠ [] := by
  cases h with
  | plain h => exact h.ne_nil
  | plus h => simp
  | minus h => simp

/-! ### The first two dots -/

/-- Text in which two dots are not found, whatever follows it. -/
def Skips (cs : List Char) : Prop :=
  ∀ rest, splitAtFirst? ['.', '.'] (cs ++ rest) =
    (splitAtFirst? ['.', '.'] rest).map fun parts => (cs ++ parts.1, parts.2)

lemma Skips.append {as bs : List Char} (ha : Skips as) (hb : Skips bs) : Skips (as ++ bs) := by
  intro rest
  rw [List.append_assoc, ha, hb, Option.map_map]
  simp only [Function.comp_def, List.append_assoc]

/-- Text without points. -/
lemma skips_of_forall_ne {cs : List Char} (h : ∀ c ∈ cs, c ≠ '.') : Skips cs := by
  induction cs with
  | nil => exact fun rest => by simp
  | cons c cs ih =>
      intro rest
      have hc : ('.' == c) = false := beq_eq_false_iff_ne.mpr (h c (by simp)).symm
      have hcs := ih (fun d hd => h d (by simp [hd])) rest
      rw [List.cons_append, splitAtFirst?, List.isPrefixOf_cons_cons, hc, Bool.false_and,
        if_neg Bool.false_ne_true, hcs, Option.map_map]
      rfl

/-- A point with something else after it. -/
lemma skips_point {c : Char} (h : c ≠ '.') : Skips ['.', c] := by
  intro rest
  have hc : ('.' == c) = false := beq_eq_false_iff_ne.mpr h.symm
  have hskips : Skips [c] := skips_of_forall_ne (by simpa using h)
  have hrest := hskips rest
  rw [List.cons_append, splitAtFirst?, List.cons_append, List.isPrefixOf_cons_cons,
    List.isPrefixOf_cons_cons, hc, Bool.false_and, Bool.and_false, if_neg Bool.false_ne_true]
  rw [List.cons_append] at hrest
  rw [hrest, Option.map_map]
  rfl

lemma skips_of_blank {cs : List Char} (h : Blank cs) : Skips cs := by
  refine skips_of_forall_ne fun c hc => ?_
  rintro rfl
  exact absurd (h _ hc) (by decide)

lemma UnsignedDecimal.skips {cs : List Char} {q : ℚ} (h : UnsignedDecimal cs q) : Skips cs := by
  have hdigits : ∀ {ds : List Char}, (∀ c ∈ ds, IsDigit c) → Skips ds :=
    fun h => skips_of_forall_ne fun c hc => (h c hc).ne_point
  cases h with
  | integer h => exact hdigits h.2
  | @fraction cs fs h hf =>
      obtain ⟨f, rest, rfl⟩ := List.exists_cons_of_ne_nil hf.1
      have hfirst : Skips ['.', f] := skips_point (hf.2 f (by simp)).ne_point
      have hrest : Skips rest := hdigits fun c hc => hf.2 c (by simp [hc])
      exact (hdigits h.2).append (hfirst.append hrest)

lemma Signed.skips {cs : List Char} {q : ℚ} (h : Signed UnsignedDecimal cs q) : Skips cs := by
  have hsign : ∀ c, c ≠ '.' → Skips [c] := fun c hc => skips_of_forall_ne (by simpa using hc)
  cases h with
  | plain h => exact h.skips
  | plus h => exact (hsign '+' (by decide)).append h.skips
  | minus h => exact (hsign '-' (by decide)).append h.skips

/-- The first two dots divide a text. -/
lemma Skips.splitAtFirst?_dots {cs : List Char} (h : Skips cs) (rest : List Char) :
    splitAtFirst? ['.', '.'] (cs ++ '.' :: '.' :: rest) = some (cs, rest) := by
  rw [h, splitAtFirst?]
  simp

lemma Skips.splitAtFirst?_eq_none {cs : List Char} (h : Skips cs) :
    splitAtFirst? ['.', '.'] cs = none := by
  have hnil := h []
  rwa [List.append_nil] at hnil

end Text

open Text

/-! ### Ends -/

namespace BoundEnd

/-- The keywords, and the numbers in the notation of decimals. -/
def Proper : BoundEnd → Prop
  | min => True
  | max => True
  | literal text => ∃ q, DecimalLiteral text q

variable {e : BoundEnd}

lemma Proper.text_not_blank (h : e.Proper) : ∀ c ∈ e.text.toList, isBlank c = false := by
  cases e with
  | min => simp [text, isBlank]
  | max => simp [text, isBlank]
  | literal text =>
      obtain ⟨q, hq⟩ := h
      exact fun c hc => (Signed.isNumeral hq c hc).not_blank

lemma Proper.text_ne_bar (h : e.Proper) : '|' ∉ e.text.toList := by
  cases e with
  | min => decide
  | max => decide
  | literal text =>
      obtain ⟨q, hq⟩ := h
      exact fun hbar => absurd (Signed.isNumeral hq _ hbar) (by unfold IsNumeral; decide)

lemma Proper.skips_text (h : e.Proper) : Skips e.text.toList := by
  cases e with
  | min => exact skips_of_forall_ne (by simp [text])
  | max => exact skips_of_forall_ne (by simp [text])
  | literal text =>
      obtain ⟨q, hq⟩ := h
      exact Signed.skips hq

/-- An end with blanks around it. -/
def Written (e : BoundEnd) (cs : List Char) : Prop :=
  e.Proper ∧ ∃ before after, Blank before ∧ Blank after ∧ cs = before ++ e.text.toList ++ after

lemma Written.pad {cs before after : List Char} (h : e.Written cs) (hbefore : Blank before)
    (hafter : Blank after) : e.Written (before ++ cs ++ after) := by
  obtain ⟨he, before', after', hbefore', hafter', rfl⟩ := h
  refine ⟨he, before ++ before', after' ++ after, ?_, ?_, by simp⟩
  · exact List.forall_mem_append.mpr ⟨hbefore, hbefore'⟩
  · exact List.forall_mem_append.mpr ⟨hafter', hafter⟩

lemma Written.ne_bar {cs : List Char} (h : e.Written cs) : '|' ∉ cs := by
  obtain ⟨he, before, after, hbefore, hafter, rfl⟩ := h
  have hblank : ∀ {bs : List Char}, Blank bs → '|' ∉ bs := by
    intro bs hbs hbar
    exact absurd (hbs _ hbar) (by decide)
  simp only [List.mem_append, not_or]
  exact ⟨⟨hblank hbefore, he.text_ne_bar⟩, hblank hafter⟩

lemma Written.skips {cs : List Char} (h : e.Written cs) : Skips cs := by
  obtain ⟨he, before, after, hbefore, hafter, rfl⟩ := h
  exact ((skips_of_blank hbefore).append he.skips_text).append (skips_of_blank hafter)

/-- No number is written like a keyword. -/
lemma Written.read {cs : List Char} (h : e.Written cs) : BoundEnd.read cs = .ok e := by
  obtain ⟨he, before, after, hbefore, hafter, rfl⟩ := h
  rw [BoundEnd.read, trimChars_padded hbefore hafter he.text_not_blank, String.ofList_toList]
  cases e with
  | min => rfl
  | max => rfl
  | literal text =>
      obtain ⟨q, hq⟩ := he
      rw [BoundEnd.text]
      have hm : 'm' ∉ text.toList := fun hm =>
        absurd (Signed.isNumeral hq _ hm) (by unfold IsNumeral; decide)
      split
      next => exact absurd rfl (Signed.ne_nil hq)
      next => exact absurd (by decide) hm
      next => exact absurd (by decide) hm
      next => rfl

end BoundEnd

/-! ### Parts and arguments -/

namespace BoundPair

/-- A part: two ends with two dots between them, or one for two equal ends. -/
inductive Written : BoundPair → List Char → Prop where
  | two {low high : BoundEnd} {ls hs : List Char} (hlow : low.Written ls)
      (hhigh : high.Written hs) : Written ⟨low, high⟩ (ls ++ '.' :: '.' :: hs)
  | one {e : BoundEnd} {cs : List Char} (h : e.Written cs) : Written ⟨e, e⟩ cs

variable {p : BoundPair} {cs : List Char}

/-- A part is read as it was written. -/
lemma Written.read (h : p.Written cs) : BoundPair.read cs = .ok p := by
  cases h with
  | two hlow hhigh =>
      rw [BoundPair.read, hlow.skips.splitAtFirst?_dots]
      simp only [hlow.read, hhigh.read]
      rfl
  | one h =>
      rw [BoundPair.read, h.skips.splitAtFirst?_eq_none]
      simp only [h.read]
      rfl

lemma Written.pad {before after : List Char} (h : p.Written cs) (hbefore : Blank before)
    (hafter : Blank after) : p.Written (before ++ cs ++ after) := by
  have hnil : Blank [] := List.forall_mem_nil _
  cases h with
  | @two low high ls hs hlow hhigh =>
      have hlow' := hlow.pad hbefore hnil
      have hhigh' := hhigh.pad hnil hafter
      rw [List.append_nil] at hlow'
      have htwo := Written.two hlow' hhigh'
      simpa using htwo
  | one h => exact .one (h.pad hbefore hafter)

lemma Written.ne_bar (h : p.Written cs) : '|' ∉ cs := by
  cases h with
  | two hlow hhigh =>
      simp only [List.mem_append, List.mem_cons, not_or]
      exact ⟨hlow.ne_bar, by decide, by decide, hhigh.ne_bar⟩
  | one h => exact h.ne_bar

lemma mapM_read {pairs : List BoundPair} {parts : List (List Char)}
    (h : List.Forall₂ Written pairs parts) : parts.mapM BoundPair.read = .ok pairs := by
  induction h with
  | nil => rfl
  | cons hread _ ih =>
      rw [List.mapM_cons, hread.read, ih]
      rfl

/-- An argument is read as it was written. -/
theorem parseList_intercalate {pairs : List BoundPair} {parts : List (List Char)}
    (h : List.Forall₂ Written pairs parts) (hne : parts ≠ []) :
    parseList (String.ofList (['|'].intercalate parts)) = .ok pairs := by
  have hbars : ∀ part ∈ parts, '|' ∉ part := by
    clear hne
    induction h with
    | nil => simp
    | cons hpart _ ih => exact List.forall_mem_cons.mpr ⟨hpart.ne_bar, ih⟩
  have hsplit : (['|'].intercalate parts).splitOnP (· == '|') = parts :=
    List.splitOn_intercalate '|' hbars hne
  rw [parseList, String.toList_ofList, hsplit, mapM_read h]

/-- Spaces on both sides of the bars are blanks of the parts next to them. -/
lemma exists_intercalate_bar {pairs : List BoundPair} {parts : List (List Char)}
    (h : List.Forall₂ Written pairs parts) (hne : parts ≠ []) {before : List Char}
    (hbefore : Blank before) :
    ∃ parts', before ++ [' ', '|', ' '].intercalate parts = ['|'].intercalate parts' ∧
      List.Forall₂ Written pairs parts' ∧ parts' ≠ [] := by
  have hnil : Blank [] := List.forall_mem_nil _
  have hspace : Blank [' '] := by simp [Blank, isBlank]
  induction h generalizing before with
  | nil => exact absurd rfl hne
  | @cons pair part pairs parts hpart hparts ih =>
      cases parts with
      | nil =>
          have hpad := hpart.pad hbefore hnil
          rw [List.append_nil] at hpad
          obtain rfl := List.forall₂_nil_right_iff.mp hparts
          exact ⟨[before ++ part], by simp, .cons hpad .nil, by simp⟩
      | cons next parts =>
          obtain ⟨parts', heq, hparts', hne'⟩ := ih (by simp) hspace
          refine ⟨(before ++ part ++ [' ']) :: parts', ?_,
            .cons (hpart.pad hbefore hspace) hparts', by simp⟩
          obtain ⟨first, rest, rfl⟩ := List.exists_cons_of_ne_nil hne'
          rw [List.intercalate_cons_cons, List.intercalate_cons_cons, ← heq]
          simp

/-- An argument whose parts are joined by bars with spaces around them. -/
lemma parseList_bars {pairs : List BoundPair} {texts : List String}
    (h : List.Forall₂ (fun p text => Written p text.toList) pairs texts) (hne : texts ≠ []) :
    parseList (" | ".intercalate texts) = .ok pairs := by
  have hparts : List.Forall₂ Written pairs (texts.map String.toList) :=
    List.forall₂_map_right_iff.mpr h
  obtain ⟨parts, heq, hwritten, hne'⟩ :=
    exists_intercalate_bar hparts (by simpa using hne) (List.forall_mem_nil _)
  have htext : " | ".intercalate texts = String.ofList (['|'].intercalate parts) := by
    rw [← heq, List.nil_append, ← String.toList_inj, String.toList_intercalate]
    exact String.toList_ofList.symm
  rw [htext]
  exact parseList_intercalate hwritten hne'

end BoundPair

/-! ### Texts of intervals -/

namespace Number

/-- The text of a number denotes it. -/
lemma decimalLiteral_text (n : Number) : DecimalLiteral n.text n.toRat := by
  cases n with
  | integer n => exact (integerLiteral_toString n).decimalLiteral
  | decimal d => exact d.decimalLiteral_canonical

/-- Numbers of one form are determined by what they denote. -/
lemma eq_of_toRat_eq {a b : Number} (hform : a.form = b.form) (h : a.toRat = b.toRat) :
    a = b := by
  cases a with
  | integer m =>
      cases b with
      | integer n => exact congrArg integer (Int.cast_injective h)
      | decimal e => simp [form] at hform
  | decimal d =>
      cases b with
      | integer n => simp [form] at hform
      | decimal e =>
          have hscale : d.scale = e.scale := Form.decimal.inj hform
          have hunscaled : d.unscaled = e.unscaled := (Decimal.unscaled_eq_iff hscale).mpr h
          obtain ⟨ds, du, _, _⟩ := d
          obtain ⟨es, eu, _, _⟩ := e
          obtain rfl : ds = es := hscale
          obtain rfl : du = eu := hunscaled
          rfl

lemma numEq_iff {a b : Number} (h : Comparable a b) : a.numEq b = true ↔ a.toRat = b.toRat := by
  rw [numEq, beq_iff_eq, order_eq_compare h, compare_eq_iff_eq]

end Number

namespace Interval

/-- The part of an argument that stands for an interval. -/
def part (i : Interval) : BoundPair := ⟨.literal i.low.text, .literal i.high.text⟩

/-- The text of an interval is its part. If only one number is written, both
ends are that number. -/
lemma written_text {i : Interval} {φ : Number.Form} (h : i.HasForm φ) :
    i.part.Written i.text.toList := by
  have hend : ∀ n : Number, (BoundEnd.literal n.text).Written n.text.toList := fun n =>
    ⟨⟨_, n.decimalLiteral_text⟩, [], [], List.forall_mem_nil _, List.forall_mem_nil _,
      by simp [BoundEnd.text]⟩
  rw [text]
  split
  next hequal =>
    have hrat := (Number.numEq_iff (h.ofScale.1.comparable h.ofScale.2)).mp hequal
    have hends : i.low = i.high := Number.eq_of_toRat_eq (h.1.trans h.2.symm) hrat
    rw [part, ← hends]
    exact .one (hend i.low)
  next =>
    have htwo := BoundPair.Written.two (hend i.low) (hend i.high)
    rw [String.toList_append, String.toList_append, List.append_assoc]
    exact htwo

end Interval

end YangTypes
