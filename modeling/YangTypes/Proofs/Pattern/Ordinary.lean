import Mathlib.Tactic
import YangTypes.Proofs.Pattern.Tokens

/-!
What is left of the schema dialect in the body of an expression: nothing.

* `Ordinary`: the texts in which no anchor stands outside of classes without a
  backslash, and no escape names a known block;
* `Rewrites`: what a body has in place of each part of its pattern. It says all
  that writing can do (`rewrites_body`), and the other statements are proved by
  induction on it;
* `Scan.Settled`: ordinary texts in the form that proofs take apart. What is
  written is settled (`Rewrites.settled`), and a settled text is written as it is
  (`Rewrites.eq_of_settled`), so writing a body again changes nothing;
* `Rewrites.copied_start`: why no block is named that was not named before.
  The name of a block has no character with which a rewritten part starts, so a
  name that stands in the body stands in the pattern.
-/

namespace YangTypes.Pattern

open Scan

/-- The characters that stand for an end of the value in an ordinary
expression. -/
def IsAnchor (c : Char) : Prop := c = '^' ∨ c = '$'

/-- An escape that names a known block stands at the start of a text. -/
def StartsWithBlock (cs : List Char) : Prop :=
  ∃ negated, ∃ b ∈ blocks, (Token.block negated b).source <+: cs

/-- A text without anything that only the schema dialect gives a meaning: where
no backslash takes the next character, there is no anchor outside of classes,
and no escape of a known block. -/
structure Ordinary (cs : List Char) : Prop where
  no_anchor : ∀ before c after, cs = before ++ c :: after →
    (start.after before).escaped = false → (start.after before).classes = 0 → ¬ IsAnchor c
  no_block : ∀ before after, cs = before ++ after →
    (start.after before).escaped = false → ¬ StartsWithBlock after

/-- `Rewrites s cs ds`: read from a state on, `ds` is `cs` with a backslash before
the anchors that stand outside of classes, and with a class in place of the
escapes of known blocks. All other characters are the same, one by one. -/
inductive Rewrites : Scan → List Char → List Char → Prop where
  | nil (s : Scan) : Rewrites s [] []
  | lone (s : Scan) : Rewrites s ['\\'] ['\\']
  | escape {s : Scan} {c : Char} {cs ds : List Char} (hs : s.escaped = false)
      (hc : ¬ StartsWithBlock ('\\' :: c :: cs)) (h : Rewrites s cs ds) :
      Rewrites s ('\\' :: c :: cs) ('\\' :: c :: ds)
  | block {s : Scan} {cs ds : List Char} (negated : Bool) {b : Block} (hs : s.escaped = false)
      (hb : b ∈ blocks) (h : Rewrites s cs ds) :
      Rewrites s ((Token.block negated b).source ++ cs)
        ((Token.block negated b).write s.classes ++ ds)
  | anchor {s : Scan} {c : Char} {cs ds : List Char} (hs : s.escaped = false)
      (hclasses : s.classes = 0) (hc : IsAnchor c) (h : Rewrites s cs ds) :
      Rewrites s (c :: cs) ('\\' :: c :: ds)
  | plain {s : Scan} {c : Char} {cs ds : List Char} (hs : s.escaped = false) (hc : c ≠ '\\')
      (hanchor : ¬ (s.classes = 0 ∧ IsAnchor c)) (h : Rewrites (s.next c) cs ds) :
      Rewrites s (c :: cs) (c :: ds)

/-! ### Escapes of known blocks -/

lemma not_startsWithBlock_of_ne {c : Char} (hc : c ≠ '\\') (cs : List Char) :
    ¬ StartsWithBlock (c :: cs) := by
  rintro ⟨negated, b, -, hstart⟩
  rw [Token.source, List.cons_prefix_cons] at hstart
  exact hc hstart.1.symm

/-- Only two escapes can name a block. -/
lemma not_startsWithBlock_escape {c : Char} (hp : c ≠ 'p') (hP : c ≠ 'P') (cs : List Char) :
    ¬ StartsWithBlock ('\\' :: c :: cs) := by
  rintro ⟨negated, b, -, hstart⟩
  rw [Token.source, List.cons_prefix_cons, List.cons_prefix_cons] at hstart
  cases negated with
  | false => exact hp hstart.2.1.symm
  | true => exact hP hstart.2.1.symm

lemma isSome_blockName? {b : Block} (hb : b ∈ blocks) (rest : List Char) :
    (blockName? ('I' :: 's' :: (b.name.toList ++ '\x7d' :: rest))).isSome = true := by
  have hname : ∀ c ∈ 'I' :: 's' :: b.name.toList, (c != '\x7d') = true := by
    simpa using fun c hc => (of_mem_name hb c hc).2
  have hdrop : ('I' :: 's' :: b.name.toList ++ '\x7d' :: rest).dropWhile (· != '\x7d') =
      '\x7d' :: rest := by
    rw [List.dropWhile_append_of_pos hname]
    simp
  have htake : ('I' :: 's' :: b.name.toList ++ '\x7d' :: rest).takeWhile (· != '\x7d') =
      'I' :: 's' :: b.name.toList := by
    rw [List.takeWhile_append_of_pos hname]
    simp
  have hfound : (block? b.name).isSome = true := by
    rw [block?, List.find?_isSome]
    exact ⟨b, hb, by simp⟩
  rw [← List.cons_append, ← List.cons_append, blockName?, hdrop, htake]
  simpa using hfound

/-- The search for an escape of a block finds every one. -/
lemma blockEscape?_eq_none_iff {cs : List Char} :
    blockEscape? cs = none ↔ ¬ StartsWithBlock ('\\' :: cs) := by
  constructor
  · rintro h ⟨negated, b, hb, rest, hsource⟩
    have hcs : cs = (if negated then 'P' else 'p') :: '\x7b' :: 'I' :: 's' ::
        (b.name.toList ++ '\x7d' :: rest) := by
      simpa [Token.source, eq_comm] using hsource
    obtain ⟨found, hfound⟩ := Option.isSome_iff_exists.mp (isSome_blockName? hb rest)
    cases negated with
    | false => simp [hcs, blockEscape?, hfound] at h
    | true => simp [hcs, blockEscape?, hfound] at h
  · intro h
    rw [Option.eq_none_iff_forall_ne_some]
    rintro ⟨token, rest⟩ hfound
    obtain ⟨negated, b, hb, rfl, hcs⟩ := blockEscape?_eq_some hfound
    exact h ⟨negated, b, hb, rest, hcs.symm⟩

/-! ### What writing does -/

lemma depthAfter_anchor {c : Char} (hc : IsAnchor c) (k : ℕ) :
    (Token.plain c).depthAfter k = k := by
  obtain rfl | rfl := hc <;> rfl

lemma rewrites_writeTokens (cs : List Char) (k : ℕ) (d : ℤ) :
    Rewrites ⟨false, k, d⟩ cs (writeTokens k (tokens cs)) := by
  fun_induction tokens cs generalizing k d with
  | case1 => exact .nil _
  | case2 cs token rest h ih =>
      obtain ⟨negated, b, hb, rfl, hcs⟩ := blockEscape?_eq_some h
      rw [hcs]
      exact .block negated rfl hb (ih k d)
  | case3 => exact .lone _
  | case4 c cs h ih => exact .escape rfl (blockEscape?_eq_none_iff.mp h) (ih k d)
  | case5 c cs hc ih =>
      rw [writeTokens, Token.write]
      split_ifs with hanchor
      · rw [depthAfter_anchor hanchor.2]
        exact .anchor rfl hanchor.1 hanchor.2 (ih k d)
      · obtain ⟨d', hafter⟩ := after_plain hc k d
        have hrest : Rewrites (Scan.after ⟨false, k, d⟩ [c]) cs
            (writeTokens ((Token.plain c).depthAfter k) (tokens cs)) := hafter ▸ ih _ d'
        exact .plain rfl hc hanchor hrest

lemma rewrites_body (pattern : List Char) : Rewrites start pattern (body pattern) :=
  rewrites_writeTokens pattern 0 0

/-- A text without backslashes and opening brackets that stands at the start of
what is written stands at the start of the pattern: what is not copied starts
with one of the two. -/
lemma Rewrites.copied_start {s : Scan} {cs ds xs : List Char} (h : Rewrites s cs ds)
    (hxs : ∀ c ∈ xs, c ≠ '\\' ∧ c ≠ '[') (hstart : xs <+: ds) : xs <+: cs := by
  induction xs generalizing s cs ds with
  | nil => exact List.nil_prefix
  | cons x xs ih =>
      obtain ⟨hbackslash, hbracket⟩ := hxs x List.mem_cons_self
      cases h with
      | nil => exact hstart
      | lone => exact hstart
      | escape hs hc h => exact absurd (List.cons_prefix_cons.mp hstart).1 hbackslash
      | block negated hs hb h => exact absurd (List.cons_prefix_cons.mp hstart).1 hbracket
      | anchor hs hclasses hc h => exact absurd (List.cons_prefix_cons.mp hstart).1 hbackslash
      | plain hs hc hanchor h =>
          obtain ⟨rfl, hrest⟩ := List.cons_prefix_cons.mp hstart
          have hxs' : ∀ c ∈ xs, c ≠ '\\' ∧ c ≠ '[' := fun c hc => hxs c (List.mem_cons_of_mem x hc)
          exact List.cons_prefix_cons.mpr ⟨rfl, ih h hxs' hrest⟩

/-- No escape names a block after writing that did not name one before. -/
lemma Rewrites.not_startsWithBlock {s : Scan} {c : Char} {cs ds : List Char}
    (h : Rewrites s cs ds) (hc : ¬ StartsWithBlock ('\\' :: c :: cs)) :
    ¬ StartsWithBlock ('\\' :: c :: ds) := by
  rintro ⟨negated, b, hb, hstart⟩
  refine hc ⟨negated, b, hb, ?_⟩
  rw [Token.source, List.cons_prefix_cons, List.cons_prefix_cons] at hstart ⊢
  refine ⟨rfl, hstart.2.1, h.copied_start ?_ hstart.2.2⟩
  intro c' hc'
  simp only [List.mem_cons, List.mem_append, List.not_mem_nil, or_false] at hc'
  rcases hc' with rfl | rfl | rfl | hname | rfl
  · decide
  · decide
  · decide
  · have hinert := inert_of_mem_name hb c' hname
    simp only [Inert, List.mem_cons, not_or] at hinert
    exact ⟨hinert.1, hinert.2.1⟩
  · decide

/-! ### Settled texts -/

/-- From a state on, a text is ordinary. -/
def Scan.Settled (s : Scan) : List Char → Prop
  | [] => True
  | c :: cs =>
    (s.escaped = false → (s.classes = 0 → ¬ IsAnchor c) ∧ ¬ StartsWithBlock (c :: cs)) ∧
      (s.next c).Settled cs

namespace Scan

variable {s : Scan} {cs : List Char}

lemma settled_cons {c : Char} :
    s.Settled (c :: cs) ↔
      (s.escaped = false → (s.classes = 0 → ¬ IsAnchor c) ∧ ¬ StartsWithBlock (c :: cs)) ∧
        (s.next c).Settled cs := Iff.rfl

/-- A backslash and the character after it are read together. -/
lemma settled_pair {c : Char} (hs : s.escaped = false) :
    s.Settled ('\\' :: c :: cs) ↔ ¬ StartsWithBlock ('\\' :: c :: cs) ∧ s.Settled cs := by
  obtain ⟨_, k, d⟩ := s
  cases hs
  simp [settled_cons, next, IsAnchor]

lemma Settled.of_append {before : List Char} (h : s.Settled (before ++ cs)) :
    (s.after before).Settled cs := by
  induction before generalizing s with
  | nil => exact h
  | cons c before ih => exact ih h.2

/-- In a class, characters that are read over stand for themselves. -/
lemma Settled.inert_append {xs : List Char} (h : s.Settled cs) (hs : s.escaped = false)
    (hclasses : s.classes ≠ 0) (hxs : ∀ c ∈ xs, Inert c) : s.Settled (xs ++ cs) := by
  induction xs with
  | nil => exact h
  | cons c xs ih =>
      have hc := hxs c List.mem_cons_self
      have hne : c ≠ '\\' := by
        rintro rfl
        exact absurd hc (by decide)
      refine ⟨fun _ => ⟨fun hzero => absurd hzero hclasses, not_startsWithBlock_of_ne hne _⟩, ?_⟩
      rw [next_of_inert s hs hc]
      exact ih fun c' hc' => hxs c' (List.mem_cons_of_mem c hc')

lemma Settled.codeEscape_append (h : s.Settled cs) (hs : s.escaped = false)
    (hclasses : s.classes ≠ 0) {n : ℕ} (hn : ∀ c ∈ hexCode n, Inert c) :
    s.Settled (codeEscape n ++ cs) := by
  have hbraced : ∀ c ∈ '\x7b' :: (hexCode n ++ ['\x7d']), Inert c := by
    intro c hc
    simp only [List.mem_cons, List.mem_append, List.not_mem_nil, or_false] at hc
    rcases hc with rfl | hc | rfl
    · decide
    · exact hn c hc
    · decide
  refine (settled_pair hs).mpr ⟨not_startsWithBlock_escape (by decide) (by decide) _, ?_⟩
  exact h.inert_append hs hclasses hbraced

/-- The class that is written for a block. -/
lemma Settled.block_append (h : s.Settled cs) (hs : s.escaped = false) (negated : Bool)
    {b : Block} (hb : b ∈ blocks) :
    s.Settled ((Token.block negated b).write s.classes ++ cs) := by
  obtain ⟨_, k, d⟩ := s
  cases hs
  have hhex := inert_of_mem_hexCode hb
  have hinside : (⟨false, k + 1, d⟩ : Scan).classes ≠ 0 := Nat.succ_ne_zero k
  -- from the closing bracket back to the opening one
  have hclose : Settled ⟨false, k + 1, d⟩ ([']'] ++ cs) :=
    ⟨fun _ => ⟨fun _ => by simp [IsAnchor], not_startsWithBlock_of_ne (by decide) _⟩, h⟩
  have hhigh := hclose.codeEscape_append rfl hinside
    fun c hc => hhex c (List.mem_append_right _ hc)
  have hdash := hhigh.inert_append rfl hinside (show ∀ c ∈ ['-'], Inert c by simp [Inert])
  have hlow := hdash.codeEscape_append rfl hinside
    fun c hc => hhex c (List.mem_append_left _ hc)
  have hcaret := hlow.inert_append rfl hinside
    (show ∀ c ∈ if negated then ['^'] else [], Inert c by cases negated <;> simp [Inert])
  have hopen := (settled_cons (s := ⟨false, k, d⟩) (c := '[')).mpr
    ⟨fun _ => ⟨fun _ => by simp [IsAnchor], not_startsWithBlock_of_ne (by decide) _⟩, hcaret⟩
  simpa [Token.write] using hopen

end Scan

/-- What is written is settled. -/
lemma Rewrites.settled {s : Scan} {cs ds : List Char} (h : Rewrites s cs ds) : s.Settled ds := by
  induction h with
  | nil => trivial
  | lone =>
      exact ⟨fun _ => ⟨fun _ => by simp [IsAnchor], blockEscape?_eq_none_iff.mp rfl⟩, trivial⟩
  | escape hs hc h ih => exact (settled_pair hs).mpr ⟨h.not_startsWithBlock hc, ih⟩
  | block negated hs hb h ih => exact ih.block_append hs negated hb
  | anchor hs hclasses hc h ih =>
      -- the backslash takes the anchor with it
      refine (settled_pair hs).mpr ⟨?_, ih⟩
      obtain rfl | rfl := hc
      · exact not_startsWithBlock_escape (by decide) (by decide) _
      · exact not_startsWithBlock_escape (by decide) (by decide) _
  | plain hs hc hanchor h ih =>
      exact ⟨fun _ => ⟨fun hk hc' => hanchor ⟨hk, hc'⟩, not_startsWithBlock_of_ne hc _⟩, ih⟩

/-- A settled text is written as it is: there is nothing to be rewritten in it. -/
lemma Rewrites.eq_of_settled {s : Scan} {cs ds : List Char} (h : Rewrites s cs ds)
    (hcs : s.Settled cs) : ds = cs := by
  induction h with
  | nil => rfl
  | lone => rfl
  | @escape s c cs ds hs hc h ih => rw [ih ((settled_pair hs).mp hcs).2]
  | @block s cs ds negated b hs hb h ih =>
      exact absurd ⟨negated, b, hb, List.prefix_append _ cs⟩ (hcs.1 hs).2
  | anchor hs hclasses hc h ih => exact absurd hc ((hcs.1 hs).1 hclasses)
  | plain hs hc hanchor h ih => rw [ih hcs.2]

lemma ordinary_of_settled {cs : List Char} (h : start.Settled cs) : Ordinary cs where
  no_anchor before c after hcs hescaped hclasses := by
    rw [hcs] at h
    exact (h.of_append.1 hescaped).1 hclasses
  no_block before after hcs hescaped := by
    rw [hcs] at h
    cases after with
    | nil =>
        rintro ⟨negated, b, -, hstart⟩
        simp [Token.source] at hstart
    | cons c after => exact (h.of_append.1 hescaped).2

/-! ### Bodies -/

lemma expression_eq (pattern : String) :
    expression pattern = "^(?:" ++ String.ofList (body pattern.toList) ++ ")$" := by
  apply String.ext
  simp [expression, expressionChars]

/-- **Only the ordinary dialect is left in the body of an expression.** It has
no anchor outside of classes without a backslash and no escape of a known block,
ends at the class depth of the pattern, and differs from the pattern in the
backslashes before anchors and the classes for blocks only. -/
theorem body_ordinary (pattern : String) :
    expression pattern = "^(?:" ++ String.ofList (body pattern.toList) ++ ")$" ∧
      Ordinary (body pattern.toList) ∧
      (start.after (body pattern.toList)).classes = (start.after pattern.toList).classes ∧
      Rewrites start pattern.toList (body pattern.toList) := by
  have hrewrites := rewrites_body pattern.toList
  have hafter := (alike_body pattern.toList).after_eq
  exact ⟨expression_eq pattern, ordinary_of_settled hrewrites.settled, by rw [hafter], hrewrites⟩

-- an escape that is not closed before the next one names no block, also after writing
example : body "\\p\x7bIsGreek\\p\x7bIsGreek\x7d^".toList =
    "\\p\x7bIsGreek[\\x\x7b370\x7d-\\x\x7b3FF\x7d]\\^".toList := by decide +kernel

/-- **Translation is idempotent on bodies.** The body of the expression of a
pattern is a pattern with the same expression. -/
theorem expression_body (pattern : String) :
    expression pattern = "^(?:" ++ String.ofList (body pattern.toList) ++ ")$" ∧
      expression (String.ofList (body pattern.toList)) = expression pattern := by
  have hsettled : start.Settled (body pattern.toList) := (rewrites_body pattern.toList).settled
  have hbody : body (body pattern.toList) = body pattern.toList :=
    (rewrites_body (body pattern.toList)).eq_of_settled hsettled
  refine ⟨expression_eq pattern, ?_⟩
  rw [expression_eq, String.toList_ofList, hbody, ← expression_eq]

end YangTypes.Pattern
