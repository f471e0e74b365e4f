import YangTypes.Proofs.Pattern.Scan

/-!
The tokens of a pattern, and what they are written as.

* `blockEscape?_eq_some`: what the escape of a block stands for;
* `Token.alike_nil_source`, `Token.alike_nil_write`: neither the name of a block
  nor the range that is written for it touches the depth of parentheses;
* `alike_body`: a pattern and its expression without anchors are read alike.
-/

namespace YangTypes.Pattern

open Scan

/-- A token as it stands in a pattern. -/
def Token.source : Token → List Char
  | escape c => ['\\', c]
  | lone => ['\\']
  | block negated b =>
    '\\' :: (if negated then 'P' else 'p') :: '\x7b' :: 'I' :: 's' :: (b.name.toList ++ ['\x7d'])
  | plain c => [c]

/-! ### Escapes of blocks -/

lemma mem_blocks_of_block? {name : String} {b : Block} (h : block? name = some b) :
    b ∈ blocks ∧ b.name = name :=
  ⟨List.mem_of_find?_eq_some h, by simpa using List.find?_some h⟩

lemma blockName?_eq_some {cs rest : List Char} {b : Block} (h : blockName? cs = some (b, rest)) :
    b ∈ blocks ∧ cs = 'I' :: 's' :: (b.name.toList ++ '\x7d' :: rest) := by
  unfold blockName? at h
  split at h
  · cases h
  · rename_i close tail hdrop
    split at h
    · rename_i name htake
      obtain ⟨b', hb', heq⟩ := Option.map_eq_some_iff.mp h
      cases heq
      obtain ⟨hmem, hname⟩ := mem_blocks_of_block? hb'
      have hne : cs.dropWhile (· != '\x7d') ≠ [] := by simp [hdrop]
      have hclose : close = '\x7d' := by simpa [hdrop] using List.head_dropWhile_not _ hne
      have hsplit := List.takeWhile_append_dropWhile (p := (· != '\x7d')) (l := cs)
      rw [htake, hdrop, hclose] at hsplit
      refine ⟨hmem, ?_⟩
      rw [← hsplit, hname, String.toList_ofList]
      rfl
    · cases h

lemma blockEscape?_eq_some {cs rest : List Char} {token : Token}
    (h : blockEscape? cs = some (token, rest)) :
    ∃ negated, ∃ b ∈ blocks, token = .block negated b ∧ '\\' :: cs = token.source ++ rest := by
  unfold blockEscape? at h
  split at h
  · obtain ⟨⟨b, tail⟩, hname, heq⟩ := Option.map_eq_some_iff.mp h
    cases heq
    obtain ⟨hmem, hcs⟩ := blockName?_eq_some hname
    exact ⟨false, b, hmem, rfl, by simp [Token.source, hcs]⟩
  · obtain ⟨⟨b, tail⟩, hname, heq⟩ := Option.map_eq_some_iff.mp h
    cases heq
    obtain ⟨hmem, hcs⟩ := blockName?_eq_some hname
    exact ⟨true, b, hmem, rfl, by simp [Token.source, hcs]⟩
  · cases h

/-- What holds for the characters that all blocks have somewhere holds for those
of one. The test is a computation over the table of blocks. -/
lemma forall_of_all_blocks (P : Char → Prop) [DecidablePred P] (f : Block → List Char)
    (hall : (blocks.all fun b => (f b).all fun c => decide (P c)) = true) {b : Block}
    (hb : b ∈ blocks) : ∀ c ∈ f b, P c := by
  have hf := List.all_eq_true.mp hall b hb
  exact fun c hc => of_decide_eq_true (List.all_eq_true.mp hf c hc)

/-- A name is read over, and ends before the brace that closes it. -/
lemma of_mem_name {b : Block} (hb : b ∈ blocks) :
    ∀ c ∈ b.name.toList, Inert c ∧ c ≠ '\x7d' :=
  forall_of_all_blocks _ (fun b => b.name.toList) (by decide +kernel) hb

lemma inert_of_mem_name {b : Block} (hb : b ∈ blocks) : ∀ c ∈ b.name.toList, Inert c :=
  fun c hc => (of_mem_name hb c hc).1

lemma inert_of_mem_hexCode {b : Block} (hb : b ∈ blocks) :
    ∀ c ∈ hexCode b.low ++ hexCode b.high, Inert c :=
  forall_of_all_blocks Inert (fun b => hexCode b.low ++ hexCode b.high) (by decide +kernel) hb

/-- An escape with a list of characters in braces. -/
lemma alike_nil_braced (s : Scan) (c : Char) (cs : List Char) (hs : s.escaped = false)
    (hcs : ∀ c ∈ cs, Inert c) : s.Alike (['\\', c] ++ '\x7b' :: (cs ++ ['\x7d'])) [] := by
  refine (alike_nil_pair s c hs).append_nil (alike_nil_of_inert s _ hs fun c' hc' => ?_)
  simp only [List.mem_cons, List.mem_append, List.not_mem_nil, or_false] at hc'
  rcases hc' with rfl | hc' | rfl
  · decide
  · exact hcs c' hc'
  · decide

variable (s : Scan)

lemma Token.alike_nil_source (negated : Bool) {b : Block} (hs : s.escaped = false)
    (hb : b ∈ blocks) : s.Alike (Token.block negated b).source [] := by
  refine alike_nil_braced s (if negated then 'P' else 'p')
    ('I' :: 's' :: b.name.toList) hs fun c hc => ?_
  simp only [List.mem_cons] at hc
  rcases hc with rfl | rfl | hc
  · decide
  · decide
  · exact inert_of_mem_name hb c hc

lemma Token.alike_nil_write (negated : Bool) {b : Block} (k : ℕ) (hs : s.escaped = false)
    (hb : b ∈ blocks) : s.Alike ((Token.block negated b).write k) [] := by
  have hopen : (s.next '[').escaped = false := by simp [next, hs]
  have hcode (n : ℕ) (hn : ∀ c ∈ hexCode n, Inert c) : (s.next '[').Alike (codeEscape n) [] :=
    alike_nil_braced _ 'x' (hexCode n) hopen hn
  have hhex := inert_of_mem_hexCode hb
  have hlow := hcode b.low fun c hc => hhex c (List.mem_append_left _ hc)
  have hhigh := hcode b.high fun c hc => hhex c (List.mem_append_right _ hc)
  have hdash := alike_nil_of_inert (s.next '[') ['-'] hopen (by simp [Inert])
  have hcaret := alike_nil_of_inert (s.next '[') (if negated then ['^'] else []) hopen
    (by cases negated <;> simp [Inert])
  exact alike_nil_class s hs (hcaret.append_nil (hlow.append_nil (hdash.append_nil hhigh)))

/-! ### Whole patterns -/

lemma alike_plain (c : Char) (k : ℕ) (d : ℤ) :
    Alike ⟨false, k, d⟩ [c] ((Token.plain c).write k) := by
  rw [Token.write]
  split_ifs with h
  · have hinert : ∀ c' ∈ [c], Inert c' := by
      obtain ⟨-, rfl | rfl⟩ := h <;> simp [Inert]
    exact (alike_nil_of_inert _ [c] rfl hinert).trans (alike_nil_pair _ c rfl).symm
  · exact .refl _ _

lemma after_plain {c : Char} (hc : c ≠ '\\') (k : ℕ) (d : ℤ) :
    ∃ d', Scan.after ⟨false, k, d⟩ [c] = ⟨false, (Token.plain c).depthAfter k, d'⟩ := by
  simp only [after_cons, after_nil, next, Token.depthAfter, hc]
  split_ifs <;> simp_all

/-- A pattern and its tokens, written in the ordinary dialect from the depth of
classes where it starts. -/
lemma alike_writeTokens (cs : List Char) (k : ℕ) (d : ℤ) :
    Alike ⟨false, k, d⟩ cs (writeTokens k (tokens cs)) := by
  fun_induction tokens cs generalizing k d with
  | case1 => exact .refl _ _
  | case2 cs token rest h ih =>
      -- the escape of a block
      obtain ⟨negated, b, hb, rfl, hcs⟩ := blockEscape?_eq_some h
      have hsource := Token.alike_nil_source ⟨false, k, d⟩ negated rfl hb
      have hwrite := Token.alike_nil_write ⟨false, k, d⟩ negated k rfl hb
      have hafter : Scan.after ⟨false, k, d⟩ (Token.block negated b).source = ⟨false, k, d⟩ :=
        hsource.after_eq
      rw [hcs]
      exact (hsource.trans hwrite.symm).append (hafter.symm ▸ ih k d)
  | case3 =>
      -- a backslash at the end, after which nothing has to be read alike
      exact .refl _ _
  | case4 c cs h ih => exact (Alike.refl _ ['\\', c]).append (ih k d)
  | case5 c cs hc ih =>
      obtain ⟨d', hafter⟩ := after_plain hc k d
      have hrest : (Scan.after ⟨false, k, d⟩ [c]).Alike cs
          (writeTokens ((Token.plain c).depthAfter k) (tokens cs)) := hafter ▸ ih _ d'
      exact (alike_plain c k d).append hrest

lemma alike_body (pattern : List Char) : start.Alike pattern (body pattern) :=
  alike_writeTokens pattern 0 0

end YangTypes.Pattern
