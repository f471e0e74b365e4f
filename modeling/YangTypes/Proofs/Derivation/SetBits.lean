import Mathlib.Tactic
import YangTypes.Proofs.Bound.Notation
import YangTypes.Proofs.Derivation.Members

/-!
Setting bits by their names.

A value of a bits type is a text with the names of the bits that are set. It is
cut into words at its blanks, whereas any text can be the name of a bit.

* `Text.words_append_blank`, `Text.words_of_not_blank`: a blank ends a word, and
  a text without blanks is one word. All about words follows from these two, by
  induction over the cuts of a text (`Text.cut_ind`).
* `Text.Uncut`: texts that are not cut, since they have no blanks or nothing
  else. `Text.exists_word_ne` is what becomes of the others.
* `TypeDef.Settable`: any bits can be set together. `settable_iff_uncut` says
  that this is so exactly if no name is cut.
-/

namespace YangTypes

namespace Text

/-! ### Words -/

@[simp]
lemma words_empty : words "" = [] := by
  simp [words]

/-- A blank ends a word. -/
lemma words_append_blank {c : Char} (hc : isBlank c = true) (x y : String) :
    words (x ++ String.singleton c ++ y) = words x ++ words y := by
  rw [words, String.toList_append, String.toList_append, String.toList_singleton,
    List.append_assoc, List.singleton_append, List.splitOnP_append_cons _ _ hc,
    List.filter_append, List.map_append]
  rfl

/-- A text without blanks is one word. -/
lemma words_of_not_blank {text : String} (hne : text ≠ "")
    (h : ∀ c ∈ text.toList, isBlank c = false) : words text = [text] := by
  have hsplit : text.toList.splitOnP isBlank = [text.toList] := List.splitOnP_eq_singleton h
  have hchars : text.toList ≠ [] := by simpa using hne
  simp [words, hsplit, hchars]

/-- **Induction over the cuts of a text.** -/
@[elab_as_elim]
lemma cut_ind {P : String → Prop} (whole : ∀ text, (∀ c ∈ text.toList, isBlank c = false) → P text)
    (cut : ∀ x c y, isBlank c = true → P x → P y → P (x ++ String.singleton c ++ y))
    (text : String) : P text := by
  induction hlength : text.toList.length using Nat.strong_induction_on generalizing text with
  | _ length ih =>
      by_cases h : ∀ c ∈ text.toList, isBlank c = false
      · exact whole text h
      · push Not at h
        obtain ⟨c, hmem, hc⟩ := h
        obtain ⟨before, after, hsplit⟩ := List.append_of_mem hmem
        have htext : text = String.ofList before ++ String.singleton c ++ String.ofList after := by
          rw [← String.toList_inj]
          simp [hsplit]
        rw [hsplit, List.length_append, List.length_cons] at hlength
        rw [htext]
        refine cut _ c _ (by simpa using hc) (ih before.length (by omega) _ ?_)
          (ih after.length (by omega) _ ?_) <;> rw [String.toList_ofList]

/-- A word is not empty and has no blanks. -/
lemma of_mem_words {text word : String} (h : word ∈ words text) :
    word ≠ "" ∧ ∀ c ∈ word.toList, isBlank c = false := by
  induction text using cut_ind with
  | whole text htext =>
      by_cases hne : text = ""
      · simp [hne] at h
      · rw [words_of_not_blank hne htext, List.mem_singleton] at h
        exact h ▸ ⟨hne, htext⟩
  | cut x c y hc ihx ihy =>
      rw [words_append_blank hc, List.mem_append] at h
      exact h.elim ihx ihy

lemma words_of_mem_words {text word : String} (h : word ∈ words text) : words word = [word] :=
  words_of_not_blank (of_mem_words h).1 (of_mem_words h).2

/-- Only blanks have no words. -/
lemma words_eq_nil_iff {text : String} : words text = [] ↔ Blank text.toList := by
  induction text using cut_ind with
  | whole text htext =>
      by_cases hne : text = ""
      · simp [hne, Blank]
      · rw [words_of_not_blank hne htext]
        obtain ⟨c, hc⟩ := List.exists_mem_of_ne_nil text.toList (by simpa using hne)
        refine iff_of_false (by simp) fun hblank => ?_
        exact absurd (hblank c hc) (by simp [htext c hc])
  | cut x c y hc ihx ihy =>
      rw [words_append_blank hc, List.append_eq_nil_iff, ihx, ihy]
      simp only [Blank, String.toList_append, String.toList_singleton, List.forall_mem_append,
        List.forall_mem_singleton, hc, and_true]

/-- The words of texts joined by spaces are those of each of them. -/
lemma words_intercalate (texts : List String) :
    words (" ".intercalate texts) = texts.flatMap words := by
  induction texts with
  | nil => simp
  | cons text texts ih =>
      cases texts with
      | nil => simp
      | cons next texts =>
          have hspace : words (text ++ " " ++ " ".intercalate (next :: texts)) =
              words text ++ words (" ".intercalate (next :: texts)) :=
            words_append_blank (c := ' ') (by decide) text _
          rw [String.intercalate_cons_cons, hspace, ih]
          exact List.flatMap_cons.symm

/-! ### Texts that are not cut -/

/-- A text without blanks, or of blanks only. -/
def Uncut (text : String) : Prop :=
  (∀ c ∈ text.toList, isBlank c = false) ∨ Blank text.toList

lemma Uncut.words {text : String} (h : Uncut text) :
    Text.words text = [] ∨ Text.words text = [text] := by
  rcases h with h | h
  · by_cases hne : text = ""
    · exact .inl (hne ▸ words_empty)
    · exact .inr (words_of_not_blank hne h)
  · exact .inl (words_eq_nil_iff.mpr h)

/-- A text that is cut has a word that is less than the text. -/
lemma exists_word_ne {text : String} (h : ¬ Uncut text) : ∃ word ∈ words text, word ≠ text := by
  rw [Uncut, not_or] at h
  obtain ⟨word, hword⟩ := List.exists_mem_of_ne_nil _ (mt words_eq_nil_iff.mp h.2)
  refine ⟨word, hword, ?_⟩
  rintro rfl
  exact h.1 (of_mem_words hword).2

/-- Of joined texts that are not cut, those with a word remain. -/
lemma sublist_of_uncut {texts : List String} (h : ∀ text ∈ texts, Uncut text) :
    (texts.flatMap words).Sublist texts := by
  induction texts with
  | nil => exact List.Sublist.refl []
  | cons text texts ih =>
      rw [List.forall_mem_cons] at h
      rw [List.flatMap_cons]
      rcases h.1.words with hwords | hwords
      · rw [hwords]
        exact (ih h.2).cons text
      · rw [hwords]
        exact (ih h.2).cons_cons text

end Text

/-! ### Bits -/

namespace TypeDef

/-- Any bits of a type can be set together, by a text with their names in any
order. -/
def Settable (t : TypeDef) : Prop :=
  ∀ names : List String, names.Nodup → (∀ name ∈ names, ∃ m ∈ t.bits, m.name = name) →
    t.Accepts (" ".intercalate names)

lemma accepts_bits {t : TypeDef} (h : t.kind = .bits) {text : String} :
    t.Accepts text ↔ (∀ word ∈ Text.words text, ∃ m ∈ t.bits, m.name = word) ∧
      (Text.words text).Nodup := by
  obtain ⟨info, base, body⟩ := t
  cases body with
  | union members => simp [TypeDef.kind] at h
  | simple facets =>
      cases facets with
      | bits members => rw [accepts_simple, Facets.check_bits, bits]
      | _ => simp [TypeDef.kind, Facets.kind] at h

/-- **The bits of a type can be set exactly if none of their names is cut.** -/
lemma settable_iff_uncut {t : TypeDef} (h : t.kind = .bits) :
    t.Settable ↔ ∀ m ∈ t.bits, Text.Uncut m.name := by
  simp only [Settable, accepts_bits h, Text.words_intercalate]
  constructor
  · intro hset m hm
    by_contra hcut
    obtain ⟨word, hword, hne⟩ := Text.exists_word_ne hcut
    -- the name alone makes the word the name of a bit; both together set that bit twice
    have halone := hset [m.name] (List.nodup_singleton _) (by simpa using ⟨m, hm, rfl⟩)
    obtain ⟨b, hb, hbname⟩ := halone.1 word (by simpa using hword)
    have hboth := hset [m.name, word] (by simpa using hne.symm) (by
      simp only [List.mem_cons, List.not_mem_nil, or_false, forall_eq_or_imp, forall_eq]
      exact ⟨⟨m, hm, rfl⟩, b, hb, hbname⟩)
    have hnodup := hboth.2
    simp only [List.flatMap_cons, List.flatMap_nil, List.append_nil,
      Text.words_of_mem_words hword] at hnodup
    exact (List.nodup_append.mp hnodup).2.2 word hword word (List.mem_singleton_self word) rfl
  · intro huncut names hnodup hnames
    have hsublist : (names.flatMap Text.words).Sublist names := by
      refine Text.sublist_of_uncut fun name hname => ?_
      obtain ⟨m, hm, rfl⟩ := hnames name hname
      exact huncut m hm
    exact ⟨fun word hword => hnames word (hsublist.subset hword), hsublist.nodup hnodup⟩

end TypeDef

/-- **The bits of every type can be set exactly if no name has both blanks and
other characters; it is enough that this is so at the root.** -/
theorem bits_settable_iff {root t : TypeDef} {steps : List Derivation} (h : Lineage root steps t)
    (hkind : t.kind = .bits) :
    (t.Settable ↔ ∀ m ∈ t.bits, Text.Uncut m.name) ∧
      ((∀ m ∈ root.bits, Text.Uncut m.name) → t.Settable) := by
  have hiff := TypeDef.settable_iff_uncut hkind
  refine ⟨hiff, fun hroot => hiff.mpr fun m hm => ?_⟩
  have hancestor : root ∈ t.ancestry := List.mem_of_getLast? h.getLast?_ancestry
  obtain ⟨b, hb, hname, -⟩ := (h.namedMembers .bit hkind).inherited root hancestor m hm
  exact hname ▸ hroot b hb

/-- A derived type that leaves out the bit whose name is cut. -/
theorem bits_settable_iff_selected :
    let first : Derivation :=
      ⟨.root .bits, [⟨.bit ⟨"read only", none, .none⟩, "1"⟩, ⟨.bit ⟨"up", some 7, .none⟩, "2"⟩,
        ⟨.bit ⟨"down", none, .none⟩, "3"⟩], .root, ⟨false⟩⟩
    let root : TypeDef := ⟨first.info 0, none, .simple (.bits
      [⟨"read only", 0, .none⟩, ⟨"up", 7, .none⟩, ⟨"down", 8, .none⟩])⟩
    let second : Derivation :=
      ⟨.type root, [⟨.bit ⟨"up", none, .none⟩, "1"⟩, ⟨.bit ⟨"down", some 8, .none⟩, "2"⟩], .root,
        ⟨false⟩⟩
    let t : TypeDef := ⟨second.info 0, some root, .simple (.bits
      [⟨"up", 7, .none⟩, ⟨"down", 8, .none⟩])⟩
    Lineage root [second, first] t ∧ t.kind = .bits ∧ t.Settable ∧ t.Accepts "down up" := by
  intro first root second t
  have hroot : Lineage root [first] root :=
    .root (show first.start = .root .bits from rfl) (show first.build 0 = .ok root from rfl)
  have ht : Lineage root [second, first] t :=
    .step hroot rfl (show second.build 0 = .ok t from rfl)
  have huncut : ∀ m ∈ t.bits, Text.Uncut m.name := by
    simp [t, TypeDef.bits, Text.Uncut, Text.isBlank]
  have hset := (bits_settable_iff ht rfl).1.mpr huncut
  exact ⟨ht, rfl, hset, hset ["down", "up"] (by decide) (by simp [t, TypeDef.bits])⟩

/-- **A bit that cannot be set**: its name is two words, and neither is the name of
a bit. -/
theorem bit_of_two_words_not_settable :
    let d : Derivation :=
      ⟨.root .bits, [⟨.bit ⟨"read only", none, .none⟩, "1"⟩], .root, ⟨false⟩⟩
    let t : TypeDef := ⟨d.info 0, none, .simple (.bits [⟨"read only", 0, .none⟩])⟩
    Lineage t [d] t ∧ t.kind = .bits ∧ ["read only"].Nodup ∧
      (∀ name ∈ ["read only"], ∃ m ∈ t.bits, m.name = name) ∧
      ¬ t.Accepts (" ".intercalate ["read only"]) := by
  intro d t
  have ht : Lineage t [d] t :=
    .root (show d.start = .root .bits from rfl) (show d.build 0 = .ok t from rfl)
  refine ⟨ht, rfl, List.nodup_singleton _, by simp [t, TypeDef.bits], ?_⟩
  rw [TypeDef.accepts_bits rfl, Text.words_intercalate]
  decide

end YangTypes
