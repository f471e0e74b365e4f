import Mathlib.Computability.Language
import Mathlib.Tactic
import YangTypes.Name.Basic
import YangTypes.Proofs.Outcome
import YangTypes.Proofs.Text.Separator

/-!
How names are spelled, and that reading and writing them are inverse.

* `Name.identifiers`: the identifiers as a language over two sets of characters.
  The separators of names, colon and parenthesis, are in neither set, so an
  identifier does not have them (`Identifier.notMem_text`).
* `SchemaName.parse_text` and `SchemaName.text_of_parse`: a text is read as a name
  exactly if it is the text of that name and the name has no module yet.
  `SchemaName.exists_parse_eq_ok` says which texts these are.
* `QualifiedName.localText_text`: the local name is found behind the last
  parenthesis, whatever the namespace is.
* `names_read_as_written`: all of this together, with resolution.
-/

namespace YangTypes

open Text
open scoped Computability

/-! ### The language of identifiers -/

namespace Name

/-- The texts of one character out of a set. -/
def oneOf (chars : Set Char) : Language Char := {cs | ∃ c ∈ chars, cs = [c]}

/-- The letters of ASCII. -/
def letters : Set Char := {c | 'a' ≤ c ∧ c ≤ 'z' ∨ 'A' ≤ c ∧ c ≤ 'Z'}

/-- The digits of ASCII. -/
def digits : Set Char := {c | '0' ≤ c ∧ c ≤ '9'}

/-- The identifiers: a letter or an underscore, and then letters, digits,
underscores, points and dashes. -/
def identifiers : Language Char :=
  oneOf (letters ∪ {'_'}) * (oneOf (letters ∪ digits ∪ {'_', '.', '-'}))∗

lemma mem_kstar_oneOf {chars : Set Char} {cs : List Char} :
    cs ∈ (oneOf chars)∗ ↔ ∀ c ∈ cs, c ∈ chars := by
  rw [Language.mem_kstar]
  constructor
  · rintro ⟨parts, rfl, hparts⟩ c hc
    obtain ⟨part, hpart, hcpart⟩ := List.mem_flatten.mp hc
    obtain ⟨d, hd, rfl⟩ := hparts part hpart
    rwa [List.mem_singleton.mp hcpart]
  · intro h
    refine ⟨cs.map fun c => [c], ?_, ?_⟩
    · rw [← List.flatMap_def, List.flatMap_singleton']
    · intro part hpart
      obtain ⟨c, hc, rfl⟩ := List.mem_map.mp hpart
      exact ⟨c, h c hc, rfl⟩

lemma isAlpha_iff_letters (c : Char) : c.isAlpha = true ↔ c ∈ letters := by
  have h : c.isAlpha =
      (decide ('A' ≤ c ∧ c ≤ 'Z') || (decide ('a' ≤ c) && decide (c ≤ 'z'))) := rfl
  rw [h]
  simp [letters, or_comm]

lemma isDigit_iff_digits (c : Char) : c.isDigit = true ↔ c ∈ digits := by
  have h : c.isDigit = (decide ('0' ≤ c) && decide (c ≤ '9')) := rfl
  rw [h]
  simp [digits]

lemma isIdentifierStart_iff (c : Char) : isIdentifierStart c = true ↔ c ∈ letters ∪ {'_'} := by
  simp [isIdentifierStart, isAlpha_iff_letters, or_comm]

lemma isIdentifierRest_iff (c : Char) :
    isIdentifierRest c = true ↔ c ∈ letters ∪ digits ∪ {'_', '.', '-'} := by
  simp only [isIdentifierRest, Char.isAlphanum, Bool.or_eq_true, beq_iff_eq, isAlpha_iff_letters,
    isDigit_iff_digits, Set.mem_union, Set.mem_insert_iff, Set.mem_singleton_iff, or_assoc]

lemma isIdentifier_iff {cs : List Char} : isIdentifier cs = true ↔ cs ∈ identifiers := by
  rw [identifiers, Language.mem_mul]
  cases cs with
  | nil =>
      refine iff_of_false Bool.false_ne_true ?_
      rintro ⟨first, ⟨c, _, rfl⟩, rest, _, h⟩
      exact List.cons_ne_nil c rest h
  | cons c cs =>
      rw [isIdentifier, Bool.and_eq_true, List.all_eq_true, isIdentifierStart_iff]
      simp only [isIdentifierRest_iff, ← mem_kstar_oneOf]
      constructor
      · rintro ⟨hc, hcs⟩
        exact ⟨[c], ⟨c, hc, rfl⟩, cs, hcs, rfl⟩
      · rintro ⟨first, ⟨d, hd, rfl⟩, rest, hrest, h⟩
        obtain ⟨rfl, rfl⟩ := List.cons.inj h
        exact ⟨hd, hrest⟩

/-- Every character of an identifier can continue one, also the first. -/
lemma isIdentifierRest_of_mem {cs : List Char} (h : isIdentifier cs = true) {c : Char}
    (hc : c ∈ cs) : isIdentifierRest c = true := by
  cases cs with
  | nil => exact absurd hc List.not_mem_nil
  | cons d ds =>
      rw [isIdentifier, Bool.and_eq_true, List.all_eq_true] at h
      rcases List.mem_cons.mp hc with rfl | hds
      · rw [isIdentifierStart_iff] at h
        rw [isIdentifierRest_iff]
        exact h.1.imp .inl .inl
      · exact h.2 c hds

/-- The language has the texts of the identifiers. -/
lemma mem_identifiers {cs : List Char} :
    cs ∈ identifiers ↔ ∃ i : Identifier, i.text.toList = cs := by
  constructor
  · intro h
    rw [← isIdentifier_iff, ← String.toList_ofList (l := cs)] at h
    exact ⟨⟨String.ofList cs, h⟩, String.toList_ofList⟩
  · rintro ⟨i, rfl⟩
    exact isIdentifier_iff.mp i.valid

end Name

/-- No separator is part of an identifier. -/
lemma Identifier.notMem_text (i : Identifier) {c : Char}
    (h : Name.isIdentifierRest c = false) : c ∉ i.text.toList := by
  intro hc
  rw [Name.isIdentifierRest_of_mem i.valid hc] at h
  exact Bool.false_ne_true h.symm

/-! ### Reading the parts of names -/

/-- A text that is checked and kept is read as the value that has this text. -/
lemma checked_eq_ok {α ε : Type} {valid : String → Prop} [DecidablePred valid]
    (make : ∀ text, valid text → α) (view : α → String) (hview : ∀ text h, view (make text h) = text)
    (hmake : ∀ a, ∃ h, make (view a) h = a) {text : String} {e : ε} {a : α} :
    (if h : valid text then .ok (make text h) else .error e : Except ε α) = .ok a ↔
      view a = text := by
  constructor
  · intro h
    split at h
    next hvalid => rw [← Except.ok.inj h, hview]
    next => simp at h
  · rintro rfl
    obtain ⟨hvalid, ha⟩ := hmake a
    rw [dif_pos hvalid, ha]

lemma Identifier.parse_eq_ok {text : String} {i : Identifier} :
    Identifier.parse text = .ok i ↔ i.text = text :=
  checked_eq_ok Identifier.mk Identifier.text (fun _ _ => rfl) fun i => ⟨i.valid, rfl⟩

lemma Revision.parse_eq_ok {text : String} {r : Revision} :
    Revision.parse text = .ok r ↔ r.text = text :=
  checked_eq_ok Revision.mk Revision.text (fun _ _ => rfl) fun r => ⟨r.valid, rfl⟩

lemma Namespace.parse_eq_ok {text : String} {s : Namespace} :
    Namespace.parse text = .ok s ↔ s.text = text :=
  checked_eq_ok Namespace.mk Namespace.text (fun _ _ => rfl) fun s => ⟨s.valid, rfl⟩

/-! ### Qualified names -/

namespace QualifiedName

variable {space name : String} {revision : Option String} {q : QualifiedName}

/-- A qualified name is made of the texts of its parts. -/
lemma create_eq_ok : create space revision name = .ok q ↔
    q.space.text = space ∧ q.revision.map Revision.text = revision ∧ q.name.text = name := by
  cases revision with
  | none =>
      simp only [create, bind_eq_ok, pure_eq_ok, Namespace.parse_eq_ok, Identifier.parse_eq_ok,
        Option.map_eq_none_iff]
      constructor
      · rintro ⟨s, hs, _, rfl, i, hi, rfl⟩
        exact ⟨hs, rfl, hi⟩
      · rintro ⟨hs, hr, hi⟩
        exact ⟨q.space, hs, none, rfl, q.name, hi, by rw [← hr]⟩
  | some text =>
      simp only [create, bind_eq_ok, pure_eq_ok, Namespace.parse_eq_ok, Revision.parse_eq_ok,
        Identifier.parse_eq_ok, Option.map_eq_some_iff]
      constructor
      · rintro ⟨s, hs, r, hr, _, rfl, i, hi, rfl⟩
        exact ⟨hs, ⟨r, rfl, hr⟩, hi⟩
      · rintro ⟨hs, ⟨r, hq, hr⟩, hi⟩
        exact ⟨q.space, hs, r, hr, some r, rfl, q.name, hi, by rw [← hq]⟩

/-- The texts that qualified names are made of. A namespace is any text without
blanks that is not empty. -/
lemma exists_create_eq_ok : (∃ q, create space revision name = .ok q) ↔
    (space ≠ "" ∧ ∀ c ∈ space.toList, isBlank c = false) ∧
      (∀ r ∈ revision, Name.isRevision r.toList = true) ∧ name.toList ∈ Name.identifiers := by
  have hspace : (space ≠ "" ∧ ∀ c ∈ space.toList, isBlank c = false) ↔
      Name.isNamespace space.toList = true := by
    simp [Name.isNamespace]
  rw [hspace, ← Name.isIdentifier_iff]
  constructor
  · rintro ⟨q, hq⟩
    obtain ⟨rfl, rfl, rfl⟩ := create_eq_ok.mp hq
    refine ⟨q.space.valid, ?_, q.name.valid⟩
    intro text htext
    obtain ⟨r, -, rfl⟩ := Option.map_eq_some_iff.mp htext
    exact r.valid
  · rintro ⟨hs, hr, hi⟩
    cases revision with
    | none => exact ⟨⟨⟨space, hs⟩, none, ⟨name, hi⟩⟩, create_eq_ok.mpr ⟨rfl, rfl, rfl⟩⟩
    | some r =>
        exact ⟨⟨⟨space, hs⟩, some ⟨r, hr r rfl⟩, ⟨name, hi⟩⟩, create_eq_ok.mpr ⟨rfl, rfl, rfl⟩⟩

/-- The last parenthesis of a text stands right before the local name. -/
lemma localText_text (q : QualifiedName) : localText q.text = q.name.text := by
  -- The namespace may have parentheses, so only the local name is known not to have one.
  have hname : ')' ∉ q.name.text.toList := q.name.notMem_text (by decide)
  have htext : ∃ before, q.text.toList = before ++ ')' :: q.name.text.toList := by
    rw [text]
    cases q.revision with
    | none => exact ⟨'(' :: q.space.text.toList, by simp⟩
    | some r => exact ⟨'(' :: q.space.text.toList ++ "?revision=".toList ++ r.text.toList, by simp⟩
  obtain ⟨before, hbefore⟩ := htext
  exact afterLast_eq hbefore hname

end QualifiedName

/-! ### Schema names -/

namespace SchemaName

variable {t : String} {n : SchemaName}

/-- A name that has no module yet. -/
def IsUnresolved : SchemaName → Prop
  | resolved _ => False
  | qualified _ _ => True
  | unqualified _ => True

/-- The prefix of a name. -/
def qualifier? : SchemaName → Option Identifier
  | resolved _ => none
  | qualified qualifier _ => some qualifier
  | unqualified _ => none

lemma toList_text_qualified (qualifier name : Identifier) :
    (qualified qualifier name).text.toList = qualifier.text.toList ++ ':' :: name.text.toList := by
  simp [text]

/-- A written name is read back: the first colon of its text is the one that was
written. -/
lemma parse_text (h : n.IsUnresolved) : parse n.text = .ok n := by
  cases n with
  | resolved q => exact h.elim
  | qualified qualifier name =>
      have hcolon : ':' ∉ qualifier.text.toList := qualifier.notMem_text (by decide)
      have hsplit := splitAtFirst?_append hcolon name.text.toList
      rw [parse, toList_text_qualified, hsplit]
      simp only [bind_eq_ok, pure_eq_ok, Identifier.parse_eq_ok]
      exact ⟨qualifier, String.ofList_toList.symm, name, String.ofList_toList.symm, rfl⟩
  | unqualified name =>
      have hcolon : ':' ∉ name.text.toList := name.notMem_text (by decide)
      have hsplit := splitAtFirst?_eq_none.mpr hcolon
      rw [parse, text, hsplit]
      simp only [bind_eq_ok, pure_eq_ok, Identifier.parse_eq_ok]
      exact ⟨name, rfl, rfl⟩

/-- What is read has no module, and the text that was read. -/
lemma text_of_parse (h : parse t = .ok n) : n.IsUnresolved ∧ n.text = t := by
  rw [parse] at h
  split at h
  next qualifier name hsplit =>
    simp only [bind_eq_ok, pure_eq_ok, Identifier.parse_eq_ok] at h
    obtain ⟨p, hp, i, hi, rfl⟩ := h
    obtain ⟨ht, -⟩ := splitAtFirst?_eq_some.mp hsplit
    refine ⟨trivial, String.toList_inj.mp ?_⟩
    rw [toList_text_qualified, hp, hi, ht, String.toList_ofList, String.toList_ofList]
  next =>
    simp only [bind_eq_ok, pure_eq_ok, Identifier.parse_eq_ok] at h
    obtain ⟨i, hi, rfl⟩ := h
    exact ⟨trivial, hi⟩

/-- The texts that are read: an identifier, or two with a colon between them. -/
lemma exists_parse_eq_ok : (∃ n, parse t = .ok n) ↔
    t.toList ∈ Name.identifiers + Name.identifiers * {[':']} * Name.identifiers := by
  rw [Language.mem_add, Language.mem_mul]
  simp only [Language.mem_mul, Name.mem_identifiers]
  constructor
  · rintro ⟨n, hn⟩
    obtain ⟨hunresolved, rfl⟩ := text_of_parse hn
    cases n with
    | resolved q => exact hunresolved.elim
    | qualified qualifier name =>
        refine .inr ⟨_, ⟨_, ⟨qualifier, rfl⟩, [':'], rfl, rfl⟩, _, ⟨name, rfl⟩, ?_⟩
        rw [toList_text_qualified, List.append_assoc, List.singleton_append]
    | unqualified name => exact .inl ⟨name, rfl⟩
  · rintro (⟨name, hname⟩ | ⟨_, ⟨_, ⟨qualifier, rfl⟩, _, rfl, rfl⟩, _, ⟨name, rfl⟩, ht⟩)
    · rw [← String.toList_inj.mp hname]
      exact ⟨_, parse_text (n := unqualified name) trivial⟩
    · rw [List.append_assoc, List.singleton_append, ← toList_text_qualified] at ht
      rw [← String.toList_inj.mp ht]
      exact ⟨_, parse_text (n := qualified qualifier name) trivial⟩

/-- A name is resolved with the module of its prefix. -/
lemma resolve_eq (h : n.IsUnresolved) (lookup : Option Identifier → Option QualifiedName) :
    n.resolve lookup = (lookup n.qualifier?).map fun module => module.bind n.localName := by
  cases n with
  | resolved q => exact h.elim
  | qualified qualifier name => rfl
  | unqualified name => rfl

end SchemaName

/-- **Names are read as they are written.** A text is read as a schema name
exactly if it is an identifier, or two identifiers with a colon between them, and
it is the text of what is read. A name without a module is read back from its
text. The local name of a qualified name is what follows the last parenthesis in
its text; this holds for all parts that a qualified name can be made of, also if
the namespace has parentheses. A resolved name keeps the local name and has the
namespace and the revision of the module that was found. -/
theorem names_read_as_written :
    (∀ t : String,
      ((∃ n, SchemaName.parse t = .ok n) ↔
        t.toList ∈ Name.identifiers + Name.identifiers * {[':']} * Name.identifiers) ∧
      ∀ n, SchemaName.parse t = .ok n → n.text = t) ∧
    (∀ n : SchemaName, n.IsUnresolved → SchemaName.parse n.text = .ok n) ∧
    (∀ (space : String) (revision : Option String) (name : String),
      ((∃ q, QualifiedName.create space revision name = .ok q) ↔
        (space ≠ "" ∧ ∀ c ∈ space.toList, isBlank c = false) ∧
          (∀ r ∈ revision, Name.isRevision r.toList = true) ∧ name.toList ∈ Name.identifiers) ∧
      ∀ q, QualifiedName.create space revision name = .ok q →
        q.name.text = name ∧ QualifiedName.localText q.text = name) ∧
    ∀ (n : SchemaName) (lookup : Option Identifier → Option QualifiedName)
      (module : QualifiedName), n.IsUnresolved → lookup n.qualifier? = some module →
        ∃ q, n.resolve lookup = some q ∧ q.name = n.localName ∧
          q.space = module.space ∧ q.revision = module.revision := by
  refine ⟨fun t => ⟨SchemaName.exists_parse_eq_ok, ?_⟩, fun n => SchemaName.parse_text,
    fun space revision name => ⟨QualifiedName.exists_create_eq_ok, ?_⟩, ?_⟩
  · intro n hn
    exact (SchemaName.text_of_parse hn).2
  · intro q hq
    obtain ⟨-, -, hname⟩ := QualifiedName.create_eq_ok.mp hq
    exact ⟨hname, q.localText_text.trans hname⟩
  · intro n lookup module hn hmodule
    rw [SchemaName.resolve_eq hn, hmodule]
    exact ⟨module.bind n.localName, rfl, rfl, rfl, rfl⟩

/-- A name with a prefix, in a module whose namespace has both separators and a
letter that is not of ASCII. -/
theorem names_read_as_written_parentheses :
    let module : QualifiedName :=
      ⟨⟨"urn:(σ):a)", by decide⟩, some ⟨"2024-03-01", by decide⟩, ⟨"types", by decide⟩⟩
    let n : SchemaName := .qualified ⟨"t", by decide⟩ ⟨"per-cent.1", by decide⟩
    n.IsUnresolved ∧ SchemaName.parse "t:per-cent.1" = .ok n ∧ n.text = "t:per-cent.1" ∧
      QualifiedName.create "urn:(σ):a)" (some "2024-03-01") "types" = .ok module ∧
      QualifiedName.localText module.text = "types" ∧
      (fun _ => some module) n.qualifier? = some module ∧
      ∃ q, n.resolve (fun _ => some module) = some q ∧ q.name = n.localName ∧
        q.space = module.space ∧ q.revision = module.revision := by
  intro module n
  have hcreate : QualifiedName.create "urn:(σ):a)" (some "2024-03-01") "types" = .ok module :=
    QualifiedName.create_eq_ok.mpr ⟨rfl, rfl, rfl⟩
  have hparse : SchemaName.parse "t:per-cent.1" = .ok n := names_read_as_written.2.1 n trivial
  exact ⟨trivial, hparse, (names_read_as_written.1 _).2 n hparse, hcreate,
    ((names_read_as_written.2.2.1 _ _ _).2 module hcreate).2, rfl,
    names_read_as_written.2.2.2 n (fun _ => some module) module trivial rfl⟩

end YangTypes
