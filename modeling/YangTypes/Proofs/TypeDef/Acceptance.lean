import Mathlib.Tactic
import YangTypes.Derivation.Build
import YangTypes.Proofs.Bound.Narrowing
import YangTypes.Proofs.TypeDef.Reading

/-!
Which texts a type accepts.

Four built-in types bound a number: integers and decimals the number that the
text denotes, strings and binaries the length of the text. They are treated as
one here. What is said holds for every `Engine`, that is, whatever it means to
match a pattern and to stand for bytes.

* `Facets.domain?`: the numbers of the built-in type, and `none` for a type that
  bounds no number; `Facets.measure?` is the number of a text, `Facets.bounds`
  the constraints on it and `Facets.readBound` the notation of their ends. All
  these numbers have the form that the domain says (`form_of_measure?`,
  `form_of_readBound`).
* `Facets.check_eq_ok_of_domain`: a text is accepted if its number is, and if
  all patterns accept it.
* `checkBits_eq_ok`, `TypeDef.accepts_union`: the same for the types whose
  texts are made of names, and for unions.
-/

namespace YangTypes

/-- The numbers of a built-in type: their form, and the least and the greatest
of them. -/
structure Domain where
  form : Number.Form
  least : ℚ
  greatest : ℚ

/-- The lengths: the integers of 64 bits without a sign. -/
def Domain.lengths : Domain := ⟨.integer, 0, 2 ^ 64 - 1⟩

/-- The values of an integer type. -/
def Domain.integers (kind : IntegerKind) : Domain := ⟨.integer, kind.low, kind.high⟩

/-- The decimals with some fraction digits: 64-bit integers with a sign, divided
by a power of ten. -/
def Domain.decimals (digits : ℕ) : Domain :=
  ⟨.decimal digits, -2 ^ 63 / 10 ^ digits, (2 ^ 63 - 1) / 10 ^ digits⟩

namespace Facets

/-- The numbers that a type bounds, before any restriction. -/
def domain? : Facets → Option Domain
  | binary _ => some .lengths
  | string .. => some .lengths
  | integer kind _ => some (.integers kind)
  | decimal64 digits _ => some (.decimals digits)
  | _ => none

/-- The constraints on the number of a text. -/
def bounds : Facets → List Constraint
  | binary lengths => lengths
  | string lengths _ => lengths
  | integer _ ranges => ranges
  | decimal64 _ ranges => ranges
  | _ => []

/-- The keyword of the statements that narrow the bounds. -/
def keyword : Facets → BoundKeyword
  | binary _ => .length
  | string .. => .length
  | _ => .range

/-- The notation of a bound. -/
def readBound : Facets → String → Except Violation Number
  | integer kind _ => fun text => (kind.parse text).map .integer
  | decimal64 digits _ => Derivation.readDecimal digits
  | _ => readLength

/-- The number of a text: the one that it denotes, or its length. -/
def measure? (text : String) (facets : Facets) (engine : Engine := .standard) : Option Number :=
  match facets with
  | binary _ => (engine.decode? (Text.trimChars text.toList)).map fun bytes =>
      .integer bytes.length
  | string .. => some (.integer text.length)
  | integer kind _ => (kind.parse text).toOption.map .integer
  | decimal64 digits _ => (parseDecimal digits text).toOption.map .decimal
  | _ => none

/-- The patterns of a string type. -/
def patterns : Facets → List Pattern
  | string _ patterns => patterns
  | _ => []

end Facets

/-! ### Reading keeps the form -/

namespace Facets

variable {facets : Facets} {domain : Domain} {text : String} {engine : Engine} {n : Number}

/-- The number of a text has the form of the domain. -/
lemma form_of_measure? (hdomain : facets.domain? = some domain)
    (h : facets.measure? text engine = some n) : n.form = domain.form := by
  cases facets with
  | binary lengths =>
      simp only [domain?, measure?, Option.some.injEq, Option.map_eq_some_iff] at hdomain h
      obtain ⟨_, -, rfl⟩ := h
      rw [← hdomain]
      rfl
  | string lengths patterns =>
      simp only [domain?, measure?, Option.some.injEq] at hdomain h
      rw [← hdomain, ← h]
      rfl
  | integer kind ranges =>
      simp only [domain?, measure?, Option.some.injEq, Option.map_eq_some_iff] at hdomain h
      obtain ⟨_, -, rfl⟩ := h
      rw [← hdomain]
      rfl
  | decimal64 digits ranges =>
      simp only [domain?, measure?, Option.some.injEq, Option.map_eq_some_iff,
        toOption_eq_some] at hdomain h
      obtain ⟨d, hd, rfl⟩ := h
      rw [← hdomain, Number.form, (parseDecimal_eq_ok.mp hd).1]
      rfl
  | _ => simp [domain?] at hdomain

/-- A bound has the form of the domain. -/
lemma form_of_readBound (hdomain : facets.domain? = some domain)
    (h : facets.readBound text = .ok n) : n.form = domain.form := by
  cases facets with
  | binary lengths =>
      simp only [domain?, readBound, readLength, Option.some.injEq, map_eq_ok] at hdomain h
      obtain ⟨_, -, rfl⟩ := h
      rw [← hdomain]
      rfl
  | string lengths patterns =>
      simp only [domain?, readBound, readLength, Option.some.injEq, map_eq_ok] at hdomain h
      obtain ⟨_, -, rfl⟩ := h
      rw [← hdomain]
      rfl
  | integer kind ranges =>
      simp only [domain?, readBound, Option.some.injEq, map_eq_ok] at hdomain h
      obtain ⟨_, -, rfl⟩ := h
      rw [← hdomain]
      rfl
  | decimal64 digits ranges =>
      simp only [domain?, readBound, Derivation.readDecimal, Option.some.injEq,
        map_eq_ok] at hdomain h
      obtain ⟨d, hd, rfl⟩ := h
      rw [← hdomain, Number.form, (parseDecimal_eq_ok.mp hd).1]
      rfl
  | _ => simp [domain?] at hdomain

end Facets

/-! ### Facets -/

/-- A text passes patterns if each of them accepts it. -/
lemma checkPatterns_eq_ok {engine : Engine} {text : String} {patterns : List Pattern} :
    checkPatterns engine text patterns = .ok () ↔
      ∀ p ∈ patterns, p.accepts text engine.isMatch = true := by
  induction patterns with
  | nil => simp [checkPatterns]
  | cons p ps ih =>
      have hp : p.check text engine.isMatch = .ok () ↔ p.accepts text engine.isMatch = true := by
        rw [Pattern.check]
        split <;> simp_all
      rw [checkPatterns, check_bind_eq_ok, List.forall_mem_cons, hp, ih]

/-- Names pass if all are members, no two are equal and none was seen before. -/
lemma checkBits_eq_ok {members : List Member} {seen names : List String} :
    checkBits members seen names = .ok () ↔
      (∀ name ∈ names, ∃ m ∈ members, m.name = name) ∧ names.Nodup ∧
        ∀ name ∈ names, name ∉ seen := by
  induction names generalizing seen with
  | nil => simp [checkBits]
  | cons name names ih =>
      have hmember : (members.all fun m => m.name != name) = true ↔
          ¬ ∃ m ∈ members, m.name = name := by
        simp
      rw [checkBits, List.nodup_cons, List.forall_mem_cons, List.forall_mem_cons]
      split
      next hall => simp [hmember.mp hall]
      next hall =>
        rw [hmember, not_not] at hall
        split
        next hseen => simp_all
        next hseen =>
          rw [ih]
          simp only [List.contains_eq_mem, decide_eq_true_eq] at hseen
          constructor
          · rintro ⟨hmem, hnodup, hnew⟩
            exact ⟨⟨hall, hmem⟩, ⟨fun h => hnew name h (by simp), hnodup⟩, hseen,
              fun other h => fun h' => hnew other h (by simp [h'])⟩
          · rintro ⟨⟨-, hmem⟩, ⟨hfresh, hnodup⟩, -, hnew⟩
            refine ⟨hmem, hnodup, fun other h h' => ?_⟩
            rcases List.mem_cons.mp h' with rfl | h''
            · exact hfresh h
            · exact hnew other h h''

namespace Facets

variable {facets : Facets} {domain : Domain} {text : String} {engine : Engine}

/-- A type that bounds a number accepts the texts whose number is within its
bounds and that satisfy its patterns. -/
lemma check_eq_ok_of_domain (h : facets.domain? = some domain) :
    facets.check text engine = .ok () ↔
      (∃ n, facets.measure? text engine = some n ∧ Constraint.check facets.bounds n = .ok ()) ∧
        ∀ p ∈ facets.patterns, p.accepts text engine.isMatch = true := by
  cases facets with
  | binary lengths =>
      simp only [check, measure?, bounds, patterns]
      cases engine.decode? (Text.trimChars text.toList) <;> simp
  | string lengths patterns =>
      rw [check, check_bind_eq_ok, measure?, bounds, Facets.patterns, checkPatterns_eq_ok]
      simp
  | integer kind ranges =>
      simp only [check, bind_eq_ok, measure?, bounds, patterns, Option.map_eq_some_iff,
        toOption_eq_some]
      simp
  | decimal64 digits ranges =>
      simp only [check, bind_eq_ok, measure?, bounds, patterns, Option.map_eq_some_iff,
        toOption_eq_some]
      simp
  | _ => simp [domain?] at h

lemma check_bits {members : List Member} :
    (bits members).check text engine = .ok () ↔
      (∀ word ∈ Text.words text, ∃ m ∈ members, m.name = word) ∧ (Text.words text).Nodup := by
  rw [check, checkBits_eq_ok]
  simp

lemma check_enumeration {members : List Member} :
    (enumeration members).check text engine = .ok () ↔ ∃ m ∈ members, m.name = text := by
  rw [check]
  simp

end Facets

/-! ### Types -/

namespace TypeDef

/-- A text is a value of a type. -/
def Accepts (t : TypeDef) (text : String) (engine : Engine := .standard) : Prop :=
  t.check text engine = .ok ()

/-- The numbers that a type bounds, before any restriction. -/
def domain? (t : TypeDef) : Option Domain :=
  match t.kind with
  | .integer kind => some (.integers kind)
  | .decimal64 => t.fractionDigits?.map .decimals
  | .string => some .lengths
  | .binary => some .lengths
  | _ => none

/-- The constraints on the number of a text: the ranges of a numeric type, the
lengths of a string or binary type. -/
def bounds (t : TypeDef) : List Constraint :=
  match t.kind with
  | .integer _ | .decimal64 => t.ranges
  | .string | .binary => t.lengths
  | _ => []

/-- The notation of a bound. -/
def readBound (t : TypeDef) : String → Except Violation Number :=
  match t.body with
  | .simple facets => facets.readBound
  | .union _ => readLength

/-- The number of a text. -/
def measure? (t : TypeDef) (text : String) (engine : Engine := .standard) : Option Number :=
  match t.body with
  | .simple facets => facets.measure? text engine
  | .union _ => none

variable {info : TypeInfo} {base : Option TypeDef} {text : String} {engine : Engine}

lemma domain?_simple {facets : Facets} :
    (⟨info, base, .simple facets⟩ : TypeDef).domain? = facets.domain? := by
  cases facets <;> rfl

lemma domain?_union {members : List TypeDef} :
    (⟨info, base, .union members⟩ : TypeDef).domain? = none := rfl

lemma bounds_simple {facets : Facets} :
    (⟨info, base, .simple facets⟩ : TypeDef).bounds = facets.bounds := by
  cases facets <;> rfl

lemma accepts_simple {facets : Facets} :
    (⟨info, base, .simple facets⟩ : TypeDef).Accepts text engine ↔
      facets.check text engine = .ok () := by
  rw [Accepts, check, checkBody]

lemma checkMembers_eq_ok {last : Violation} {members : List TypeDef} :
    checkMembers engine text last members = .ok () ↔ ∃ m ∈ members, m.Accepts text engine := by
  induction members generalizing last with
  | nil => simp [checkMembers]
  | cons m members ih =>
      rw [checkMembers]
      split
      next hm => simp [Accepts, hm]
      next report hm => simp [ih, Accepts, hm]

/-- A union accepts what one of its members accepts. -/
lemma accepts_union {members : List TypeDef} :
    (⟨info, base, .union members⟩ : TypeDef).Accepts text engine ↔
      ∃ m ∈ members, m.Accepts text engine := by
  rw [Accepts, check, checkBody, checkMembers_eq_ok]

end TypeDef

end YangTypes
