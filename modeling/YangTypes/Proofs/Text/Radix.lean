import Mathlib.Data.Nat.Digits.Lemmas
import Mathlib.Tactic
import YangTypes.Proofs.Text.Numeral

/-!
Integers written in any radix.

* `IsDigitOf`: the digits of a radix, in the order of an alphabet with small or
  with capital letters.
* `RadixLiteral`: at most one sign, then digits of the radix, and the integer
  that they denote. Nothing limits how many digits there are.
* `readInt?_eq_some_iff`: reading accepts this notation and gives the integer,
  so a text denotes at most one (`RadixLiteral.unique`).
* `render`: a number written in a radix, with zeros before it and each letter in
  either case; the text denotes the number (`radixLiteral_render`).
-/

namespace YangTypes.Text

variable {radix : ℕ}

/-! ### Digits of a radix -/

/-- The digits in the order of their values, with small letters. -/
def smallDigits : List Char := "0123456789abcdefghijklmnopqrstuvwxyz".toList

/-- The digits in the order of their values, with capital letters. -/
def capitalDigits : List Char := "0123456789ABCDEFGHIJKLMNOPQRSTUVWXYZ".toList

/-- A character is the digit of a value in a radix. -/
def IsDigitOf (radix : ℕ) (c : Char) (d : ℕ) : Prop :=
  d < radix ∧ (smallDigits[d]? = some c ∨ capitalDigits[d]? = some c)

/-- Where the three runs of characters stand in the alphabets. -/
lemma alphabets :
    (∀ d < 10, smallDigits[d]? = some (Char.ofNat (d + 48))) ∧
    ∀ d < 26, smallDigits[d + 10]? = some (Char.ofNat (d + 97)) ∧
      capitalDigits[d + 10]? = some (Char.ofNat (d + 65)) := by
  decide

lemma length_alphabets : smallDigits.length = 36 ∧ capitalDigits.length = 36 := ⟨rfl, rfl⟩

lemma digitValue?_alphabets :
    ∀ d < 36, smallDigits[d]?.bind (digitValue? 36) = some d ∧
      capitalDigits[d]?.bind (digitValue? 36) = some d := by
  decide

/-- **Reading a digit is exact**, in every radix. -/
lemma digitValue?_eq_some {c : Char} {d : ℕ} :
    digitValue? radix c = some d ↔ IsDigitOf radix c d := by
  constructor
  · intro h
    rw [digitValue?, Option.filter_eq_some_iff, decide_eq_true_eq] at h
    obtain ⟨hvalue, hlt⟩ := h
    have hchar : ∀ {low : ℕ}, low ≤ c.toNat → Char.ofNat (c.toNat - low + low) = c := by
      intro low hlow
      rw [Nat.sub_add_cancel hlow, Char.ofNat_toNat]
    refine ⟨hlt, ?_⟩
    split at hvalue
    next hc =>
      obtain ⟨hlow, hhigh⟩ : 48 ≤ c.toNat ∧ c.toNat ≤ 57 := hc
      obtain rfl : c.toNat - 48 = d := Option.some.inj hvalue
      rw [alphabets.1 _ (by omega), hchar hlow]
      exact .inl rfl
    next =>
      split at hvalue
      next hc =>
        obtain ⟨hlow, hhigh⟩ : 97 ≤ c.toNat ∧ c.toNat ≤ 122 := hc
        obtain rfl : c.toNat - 97 + 10 = d := Option.some.inj hvalue
        rw [(alphabets.2 _ (by omega)).1, hchar hlow]
        exact .inl rfl
      next =>
        split at hvalue
        next hc =>
          obtain ⟨hlow, hhigh⟩ : 65 ≤ c.toNat ∧ c.toNat ≤ 90 := hc
          obtain rfl : c.toNat - 65 + 10 = d := Option.some.inj hvalue
          rw [(alphabets.2 _ (by omega)).2, hchar hlow]
          exact .inr rfl
        next => simp at hvalue
  · rintro ⟨hlt, hc⟩
    have hsmall : d < 36 := by
      rcases hc with hc | hc
      · exact length_alphabets.1 ▸ (List.getElem?_eq_some_iff.mp hc).1
      · exact length_alphabets.2 ▸ (List.getElem?_eq_some_iff.mp hc).1
    have hread : digitValue? 36 c = some d := by
      obtain ⟨hsmallDigit, hcapitalDigit⟩ := digitValue?_alphabets d hsmall
      rcases hc with hc | hc
      · rwa [hc] at hsmallDigit
      · rwa [hc] at hcapitalDigit
    -- The radix decides only which digits are too large.
    rw [digitValue?, Option.filter_eq_some_iff] at hread ⊢
    exact ⟨hread.1, decide_eq_true hlt⟩

/-! ### Literals -/

/-- One or more digits of a radix, and the integer that they denote; the first
digit is the highest. -/
def UnsignedNumeral (radix : ℕ) (cs : List Char) (n : ℤ) : Prop :=
  cs ≠ [] ∧ ∃ ds, List.Forall₂ (IsDigitOf radix) cs ds ∧ n = Nat.ofDigits radix ds.reverse

/-- A text denotes an integer in a radix: `[+-]?digits`. -/
def RadixLiteral (radix : ℕ) (text : String) (n : ℤ) : Prop :=
  Signed (UnsignedNumeral radix) text.toList n

lemma digitsValue?_eq_some {cs : List Char} {n : ℕ} :
    digitsValue? radix cs = some n ↔ UnsignedNumeral radix cs n := by
  rw [digitsValue?.eq_def]
  split
  next => simp [UnsignedNumeral]
  next hne =>
    rw [digitsValueFrom?_eq_some, UnsignedNumeral]
    simp only [digitValue?_eq_some, zero_mul, zero_add, Nat.cast_inj]
    exact ⟨fun h => ⟨hne, h⟩, And.right⟩

/-- **Reading an integer is exact**, in every radix. -/
lemma readInt?_eq_some_iff {text : String} {n : ℤ} :
    readInt? radix text.toList = some n ↔ RadixLiteral radix text n := by
  have hdenotes : (fun cs (n : ℤ) => ∃ m, digitsValue? radix cs = some m ∧ n = m) =
      UnsignedNumeral radix := by
    funext cs n
    simp only [digitsValue?_eq_some, eq_iff_iff]
    constructor
    · rintro ⟨m, hm, rfl⟩
      exact hm
    · intro h
      obtain ⟨hne, ds, hds, rfl⟩ := h
      exact ⟨_, ⟨hne, ds, hds, rfl⟩, rfl⟩
  rw [readInt?_eq_some, hdenotes, RadixLiteral]

/-- A text denotes at most one integer in a radix. -/
lemma RadixLiteral.unique {text : String} {m n : ℤ} (hm : RadixLiteral radix text m)
    (hn : RadixLiteral radix text n) : m = n := by
  rw [← readInt?_eq_some_iff] at hm hn
  exact Option.some.inj (hm.symm.trans hn)

lemma readInt128?_eq_some_iff {text : String} {n : ℤ} :
    readInt128? radix text = some n ↔ RadixLiteral radix text n ∧ FitsInt128 n := by
  rw [readInt128?_eq_some, readInt?_eq_some_iff]

/-! ### Writing numbers -/

/-- The digit of a value, in one of the two cases. -/
def digitLetter (capital : Bool) (d : ℕ) : Char :=
  if capital then capitalDigits.getD d '0' else smallDigits.getD d '0'

/-- The values of the digits of a number, the highest one first; zero has one
digit. -/
def places (radix n : ℕ) : List ℕ := if n = 0 then [0] else (Nat.digits radix n).reverse

/-- A number in a radix, after some zeros; `capital` says at which places
letters are capital. -/
def render (radix zeros : ℕ) (capital : ℕ → Bool) (n : ℕ) : String :=
  String.ofList <|
    (List.replicate zeros 0 ++ places radix n).mapIdx fun i d => digitLetter (capital i) d

lemma isDigitOf_digitLetter {capital : Bool} {d : ℕ} (hd : d < radix) (hradix : radix ≤ 36) :
    IsDigitOf radix (digitLetter capital d) d := by
  have hread : ∀ alphabet : List Char, alphabet.length = 36 →
      alphabet[d]? = some (alphabet.getD d '0') := by
    intro alphabet hlength
    have hlt : d < alphabet.length := by omega
    rw [List.getD_eq_getElem?_getD, List.getElem?_eq_getElem hlt, Option.getD_some]
  refine ⟨hd, ?_⟩
  cases capital with
  | false => exact .inl (hread smallDigits length_alphabets.1)
  | true => exact .inr (hread capitalDigits length_alphabets.2)

lemma places_lt {n d : ℕ} (hradix : 2 ≤ radix) (hd : d ∈ places radix n) : d < radix := by
  rw [places] at hd
  split at hd
  next => simp at hd; omega
  next => exact Nat.digits_lt_base hradix (List.mem_reverse.mp hd)

lemma ofDigits_places (radix n : ℕ) : Nat.ofDigits radix (places radix n).reverse = n := by
  rw [places]
  split
  next h => simp [h]
  next => rw [List.reverse_reverse, Nat.ofDigits_digits]

/-- **A rendered number denotes the number.** -/
lemma radixLiteral_render (hradix : 2 ≤ radix ∧ radix ≤ 36) (zeros : ℕ) (capital : ℕ → Bool)
    (n : ℕ) : RadixLiteral radix (render radix zeros capital n) n := by
  have hplaces : ∀ d ∈ List.replicate zeros 0 ++ places radix n, d < radix := by
    refine List.forall_mem_append.mpr ⟨fun d hd => ?_, fun d hd => places_lt hradix.1 hd⟩
    rw [(List.mem_replicate.mp hd).2]
    omega
  have hne : places radix n ≠ [] := by
    rw [places]
    split
    next => simp
    next h => simpa [Nat.digits_eq_nil_iff_eq_zero] using h
  rw [RadixLiteral, render, String.toList_ofList]
  refine .plain ⟨by simpa using fun _ => hne, List.replicate zeros 0 ++ places radix n, ?_, ?_⟩
  · refine List.forall₂_iff_get.mpr ⟨List.length_mapIdx, fun i hi hi' => ?_⟩
    simp only [List.get_eq_getElem, List.getElem_mapIdx]
    exact isDigitOf_digitLetter (hplaces _ (List.getElem_mem hi')) hradix.2
  · rw [List.reverse_append, List.reverse_replicate, Nat.ofDigits_append_replicate_zero,
      ofDigits_places]

end YangTypes.Text
