import Mathlib.Tactic
import YangTypes.Proofs.Decimal.WordScan

/-!
Reading a text is reading its bytes.

A character that is not in the first 128 is more than one byte, and neither it
nor any of its bytes can stand in a decimal. So the first one of them stops both
readings, at the same offset and for the same reason.

* `spread`: the bytes of characters, as characters. `spread_ascii` and
  `spread_wide` are the two ways in which it goes on.
* `readChars_spread`: reading does not tell a text from its bytes.
* `LeastForm`: a number written with the smallest scale. `leastForm_iff` finds
  it from the digits.
* `parse_exact`: a text is read exactly if it denotes a number whose least form
  is a decimal, and the scan of its bytes has no fault.
-/

namespace YangTypes.Decimal

open Text WordScan

/-! ### The bytes of characters -/

/-- The bytes of characters, as the characters with the same codes. -/
def spread (cs : List Char) : List Char := chars (cs.flatMap String.utf8EncodeChar)

/-- A character that is more than one byte. -/
def Wide (c : Char) : Prop := 128 ≤ c.toNat

instance (c : Char) : Decidable (Wide c) := inferInstanceAs (Decidable (_ ≤ _))

lemma spread_append (as bs : List Char) : spread (as ++ bs) = spread as ++ spread bs := by
  rw [spread, List.flatMap_append, chars, List.map_append]
  rfl

lemma spread_ascii {c : Char} (h : ¬ Wide c) (cs : List Char) :
    spread (c :: cs) = c :: spread cs := by
  have hsize : c.utf8Size = 1 := by
    rw [Char.utf8Size_eq_one_iff, UInt32.le_iff_toNat_le]
    exact Nat.le_of_lt_succ (not_le.mp h)
  have hcode : Char.ofUInt8 c.val.toUInt8 = c := by
    rw [ofUInt8_eq_iff (by simp only [Wide] at h; omega)]
    rfl
  rw [spread, List.flatMap_cons, String.utf8EncodeChar_eq_singleton hsize, chars, List.map_append,
    List.map_singleton, hcode]
  rfl

/-- The bytes of a wide character are wide. -/
lemma le_of_mem_utf8EncodeChar {c : Char} (h : Wide c) :
    ∀ byte ∈ String.utf8EncodeChar c, 128 ≤ byte.toNat := by
  have hcode : ¬ c.val.toNat ≤ 127 := fun hle => by
    have hwide : 128 ≤ c.val.toNat := h
    omega
  rw [String.utf8EncodeChar]
  simp only [if_neg hcode]
  split_ifs
  · simp only [List.forall_mem_cons, UInt8.toNat_ofNat']
    exact ⟨by omega, by omega, nofun⟩
  · simp only [List.forall_mem_cons, UInt8.toNat_ofNat']
    exact ⟨by omega, by omega, by omega, nofun⟩
  · simp only [List.forall_mem_cons, UInt8.toNat_ofNat']
    exact ⟨by omega, by omega, by omega, by omega, nofun⟩

lemma spread_wide {c : Char} (h : Wide c) :
    ∃ b bs, (∀ x ∈ b :: bs, Wide x) ∧ ∀ cs, spread (c :: cs) = b :: bs ++ spread cs := by
  have hne : String.utf8EncodeChar c ≠ [] := by
    rw [← List.length_pos_iff, String.length_utf8EncodeChar]
    exact c.utf8Size_pos
  obtain ⟨byte, bytes, hbytes⟩ := List.exists_cons_of_ne_nil hne
  refine ⟨Char.ofUInt8 byte, chars bytes, ?_, fun cs => ?_⟩
  · intro x hx
    obtain ⟨y, hy, rfl⟩ := List.mem_map.mp (List.map_cons ▸ hx : x ∈ (byte :: bytes).map _)
    exact le_of_mem_utf8EncodeChar h y (hbytes ▸ hy)
  · rw [spread, List.flatMap_cons, hbytes, chars, List.map_append]
    rfl

lemma exists_spread_cons {c : Char} (h : Wide c) (cs : List Char) :
    ∃ b bs, Wide b ∧ spread (c :: cs) = b :: bs := by
  obtain ⟨b, bs, hwide, hspread⟩ := spread_wide h
  exact ⟨b, bs ++ spread cs, hwide b List.mem_cons_self, hspread cs⟩

/-! ### What is not wide -/

lemma not_wide_of_isDigit {c : Char} (h : IsDigit c) : ¬ Wide c := by
  rw [isDigit_iff] at h
  rw [Wide]
  omega

lemma Wide.not_isDigit {c : Char} (h : Wide c) : ¬ IsDigit c := fun hdigit =>
  not_wide_of_isDigit hdigit h

/-- A wide character is none of those that stand in a decimal. -/
lemma Wide.ne {c d : Char} (h : Wide c) (hd : d.toNat < 128) : c ≠ d := by
  rintro rfl
  exact absurd hd (not_lt.mpr h)

/-- Digits are their own bytes. -/
lemma spread_digits {cs : List Char} (h : ∀ c ∈ cs, IsDigit c) : spread cs = cs := by
  induction cs with
  | nil => rfl
  | cons c cs ih =>
      obtain ⟨hc, hcs⟩ := List.forall_mem_cons.mp h
      rw [spread_ascii (not_wide_of_isDigit hc), ih hcs]

lemma spread_zeros (k : ℕ) : spread (List.replicate k '0') = List.replicate k '0' :=
  spread_digits fun _ => isDigit_of_mem_zeros

/-! ### Reading the bytes -/

/-- Digits end at the first character that is none, whatever follows it. -/
lemma readDigits_not_isDigit {tooLong : TextError} {room offset acc : ℕ} {c : Char}
    (h : ¬ IsDigit c) (cs : List Char) :
    readDigits tooLong room offset acc (c :: cs) =
      if room = 0 then .error tooLong else .error (.illegalCharacter offset) := by
  cases room with
  | zero => rw [readDigits, if_pos rfl]
  | succ room => rw [readDigits, digit?_eq_none.mpr h, if_neg (Nat.succ_ne_zero _)]

lemma readDigits_spread {tooLong : TextError} {room offset acc : ℕ} {cs : List Char} :
    readDigits tooLong room offset acc (spread cs) = readDigits tooLong room offset acc cs := by
  induction cs generalizing room offset acc with
  | nil => rfl
  | cons c cs ih =>
      by_cases hc : Wide c
      · obtain ⟨b, bs, hb, hspread⟩ := exists_spread_cons hc cs
        rw [hspread, readDigits_not_isDigit hb.not_isDigit, readDigits_not_isDigit hc.not_isDigit]
      · rw [spread_ascii hc]
        cases room with
        | zero => rw [readDigits, readDigits]
        | succ room =>
            rw [readDigits, readDigits]
            split
            next => rfl
            next => exact ih

/-- What is dropped at the start are zeros. -/
lemma exists_dropLeadingZeros (cs : List Char) :
    ∃ k, cs = List.replicate k '0' ++ dropLeadingZeros cs := by
  fun_induction dropLeadingZeros cs with
  | case1 c cs hc ih =>
      obtain ⟨k, hk⟩ := ih
      exact ⟨k + 1, by rw [List.replicate_succ, List.cons_append, ← hk]⟩
  | case2 c cs hc => exact ⟨0, rfl⟩
  | case3 cs hshort => exact ⟨0, rfl⟩

lemma dropLeadingZeros_spread (cs : List Char) :
    dropLeadingZeros (spread cs) = spread (dropLeadingZeros cs) := by
  have hzero : ¬ Wide '0' := by decide
  fun_induction dropLeadingZeros cs with
  | case1 c cs hc ih =>
      have hascii : ¬ Wide c := not_wide_of_isDigit (isSome_digit?.mp hc)
      rw [spread_ascii hzero, spread_ascii hascii, dropLeadingZeros_zero_cons, if_pos hc,
        ← spread_ascii hascii, ih]
  | case2 c cs hc =>
      rw [spread_ascii hzero]
      by_cases hwide : Wide c
      · obtain ⟨b, bs, hb, hspread⟩ := exists_spread_cons hwide cs
        rw [hspread, dropLeadingZeros_zero_cons, if_neg (mt isSome_digit?.mp hb.not_isDigit)]
      · rw [spread_ascii hwide, dropLeadingZeros_zero_cons, if_neg hc]
  | case3 cs hshort =>
      cases cs with
      | nil => rfl
      | cons c cs =>
          by_cases hc : c = '0'
          · subst hc
            cases cs with
            | nil => rfl
            | cons d cs => exact absurd rfl (hshort d cs)
          · by_cases hwide : Wide c
            · obtain ⟨b, bs, hb, hspread⟩ := exists_spread_cons hwide cs
              rw [hspread, dropLeadingZeros_of_ne (hb.ne (by decide))]
            · rw [spread_ascii hwide, dropLeadingZeros_of_ne hc]

/-- As many bytes are dropped at the start as characters. -/
lemma length_spread_sub (cs : List Char) :
    (spread cs).length - (spread (dropLeadingZeros cs)).length =
      cs.length - (dropLeadingZeros cs).length := by
  obtain ⟨k, hk⟩ := exists_dropLeadingZeros cs
  have hspread : spread cs = List.replicate k '0' ++ spread (dropLeadingZeros cs) := by
    rw [← spread_zeros, ← spread_append, ← hk]
  have hlength := congrArg List.length hspread
  have hlength' := congrArg List.length hk
  rw [List.length_append, List.length_replicate] at hlength hlength'
  omega

lemma takeWhile_spread {p : Char → Bool} (hp : ∀ c, Wide c → p c = true) (cs : List Char) :
    (spread cs).takeWhile p = spread (cs.takeWhile p) ∧
      (spread cs).dropWhile p = spread (cs.dropWhile p) := by
  induction cs with
  | nil => exact ⟨rfl, rfl⟩
  | cons c cs ih =>
      by_cases hc : Wide c
      · obtain ⟨b, bs, hwide, hspread⟩ := spread_wide hc
        have hblock : ∀ x ∈ b :: bs, p x = true := fun x hx => hp x (hwide x hx)
        rw [List.takeWhile_cons_of_pos (hp c hc), List.dropWhile_cons_of_pos (hp c hc), hspread,
          hspread, List.takeWhile_append_of_pos hblock, List.dropWhile_append_of_pos hblock, ih.1]
        exact ⟨rfl, ih.2⟩
      · rw [spread_ascii hc, List.takeWhile_cons, List.dropWhile_cons, List.takeWhile_cons,
          List.dropWhile_cons]
        split
        next => exact ⟨by rw [spread_ascii hc, ih.1], ih.2⟩
        next => exact ⟨rfl, (spread_ascii hc cs).symm⟩

/-- The last byte of a character that is no zero is no zero. -/
lemma exists_spread_concat {l : Char} (h : l ≠ '0') (ds : List Char) :
    ∃ xs x, spread (ds ++ [l]) = xs ++ [x] ∧ x ≠ '0' := by
  by_cases hl : Wide l
  · obtain ⟨b, bs, hwide, hspread⟩ := spread_wide hl
    obtain ⟨xs, x, hx⟩ := (List.eq_nil_or_concat' (b :: bs)).resolve_left nofun
    have hne : x ≠ '0' := (hwide x (by rw [hx]; simp)).ne (by decide)
    refine ⟨spread ds ++ xs, x, ?_, hne⟩
    have hnil : spread [] = [] := rfl
    rw [spread_append, hspread, hx, hnil, List.append_nil, List.append_assoc]
  · exact ⟨spread ds, l, by rw [spread_append, spread_ascii hl]; rfl, h⟩

lemma dropTrailingZeros_spread (cs : List Char) :
    dropTrailingZeros (spread cs) = spread (dropTrailingZeros cs) := by
  obtain ⟨k, hk⟩ := exists_dropTrailingZeros cs
  have hspread : spread cs = spread (dropTrailingZeros cs) ++ List.replicate k '0' := by
    rw [← spread_zeros, ← spread_append, ← hk]
  rw [hspread, dropTrailingZeros_append_zeros]
  rcases List.eq_nil_or_concat' (dropTrailingZeros cs) with hnil | ⟨ds, l, hl⟩
  · rw [hnil]
    rfl
  · obtain ⟨xs, x, hx, hne⟩ := exists_spread_concat (ne_zero_of_dropTrailingZeros hl) ds
    rw [hl, hx, dropTrailingZeros_eq, List.rdropWhile_concat_neg _ _ _ (by simpa using hne)]

/-- A fraction is read from its bytes as from its characters. -/
lemma readFraction_spread {negative : Bool} {integer count offset : ℕ} (tail : List Char) :
    readFraction negative integer count offset ('.' :: spread tail) =
      readFraction negative integer count offset ('.' :: tail) := by
  cases tail with
  | nil => rfl
  | cons c cs =>
      have hlimit : min (maxScale - count + 1) maxScale ≠ 0 := by
        simp only [maxScale]
        omega
      by_cases hc : Wide c
      · obtain ⟨b, bs, hb, hspread⟩ := exists_spread_cons hc cs
        rw [hspread, readFraction, readFraction,
          readDigits_not_isDigit hb.not_isDigit, readDigits_not_isDigit hc.not_isDigit,
          if_neg hlimit]
        rfl
      · rw [spread_ascii hc, readFraction, readFraction, dropTrailingZeros_spread,
          ← spread_ascii hc, readDigits_spread]
        cases hread : readDigits (.fractionTooLong (min (maxScale - count + 1) maxScale))
            (min (maxScale - count + 1) maxScale) (offset + 1) 0 (c :: dropTrailingZeros cs) with
        | error reason => rfl
        | ok frac => rw [spread_digits (readDigits_eq_ok.mp hread).1]

/-- A decimal without its sign is read from its bytes as from its characters. -/
lemma readUnsigned_spread {negative : Bool} {offset : ℕ} (cs : List Char) :
    readUnsigned negative offset (spread cs) = readUnsigned negative offset cs := by
  have hpoint : ∀ c, Wide c → (c != '.') = true := fun c hc => bne_iff_ne.mpr (hc.ne (by decide))
  obtain ⟨htake, hdrop⟩ := takeWhile_spread hpoint (dropLeadingZeros cs)
  rw [readUnsigned, readUnsigned, dropLeadingZeros_spread, length_spread_sub, htake, hdrop]
  dsimp only
  rw [readDigits_spread]
  cases hread : readDigits .integerTooLong maxScale
      (offset + (cs.length - (dropLeadingZeros cs).length)) 0
      ((dropLeadingZeros cs).takeWhile (· != '.')) with
  | error reason => rfl
  | ok integer =>
      rw [spread_digits (readDigits_eq_ok.mp hread).1]
      cases hrest : (dropLeadingZeros cs).dropWhile (· != '.') with
      | nil => rfl
      | cons point tail =>
          have hhead := List.head_dropWhile_not (· != '.') (l := dropLeadingZeros cs)
            (by rw [hrest]; simp)
          obtain rfl : point = '.' := by simpa [hrest] using hhead
          rw [spread_ascii (by decide)]
          simp only [readFraction_spread]

lemma spread_ne_nil {cs : List Char} (h : cs ≠ []) : spread cs ≠ [] := by
  obtain ⟨c, cs, rfl⟩ := List.exists_cons_of_ne_nil h
  by_cases hc : Wide c
  · obtain ⟨b, bs, -, hspread⟩ := exists_spread_cons hc cs
    rw [hspread]
    nofun
  · rw [spread_ascii hc]
    nofun

/-- After a sign there has to be something. -/
lemma readChars_sign {cs : List Char} (h : cs ≠ []) :
    readChars ('-' :: cs) = readUnsigned true 1 cs ∧
      readChars ('+' :: cs) = readUnsigned false 1 cs := by
  obtain ⟨c, cs, rfl⟩ := List.exists_cons_of_ne_nil h
  exact ⟨rfl, rfl⟩

/-- **Reading does not tell a text from its bytes.** -/
lemma readChars_spread (cs : List Char) : readChars (spread cs) = readChars cs := by
  cases cs with
  | nil => rfl
  | cons c cs =>
      by_cases hc : Wide c
      · obtain ⟨b, bs, hb, hspread⟩ := exists_spread_cons hc cs
        rw [hspread, readChars_unsigned (hb.ne (by decide)) (hb.ne (by decide)), ← hspread,
          readUnsigned_spread, readChars_unsigned (hc.ne (by decide)) (hc.ne (by decide))]
      by_cases hsign : (c = '-' ∨ c = '+') ∧ cs ≠ []
      · obtain ⟨hsign, hne⟩ := hsign
        obtain ⟨hminus, hplus⟩ := readChars_sign hne
        obtain ⟨hminus', hplus'⟩ := readChars_sign (spread_ne_nil hne)
        rw [spread_ascii hc]
        rcases hsign with rfl | rfl
        · rw [hminus', readUnsigned_spread, hminus]
        · rw [hplus', readUnsigned_spread, hplus]
      · rw [spread_ascii hc]
        cases cs with
        | nil => rfl
        | cons d cs =>
            obtain ⟨hminus, hplus⟩ : c ≠ '-' ∧ c ≠ '+' := by simpa [not_or] using hsign
            rw [readChars_unsigned hminus hplus, readChars_unsigned hminus hplus,
              ← spread_ascii hc, readUnsigned_spread]

lemma toUTF8_toList (text : String) :
    text.toUTF8.data.toList = text.toList.flatMap String.utf8EncodeChar := by
  rw [String.toUTF8_eq_toByteArray, ← String.utf8Encode_toList, List.utf8Encode,
    List.data_toByteArray]

/-- The scan of the bytes of a text finds what reading the text finds. -/
lemma scan_toUTF8 (text : String) :
    scan text.toUTF8.data.toList = (readChars text.toList).mapError Halt.refused := by
  rw [scan_eq, toUTF8_toList, ← spread, readChars_spread]

/-! ### The form that is found -/

/-- A number is written as `unscaled / 10 ^ scale`, and there is no smaller scale
to write it with. -/
structure LeastForm (q : ℚ) (scale : ℕ) (unscaled : ℤ) : Prop where
  one_le : 1 ≤ scale
  value : q = unscaled / 10 ^ scale
  least : ∀ (s : ℕ) (u : ℤ), 1 ≤ s → q = u / 10 ^ s → scale ≤ s

lemma leastForm_iff {q : ℚ} {scale : ℕ} {unscaled : ℤ} :
    LeastForm q scale unscaled ↔
      1 ≤ scale ∧ q = unscaled / 10 ^ scale ∧ Shortest scale unscaled := by
  constructor
  · rintro ⟨hone, hvalue, hleast⟩
    refine ⟨hone, hvalue, ?_⟩
    by_contra hlonger
    obtain ⟨hne, u, rfl⟩ : scale ≠ 1 ∧ 10 ∣ unscaled := by
      simpa [Shortest, not_or] using hlonger
    obtain ⟨s, rfl⟩ := Nat.exists_eq_add_of_le' hone
    -- the last digit is a zero and can be dropped
    have hshorter : q = u / 10 ^ s := by
      rw [hvalue, pow_succ]
      push_cast
      field_simp
    have hle := hleast s u (by omega) hshorter
    omega
  · rintro ⟨hone, hvalue, hshortest⟩
    refine ⟨hone, hvalue, fun s u hs hu => ?_⟩
    exact hshortest.scale_le hs (hu.symm.trans hvalue)

/-- **Reading is exact and stays within its words.** A text is read as a decimal
if and only if it has the form `[+-]?digits(.digits)?` and the least form of the
number that it denotes has a scale up to 18 and an unscaled value of 64 bits; that
form is the result. The scan of its bytes, by index and with words, ends in the
same outcome without a fault, and so it does on any bytes. -/
theorem parse_exact (text : String) :
    (∀ (scale : ℕ) (unscaled : ℤ),
      (∃ d, parse text = .ok d ∧ d.scale = scale ∧ d.unscaled = unscaled) ↔
        (∃ q, DecimalLiteral text q ∧ LeastForm q scale unscaled) ∧
          scale ≤ 18 ∧ FitsSigned 64 unscaled) ∧
    (∃ outcome : Except TextError Decimal,
      parse text = outcome.mapError (fun e => .ofMessage (e.message text)) ∧
      WordScan.scan text.toUTF8.data.toList = outcome.mapError .refused) ∧
    ∀ bytes : List UInt8, WordScan.scan bytes ≠ .error .fault := by
  refine ⟨fun scale unscaled => ?_, ⟨readChars text.toList, ?_, scan_toUTF8 text⟩, fun bytes => ?_⟩
  · constructor
    · rintro ⟨d, hparse, rfl, rfl⟩
      obtain ⟨hliteral, hshortest⟩ := parse_eq_ok.mp hparse
      exact ⟨⟨d.toRat, hliteral, leastForm_iff.mpr ⟨d.scale_valid.1, rfl, hshortest⟩⟩,
        d.scale_valid.2, d.unscaled_fits⟩
    · rintro ⟨⟨q, hliteral, hform⟩, hscale, hfits⟩
      obtain ⟨hone, rfl, hshortest⟩ := leastForm_iff.mp hform
      exact ⟨⟨scale, unscaled, ⟨hone, hscale⟩, hfits⟩, parse_eq_ok.mpr ⟨hliteral, hshortest⟩, rfl,
        rfl⟩
  · rw [parse]
    cases readChars text.toList with
    | ok d => rfl
    | error e => rfl
  · rw [scan_eq]
    cases readChars (chars bytes) with
    | ok d => simp [Except.mapError]
    | error e => simp [Except.mapError]

end YangTypes.Decimal
