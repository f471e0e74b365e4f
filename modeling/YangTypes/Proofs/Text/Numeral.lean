import Mathlib.Data.List.TakeWhile
import Mathlib.Data.Nat.Digits.Lemmas
import Mathlib.Tactic
import YangTypes.Text.Literal

/-!
Written numbers, and the numbers that they denote.

* `digitsNat`: the number that decimal digits denote, the first one being the
  highest. `digitsNat_append` splits digits, `eq_of_digitsNat_eq` compares them,
  and `digitsNat_toDigits` is about the digits that are written for a number.
* `Signed`: what a text denotes if it may have a sign, given what the rest of it
  denotes.
* `IntegerLiteral`, `DecimalLiteral`: the two notations of numbers. A text
  denotes at most one number in each of them (`DecimalLiteral.unique`).
* `readInt?_ten_eq_some`: reading an integer accepts this notation and gives the
  number, for any length and any number of leading zeros.
-/

namespace YangTypes.Text

/-! ### Digits -/

/-- The characters from `0` to `9`. -/
def IsDigit (c : Char) : Prop := '0' ≤ c ∧ c ≤ '9'

instance (c : Char) : Decidable (IsDigit c) := inferInstanceAs (Decidable (_ ∧ _))

/-- The number that a digit stands for. -/
def digitNat (c : Char) : ℕ := c.toNat - '0'.toNat

/-- One or more digits. -/
def IsDigits (cs : List Char) : Prop := cs ≠ [] ∧ ∀ c ∈ cs, IsDigit c

instance (cs : List Char) : Decidable (IsDigits cs) :=
  decidable_of_iff (cs ≠ [] ∧ cs.all (IsDigit ·) = true) (by simp [IsDigits])

/-- The number that digits denote. -/
def digitsNat (cs : List Char) : ℕ := Nat.ofDigits 10 (cs.reverse.map digitNat)

lemma isDigit_iff {c : Char} : IsDigit c ↔ 48 ≤ c.toNat ∧ c.toNat ≤ 57 := Iff.rfl

lemma digitNat_eq (c : Char) : digitNat c = c.toNat - 48 := rfl

lemma IsDigit.digitNat_lt {c : Char} (h : IsDigit c) : digitNat c < 10 := by
  rw [isDigit_iff] at h
  rw [digitNat_eq]
  omega

/-- Only the digit `0` stands for zero. -/
lemma IsDigit.digitNat_pos {c : Char} (h : IsDigit c) (hne : c ≠ '0') : 0 < digitNat c := by
  rw [isDigit_iff] at h
  have hne' : c.toNat ≠ 48 := fun h' => hne (Char.toNat_inj.mp h')
  rw [digitNat_eq]
  omega

lemma IsDigit.ne_sign {c : Char} (h : IsDigit c) : c ≠ '+' ∧ c ≠ '-' := by
  constructor
  · rintro rfl
    exact absurd h (by decide)
  · rintro rfl
    exact absurd h (by decide)

lemma IsDigit.ne_point {c : Char} (h : IsDigit c) : c ≠ '.' := by
  rintro rfl
  exact absurd h (by decide)

@[simp]
lemma digitsNat_nil : digitsNat [] = 0 := rfl

lemma digitsNat_append (as bs : List Char) :
    digitsNat (as ++ bs) = digitsNat as * 10 ^ bs.length + digitsNat bs := by
  rw [digitsNat, List.reverse_append, List.map_append, Nat.ofDigits_append, List.length_map,
    List.length_reverse, ← digitsNat, ← digitsNat]
  ring

lemma digitsNat_cons (c : Char) (cs : List Char) :
    digitsNat (c :: cs) = digitNat c * 10 ^ cs.length + digitsNat cs := by
  rw [← List.singleton_append, digitsNat_append]
  simp [digitsNat]

lemma isDigit_of_mem_zeros {c : Char} {n : ℕ} (h : c ∈ List.replicate n '0') : IsDigit c := by
  rw [(List.mem_replicate.mp h).2]
  decide

lemma digitsNat_replicate_zero (n : ℕ) : digitsNat (List.replicate n '0') = 0 := by
  induction n with
  | zero => rfl
  | succ n ih =>
      rw [List.replicate_succ, digitsNat_cons, ih]
      simp [digitNat]

/-- If the first digit is not zero, the number is worth at least its place. -/
lemma pow_le_digitsNat {c : Char} {cs : List Char} (h : IsDigit c) (hne : c ≠ '0') :
    10 ^ cs.length ≤ digitsNat (c :: cs) := by
  rw [digitsNat_cons]
  have hpos := h.digitNat_pos hne
  calc 10 ^ cs.length ≤ digitNat c * 10 ^ cs.length := Nat.le_mul_of_pos_left _ hpos
    _ ≤ digitNat c * 10 ^ cs.length + digitsNat cs := Nat.le_add_right _ _

lemma IsDigit.digitChar_digitNat {c : Char} (h : IsDigit c) : (digitNat c).digitChar = c := by
  have hc := isDigit_iff.mp h
  apply Char.toNat_inj.mp
  rw [Nat.toNat_digitChar_of_lt_ten h.digitNat_lt, digitNat_eq]
  omega

/-- Digits of one length are determined by the number that they denote. -/
lemma eq_of_digitsNat_eq {as bs : List Char} (has : ∀ c ∈ as, IsDigit c)
    (hbs : ∀ c ∈ bs, IsDigit c) (hlength : as.length = bs.length)
    (h : digitsNat as = digitsNat bs) : as = bs := by
  have hlt : ∀ {cs : List Char}, (∀ c ∈ cs, IsDigit c) →
      ∀ d ∈ cs.reverse.map digitNat, d < 10 := by
    intro cs hcs d hd
    obtain ⟨c, hc, rfl⟩ := List.mem_map.mp hd
    exact (hcs c (List.mem_reverse.mp hc)).digitNat_lt
  have hback : ∀ {cs : List Char}, (∀ c ∈ cs, IsDigit c) →
      (cs.map digitNat).map Nat.digitChar = cs := by
    intro cs hcs
    rw [List.map_map]
    exact (List.map_congr_left fun c hc => (hcs c hc).digitChar_digitNat).trans (List.map_id cs)
  have hmap := Nat.ofDigits_inj_of_len_eq (by norm_num) (by simpa using hlength) (hlt has)
    (hlt hbs) h
  rw [List.map_reverse, List.map_reverse, List.reverse_inj] at hmap
  rw [← hback has, hmap, hback hbs]

/-! ### Writing digits -/

lemma isDigits_toDigits (n : ℕ) : IsDigits (Nat.toDigits 10 n) := by
  refine ⟨Nat.toDigits_ne_nil, fun c hc => ?_⟩
  have hdigit := Nat.isDigit_of_mem_toDigits (by norm_num) (by norm_num) hc
  rw [Char.isDigit_iff_toNat] at hdigit
  exact isDigit_iff.mpr hdigit

/-- Digits are read one by one, the first one being the highest. -/
lemma ofDigitChars_eq (cs : List Char) (acc : ℕ) :
    Nat.ofDigitChars 10 cs acc = acc * 10 ^ cs.length + digitsNat cs := by
  induction cs generalizing acc with
  | nil => simp [Nat.ofDigitChars]
  | cons c cs ih =>
      have hstep : Nat.ofDigitChars 10 (c :: cs) acc =
          Nat.ofDigitChars 10 cs (10 * acc + digitNat c) := rfl
      rw [hstep, ih, digitsNat_cons, List.length_cons, pow_succ]
      ring

/-- The digits of a number denote the number. -/
lemma digitsNat_toDigits (n : ℕ) : digitsNat (Nat.toDigits 10 n) = n := by
  have h := ofDigitChars_eq (Nat.toDigits 10 n) 0
  rw [Nat.ofDigitChars_ten_toDigits, zero_mul, zero_add] at h
  exact h.symm

/-! ### Signs -/

section

variable {α : Type} [Neg α]

/-- A text that may have a sign, and the number that it denotes if the rest
denotes numbers as `Denotes` says. -/
inductive Signed (Denotes : List Char → α → Prop) : List Char → α → Prop where
  | plain {cs : List Char} {a : α} (h : Denotes cs a) : Signed Denotes cs a
  | plus {cs : List Char} {a : α} (h : Denotes cs a) : Signed Denotes ('+' :: cs) a
  | minus {cs : List Char} {a : α} (h : Denotes cs a) : Signed Denotes ('-' :: cs) (-a)

/-- A notation without signs. -/
def SignFree (Denotes : List Char → α → Prop) : Prop :=
  ∀ c cs a, Denotes (c :: cs) a → c ≠ '+' ∧ c ≠ '-'

variable {Denotes : List Char → α → Prop} {cs : List Char} {a : α}

lemma signed_plus_iff (h : SignFree Denotes) : Signed Denotes ('+' :: cs) a ↔ Denotes cs a := by
  constructor
  · rintro (hplain | hplus)
    · exact absurd rfl (h _ _ _ hplain).1
    · assumption
  · exact .plus

lemma signed_minus_iff (h : SignFree Denotes) :
    Signed Denotes ('-' :: cs) a ↔ ∃ b, Denotes cs b ∧ a = -b := by
  constructor
  · rintro (hplain | _ | hminus)
    · exact absurd rfl (h _ _ _ hplain).2
    · exact ⟨_, hminus, rfl⟩
  · rintro ⟨b, hb, rfl⟩
    exact .minus hb

lemma signed_plain_iff (hplus : ∀ rest, cs ≠ '+' :: rest) (hminus : ∀ rest, cs ≠ '-' :: rest) :
    Signed Denotes cs a ↔ Denotes cs a := by
  constructor
  · rintro (hplain | _ | _)
    · exact hplain
    · exact absurd rfl (hplus _)
    · exact absurd rfl (hminus _)
  · exact .plain

/-- Signs keep a notation unambiguous. -/
lemma Signed.unique (h : SignFree Denotes)
    (hunique : ∀ cs a b, Denotes cs a → Denotes cs b → a = b) {b : α}
    (ha : Signed Denotes cs a) (hb : Signed Denotes cs b) : a = b := by
  cases ha with
  | plain ha =>
      refine hunique _ _ _ ha ((signed_plain_iff ?_ ?_).mp hb)
      · rintro rest rfl
        exact (h _ _ _ ha).1 rfl
      · rintro rest rfl
        exact (h _ _ _ ha).2 rfl
  | plus ha => exact hunique _ _ _ ha ((signed_plus_iff h).mp hb)
  | minus ha =>
      obtain ⟨b', hb', rfl⟩ := (signed_minus_iff h).mp hb
      rw [hunique _ _ _ ha hb']

end

/-! ### Notations -/

/-- Digits as the notation of an integer. -/
def UnsignedInteger (cs : List Char) (n : ℤ) : Prop := IsDigits cs ∧ n = digitsNat cs

/-- The notation of an unsigned number: digits, and perhaps a point and digits
after it. -/
inductive UnsignedDecimal : List Char → ℚ → Prop where
  | integer {cs : List Char} (h : IsDigits cs) : UnsignedDecimal cs (digitsNat cs)
  | fraction {cs fs : List Char} (h : IsDigits cs) (hf : IsDigits fs) :
      UnsignedDecimal (cs ++ '.' :: fs) (digitsNat cs + digitsNat fs / 10 ^ fs.length)

/-- A text denotes an integer: `[+-]?digits`. -/
def IntegerLiteral (text : String) (n : ℤ) : Prop := Signed UnsignedInteger text.toList n

/-- A text denotes a number: `[+-]?digits(.digits)?`. -/
def DecimalLiteral (text : String) (q : ℚ) : Prop := Signed UnsignedDecimal text.toList q

lemma unsignedInteger_signFree : SignFree UnsignedInteger :=
  fun _ _ _ h => (h.1.2 _ (by simp)).ne_sign

/-- The digits before the point, and what stands after it. -/
lemma unsignedDecimal_iff {cs : List Char} {q : ℚ} :
    UnsignedDecimal cs q ↔
      IsDigits (cs.takeWhile (· != '.')) ∧
        (cs.dropWhile (· != '.') = [] ∧ q = digitsNat (cs.takeWhile (· != '.')) ∨
          ∃ fs, cs.dropWhile (· != '.') = '.' :: fs ∧ IsDigits fs ∧
            q = digitsNat (cs.takeWhile (· != '.')) + digitsNat fs / 10 ^ fs.length) := by
  have hnopoint : ∀ {ds : List Char}, IsDigits ds → ∀ c ∈ ds, (c != '.') = true :=
    fun h c hc => bne_iff_ne.mpr (h.2 c hc).ne_point
  constructor
  · rintro (h | ⟨h, hf⟩)
    · rw [List.takeWhile_eq_self_iff.mpr (hnopoint h), List.dropWhile_eq_nil_iff.mpr (hnopoint h)]
      exact ⟨h, .inl ⟨rfl, rfl⟩⟩
    · rw [List.takeWhile_append_of_pos (hnopoint h), List.dropWhile_append_of_pos (hnopoint h)]
      simp only [List.takeWhile_cons, List.dropWhile_cons, bne_self_eq_false, Bool.false_eq_true,
        if_false, List.append_nil]
      exact ⟨h, .inr ⟨_, rfl, hf, rfl⟩⟩
  · rintro ⟨h, ⟨hrest, rfl⟩ | ⟨fs, hrest, hf, rfl⟩⟩
    · have hcs := List.takeWhile_append_dropWhile (p := (· != '.')) (l := cs)
      rw [hrest, List.append_nil] at hcs
      rw [hcs] at h ⊢
      exact .integer h
    · have hcs := List.takeWhile_append_dropWhile (p := (· != '.')) (l := cs)
      rw [hrest] at hcs
      have hfraction := UnsignedDecimal.fraction h hf
      rw [hcs] at hfraction
      exact hfraction

lemma unsignedDecimal_signFree : SignFree UnsignedDecimal := by
  intro c cs q h
  obtain ⟨⟨hne, hdigits⟩, -⟩ := unsignedDecimal_iff.mp h
  rw [List.takeWhile_cons] at hne hdigits
  split at hne
  next hc =>
    rw [if_pos hc] at hdigits
    exact (hdigits c (by simp)).ne_sign
  next => exact absurd rfl hne

lemma UnsignedDecimal.unique {cs : List Char} {p q : ℚ} (hp : UnsignedDecimal cs p)
    (hq : UnsignedDecimal cs q) : p = q := by
  obtain ⟨-, ⟨hp', rfl⟩ | ⟨fs, hp', -, rfl⟩⟩ := unsignedDecimal_iff.mp hp <;>
    obtain ⟨-, ⟨hq', rfl⟩ | ⟨gs, hq', -, rfl⟩⟩ := unsignedDecimal_iff.mp hq
  · rfl
  · simp [hp'] at hq'
  · simp [hp'] at hq'
  · obtain rfl : fs = gs := by simpa [hp'] using hq'
    rfl

/-- A text denotes at most one integer. -/
lemma IntegerLiteral.unique {text : String} {m n : ℤ} (hm : IntegerLiteral text m)
    (hn : IntegerLiteral text n) : m = n :=
  Signed.unique unsignedInteger_signFree (fun _ _ _ ha hb => ha.2.trans hb.2.symm) hm hn

/-- A text denotes at most one number. -/
lemma DecimalLiteral.unique {text : String} {p q : ℚ} (hp : DecimalLiteral text p)
    (hq : DecimalLiteral text q) : p = q :=
  Signed.unique unsignedDecimal_signFree (fun _ _ _ => UnsignedDecimal.unique) hp hq

/-- Texts that denote one integer denote the same integers. -/
lemma IntegerLiteral.congr {text text' : String} {m n : ℤ} (h : IntegerLiteral text n)
    (h' : IntegerLiteral text' n) : IntegerLiteral text m ↔ IntegerLiteral text' m := by
  constructor
  · intro hm
    rwa [hm.unique h]
  · intro hm
    rwa [hm.unique h']

/-- Texts that denote one number denote the same numbers. -/
lemma DecimalLiteral.congr {text text' : String} {p q : ℚ} (h : DecimalLiteral text q)
    (h' : DecimalLiteral text' q) : DecimalLiteral text p ↔ DecimalLiteral text' p := by
  constructor
  · intro hp
    rwa [hp.unique h]
  · intro hp
    rwa [hp.unique h']

lemma Signed.decimal {cs : List Char} {n : ℤ} (h : Signed UnsignedInteger cs n) :
    Signed UnsignedDecimal cs n := by
  cases h with
  | plain h =>
      obtain ⟨hdigits, rfl⟩ := h
      exact .plain (by exact_mod_cast UnsignedDecimal.integer hdigits)
  | plus h =>
      obtain ⟨hdigits, rfl⟩ := h
      exact .plus (by exact_mod_cast UnsignedDecimal.integer hdigits)
  | minus h =>
      obtain ⟨hdigits, rfl⟩ := h
      exact_mod_cast Signed.minus (UnsignedDecimal.integer hdigits)

/-- A text that denotes an integer denotes the same number as a decimal. -/
lemma IntegerLiteral.decimalLiteral {text : String} {n : ℤ} (h : IntegerLiteral text n) :
    DecimalLiteral text n :=
  Signed.decimal h

/-- The text of an integer denotes it. -/
lemma integerLiteral_toString (n : ℤ) : IntegerLiteral (toString n) n := by
  rw [IntegerLiteral, Int.toString_eq_repr, Int.repr_eq_if]
  split
  next hnonneg =>
    rw [Nat.toList_repr]
    refine .plain ⟨isDigits_toDigits _, ?_⟩
    rw [digitsNat_toDigits, Int.toNat_of_nonneg hnonneg]
  next hneg =>
    have hminus : UnsignedInteger (Nat.toDigits 10 (-n).toNat) (-n) := by
      refine ⟨isDigits_toDigits _, ?_⟩
      rw [digitsNat_toDigits, Int.toNat_of_nonneg (by omega)]
    rw [String.toList_append, Nat.toList_repr]
    simpa using Signed.minus hminus

/-! ### Reading integers -/

/-- Digits of a radix are read one by one, the first one being the highest. -/
lemma digitsValueFrom?_eq_some {radix acc n : ℕ} {cs : List Char} :
    digitsValueFrom? radix acc cs = some n ↔
      ∃ ds, List.Forall₂ (fun c d => digitValue? radix c = some d) cs ds ∧
        n = acc * radix ^ cs.length + Nat.ofDigits radix ds.reverse := by
  induction cs generalizing acc with
  | nil =>
      rw [digitsValueFrom?]
      constructor
      · intro h
        exact ⟨[], .nil, by simpa using (Option.some.inj h).symm⟩
      · rintro ⟨ds, hds, rfl⟩
        cases hds
        simp
  | cons c cs ih =>
      rw [digitsValueFrom?, Option.bind_eq_some_iff]
      have hvalue : ∀ d (ds : List ℕ), cs.length = ds.length →
          (acc * radix + d) * radix ^ cs.length + Nat.ofDigits radix ds.reverse =
            acc * radix ^ (c :: cs).length + Nat.ofDigits radix (d :: ds).reverse := by
        intro d ds hlen
        rw [List.reverse_cons, Nat.ofDigits_append, List.length_reverse, ← hlen, List.length_cons,
          Nat.ofDigits_singleton, pow_succ]
        ring
      constructor
      · rintro ⟨d, hd, hrest⟩
        obtain ⟨ds, hds, rfl⟩ := ih.mp hrest
        exact ⟨d :: ds, .cons hd hds, hvalue d ds hds.length_eq⟩
      · rintro ⟨_, hds, rfl⟩
        cases hds with
        | cons hd hds => exact ⟨_, hd, ih.mpr ⟨_, hds, (hvalue _ _ hds.length_eq).symm⟩⟩

/-- The digits of radix ten are `0` to `9`: letters stand for more. -/
lemma digitValue?_ten {c : Char} {d : ℕ} :
    digitValue? 10 c = some d ↔ IsDigit c ∧ digitNat c = d := by
  rw [digitValue?, Option.filter_eq_some_iff, decide_eq_true_eq]
  split
  next hc =>
    constructor
    · rintro ⟨hd, -⟩
      exact ⟨hc, Option.some.inj hd⟩
    · rintro ⟨hc, rfl⟩
      exact ⟨rfl, hc.digitNat_lt⟩
  next hc =>
    constructor
    · rintro ⟨hd, hlt⟩
      split at hd
      next => simp at hd; omega
      next =>
        split at hd
        next => simp at hd; omega
        next => simp at hd
    · rintro ⟨hc', -⟩
      exact absurd hc' hc

lemma digitsValue?_ten {cs : List Char} {n : ℕ} :
    digitsValue? 10 cs = some n ↔ IsDigits cs ∧ n = digitsNat cs := by
  have hdigits : ∀ {ds : List ℕ}, List.Forall₂ (fun c d => digitValue? 10 c = some d) cs ds ↔
      (∀ c ∈ cs, IsDigit c) ∧ cs.map digitNat = ds := by
    intro ds
    simp only [digitValue?_ten]
    rw [List.forall₂_and_left, ← List.forall₂_map_left_iff (R := Eq), List.forall₂_eq_eq_eq]
  rw [digitsValue?.eq_def]
  split
  next => simp [IsDigits]
  next hne =>
    rw [digitsValueFrom?_eq_some]
    simp only [hdigits, zero_mul, zero_add]
    constructor
    · rintro ⟨_, ⟨h, rfl⟩, rfl⟩
      exact ⟨⟨hne, h⟩, by rw [digitsNat, List.map_reverse]⟩
    · rintro ⟨h, rfl⟩
      exact ⟨_, ⟨h.2, rfl⟩, by rw [digitsNat, List.map_reverse]⟩

/-- No sign is a digit, in any radix. -/
lemma digitsValue?_signFree (radix : ℕ) :
    SignFree fun cs (n : ℤ) => ∃ m, digitsValue? radix cs = some m ∧ n = m := by
  rintro c cs n ⟨m, hm, -⟩
  constructor
  · rintro rfl
    simp [digitsValue?, digitsValueFrom?, digitValue?] at hm
  · rintro rfl
    simp [digitsValue?, digitsValueFrom?, digitValue?] at hm

/-- Reading an integer takes a sign off, if there is one. -/
lemma readInt?_eq_some {radix : ℕ} {cs : List Char} {n : ℤ} :
    readInt? radix cs = some n ↔
      Signed (fun cs (n : ℤ) => ∃ m, digitsValue? radix cs = some m ∧ n = m) cs n := by
  have hfree := digitsValue?_signFree radix
  have hcast : ∀ {cs : List Char} {k : ℤ},
      (do let m ← digitsValue? radix cs; pure (m : ℤ)) = some k ↔
        ∃ m, digitsValue? radix cs = some m ∧ k = m := by
    intro cs k
    cases digitsValue? radix cs <;> simp [eq_comm]
  rw [readInt?.eq_def]
  split
  next cs =>
    rw [signed_minus_iff hfree, Option.map_eq_some_iff]
    simp only [hcast, eq_comm]
  next cs =>
    rw [signed_plus_iff hfree, Option.map_eq_some_iff]
    simp only [hcast, exists_eq_right]
  next hminus hplus =>
    rw [signed_plain_iff hplus hminus, Option.map_eq_some_iff]
    simp only [hcast, exists_eq_right]

/-- **Reading a decimal integer is exact.** -/
lemma readInt?_ten_eq_some {text : String} {n : ℤ} :
    readInt? 10 text.toList = some n ↔ IntegerLiteral text n := by
  have hdenotes : (fun cs (n : ℤ) => ∃ m, digitsValue? 10 cs = some m ∧ n = m) =
      UnsignedInteger := by
    funext cs n
    simp [digitsValue?_ten, UnsignedInteger]
  rw [readInt?_eq_some, hdenotes, IntegerLiteral]

lemma readInt128?_eq_some {radix : ℕ} {text : String} {n : ℤ} :
    readInt128? radix text = some n ↔ readInt? radix text.toList = some n ∧ FitsInt128 n := by
  rw [readInt128?, Option.filter_eq_some_iff, decide_eq_true_eq]

end YangTypes.Text
