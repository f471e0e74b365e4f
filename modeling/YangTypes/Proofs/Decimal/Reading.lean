import Mathlib.Data.List.DropRight
import Mathlib.Tactic
import YangTypes.Decimal.Text
import YangTypes.Proofs.Bound.Value
import YangTypes.Proofs.Outcome
import YangTypes.Proofs.Text.Numeral

/-!
Reading a decimal is exact.

* `Shortest`: no fraction digit can be dropped, except the only one. A number
  has one shortest form (`shortest_unique`), and every decimal has it
  (`exists_shortest`).
* `Fraction`: what reading finds after the integer digits. With the zeros at the
  end dropped, integer digits and fraction are the shortest form of the number.
* `within_limits`: a number whose shortest form is a decimal never exceeds the
  limits on digits, so no text is refused because it is long.
* `parse_eq_ok`: a text is read as a decimal exactly if it denotes the number
  and the decimal is its shortest form.
-/

namespace YangTypes.Decimal

open Text

/-! ### Shortest forms -/

/-- There is one fraction digit, or the last one is not zero. -/
def Shortest (scale : ℕ) (unscaled : ℤ) : Prop := scale = 1 ∨ ¬ 10 ∣ unscaled

/-- A number has one shortest form. -/
lemma shortest_unique {s t : ℕ} {u v : ℤ} (hs : 1 ≤ s) (ht : 1 ≤ t) (hu : Shortest s u)
    (hv : Shortest t v) (h : (u : ℚ) / 10 ^ s = v / 10 ^ t) : s = t ∧ u = v := by
  wlog hle : s ≤ t generalizing s t u v
  · obtain ⟨hst, huv⟩ := this ht hs hv hu h.symm (by omega)
    exact ⟨hst.symm, huv.symm⟩
  obtain ⟨k, rfl⟩ := Nat.exists_eq_add_of_le hle
  have hmul := unscaled_eq_mul_pow h
  cases k with
  | zero => exact ⟨rfl, by simpa using hmul.symm⟩
  | succ k =>
      -- the longer form would end in a zero
      rcases hv with hone | hnot
      · omega
      · exact absurd ⟨u * 10 ^ k, by rw [hmul, pow_succ]; ring⟩ hnot

/-- Every decimal has a shortest form that is a decimal. -/
lemma exists_shortest (d : Decimal) :
    ∃ e : Decimal, e.toRat = d.toRat ∧ Shortest e.scale e.unscaled := by
  obtain ⟨s, u, hs, hu⟩ := d
  induction s generalizing u with
  | zero => exact absurd hs.1 (by omega)
  | succ s ih =>
      by_cases hshort : Shortest (s + 1) u
      · exact ⟨⟨s + 1, u, hs, hu⟩, rfl, hshort⟩
      · obtain ⟨hne, v, rfl⟩ : s + 1 ≠ 1 ∧ 10 ∣ u := by
          simpa [Shortest, not_or] using hshort
        have hs' : ValidScale s := ⟨by omega, by have := hs.2; omega⟩
        have hv : FitsSigned 64 v := by
          simp only [FitsSigned] at hu ⊢
          omega
        obtain ⟨e, he, hshort⟩ := ih v hs' hv
        refine ⟨e, he.trans ?_, hshort⟩
        rw [toRat, toRat, pow_succ]
        push_cast
        field_simp

/-! ### Digits -/

lemma digit?_eq_some {c : Char} {d : ℕ} : digit? c = some d ↔ IsDigit c ∧ digitNat c = d := by
  rw [digit?]
  split
  next hc => exact ⟨fun h => ⟨hc, Option.some.inj h⟩, fun h => congrArg some h.2⟩
  next hc => exact ⟨nofun, fun h => absurd h.1 hc⟩

lemma digit?_eq_none {c : Char} : digit? c = none ↔ ¬ IsDigit c := by
  rw [digit?]
  split
  next hc => exact ⟨nofun, fun h => absurd hc h⟩
  next hc => exact ⟨fun _ => hc, fun _ => rfl⟩

/-- Digits are read if there is room for them. -/
lemma readDigits_eq_ok {tooLong : TextError} {room offset acc n : ℕ} {cs : List Char} :
    readDigits tooLong room offset acc cs = .ok n ↔
      (∀ c ∈ cs, IsDigit c) ∧ cs.length ≤ room ∧ n = acc * 10 ^ cs.length + digitsNat cs := by
  induction cs generalizing room offset acc with
  | nil => simp [readDigits, eq_comm]
  | cons c cs ih =>
      cases room with
      | zero => simp [readDigits]
      | succ room =>
          rw [readDigits]
          split
          next hc =>
            rw [digit?_eq_none] at hc
            simp [hc]
          next d hd =>
            obtain ⟨hc, rfl⟩ := digit?_eq_some.mp hd
            have hvalue : (acc * 10 + digitNat c) * 10 ^ cs.length + digitsNat cs =
                acc * 10 ^ (c :: cs).length + digitsNat (c :: cs) := by
              rw [digitsNat_cons, List.length_cons, pow_succ]
              ring
            rw [ih, hvalue, List.forall_mem_cons, List.length_cons]
            simp [hc]

/-! ### Zeros that are dropped -/

/-- A zero before a digit changes nothing. -/
lemma unsignedDecimal_zero_cons {c : Char} {cs : List Char} {q : ℚ} (hc : IsDigit c) :
    UnsignedDecimal ('0' :: c :: cs) q ↔ UnsignedDecimal (c :: cs) q := by
  have hpoint : (c != '.') = true := bne_iff_ne.mpr hc.ne_point
  have hzero : ('0' != '.') = true := rfl
  have hdigits : ∀ {ds : List Char}, IsDigits ('0' :: c :: ds) ↔ IsDigits (c :: ds) := by
    simp [IsDigits, isDigit_iff]
  have hnat : ∀ ds, digitsNat ('0' :: ds) = digitsNat ds := by
    simp [digitsNat_cons, digitNat]
  simp only [unsignedDecimal_iff, List.takeWhile_cons_of_pos, List.dropWhile_cons_of_pos, hzero,
    hpoint, hdigits, hnat]

lemma unsignedDecimal_dropLeadingZeros (cs : List Char) {q : ℚ} :
    UnsignedDecimal (dropLeadingZeros cs) q ↔ UnsignedDecimal cs q := by
  fun_induction dropLeadingZeros cs with
  | case1 c cs hc ih =>
      obtain ⟨d, hd⟩ := Option.isSome_iff_exists.mp hc
      rw [ih, unsignedDecimal_zero_cons (digit?_eq_some.mp hd).1]
  | case2 c cs hc => rfl
  | case3 cs hshort => rfl

/-- What is left of two digits does not start with a zero. -/
lemma ne_zero_of_dropLeadingZeros {cs rest : List Char} {a b : Char}
    (h : dropLeadingZeros cs = a :: b :: rest) (hb : IsDigit b) : a ≠ '0' := by
  fun_induction dropLeadingZeros cs with
  | case1 c cs hc ih => exact ih h
  | case2 c cs hc =>
      obtain ⟨rfl, rfl, rfl⟩ : '0' = a ∧ c = b ∧ cs = rest := by simpa using h
      rw [Bool.not_eq_true, Option.isSome_eq_false_iff, Option.isNone_iff_eq_none,
        digit?_eq_none] at hc
      exact absurd hb hc
  | case3 cs hshort =>
      rintro rfl
      exact hshort b rest h

lemma dropTrailingZeros_eq (cs : List Char) :
    dropTrailingZeros cs = cs.rdropWhile (· == '0') := rfl

/-- What is dropped at the end are zeros. -/
lemma exists_dropTrailingZeros (cs : List Char) :
    ∃ k, cs = dropTrailingZeros cs ++ List.replicate k '0' := by
  have hzeros : cs.rtakeWhile (· == '0') =
      List.replicate (cs.rtakeWhile (· == '0')).length '0' :=
    List.eq_replicate_of_mem fun c hc => by simpa using List.mem_rtakeWhile_imp hc
  refine ⟨(cs.rtakeWhile (· == '0')).length, ?_⟩
  rw [← hzeros]
  exact List.rdropWhile_append_rtakeWhile.symm

/-- What is left does not end in a zero. -/
lemma ne_zero_of_dropTrailingZeros {cs ds : List Char} {l : Char}
    (h : dropTrailingZeros cs = ds ++ [l]) : l ≠ '0' := by
  rw [dropTrailingZeros_eq] at h
  have hnot := List.rdropWhile_last_not (· == '0') cs (by rw [h]; simp)
  simpa [h] using hnot

/-- Dropping zeros at the end of a fraction keeps its value. -/
lemma fraction_dropTrailingZeros (c : Char) (cs : List Char) :
    (digitsNat (c :: cs) : ℚ) / 10 ^ (c :: cs).length =
      digitsNat (c :: dropTrailingZeros cs) / 10 ^ (c :: dropTrailingZeros cs).length := by
  obtain ⟨k, hk⟩ := exists_dropTrailingZeros cs
  have happend : c :: cs = (c :: dropTrailingZeros cs) ++ List.replicate k '0' := by
    rw [List.cons_append, ← hk]
  rw [happend, digitsNat_append, digitsNat_replicate_zero, List.length_append,
    List.length_replicate, add_zero, pow_add]
  push_cast
  rw [mul_div_mul_right _ _ (by positivity)]

lemma isDigits_dropTrailingZeros {c : Char} {cs : List Char} :
    (∀ a ∈ c :: dropTrailingZeros cs, IsDigit a) ↔ IsDigits (c :: cs) := by
  obtain ⟨k, hk⟩ := exists_dropTrailingZeros cs
  have happend : c :: cs = (c :: dropTrailingZeros cs) ++ List.replicate k '0' := by
    rw [List.cons_append, ← hk]
  have hzero : IsDigit '0' := by decide
  rw [IsDigits, happend]
  simp only [List.mem_append, List.mem_replicate]
  constructor
  · intro h
    refine ⟨by simp, ?_⟩
    rintro a (ha | ⟨-, rfl⟩)
    · exact h a ha
    · exact hzero
  · exact fun h a ha => h.2 a (.inl ha)

/-- What is left of a fraction is shortest. -/
lemma shortest_dropTrailingZeros {c : Char} {cs : List Char} (h : IsDigits (c :: cs)) (n : ℕ) :
    Shortest (c :: dropTrailingZeros cs).length
      (n * 10 ^ (c :: dropTrailingZeros cs).length +
        digitsNat (c :: dropTrailingZeros cs) : ℕ) := by
  rcases List.eq_nil_or_concat' (dropTrailingZeros cs) with hnil | ⟨ds, l, hlast⟩
  · left
    rw [hnil]
    rfl
  · right
    have hl : IsDigit l := isDigits_dropTrailingZeros.mpr h l (by rw [hlast]; simp)
    have hpos := hl.digitNat_pos (ne_zero_of_dropTrailingZeros hlast)
    have hlt := hl.digitNat_lt
    have hvalue : n * 10 ^ (c :: ds ++ [l]).length + digitsNat (c :: ds ++ [l]) =
        10 * (n * 10 ^ (c :: ds).length + digitsNat (c :: ds)) + digitNat l := by
      rw [digitsNat_append, List.length_append, digitsNat_cons l, List.length_singleton,
        List.length_nil, digitsNat_nil]
      ring
    rw [hlast, ← List.cons_append, hvalue]
    omega

/-! ### What reading finds -/

/-- What follows the integer digits: nothing, or a point and a fraction. The
fraction is given by the number of its digits and the number that they denote,
without the zeros at its end. -/
inductive Fraction : List Char → ℕ → ℕ → Prop where
  | none : Fraction [] 1 0
  | digits {c : Char} {cs : List Char} (h : IsDigits (c :: cs)) :
      Fraction ('.' :: c :: cs) (c :: dropTrailingZeros cs).length
        (digitsNat (c :: dropTrailingZeros cs))

lemma Fraction.one_le {rest : List Char} {scale frac : ℕ} (h : Fraction rest scale frac) :
    1 ≤ scale := by
  cases h with
  | none => exact le_refl _
  | digits h => simp

lemma Fraction.shortest {rest : List Char} {scale frac : ℕ} (h : Fraction rest scale frac)
    (n : ℕ) : Shortest scale (n * 10 ^ scale + frac : ℕ) := by
  cases h with
  | none => exact .inl rfl
  | digits h => exact shortest_dropTrailingZeros h n

/-- The number that a text without a sign denotes, by its digits. -/
lemma unsignedDecimal_iff_fraction {cs : List Char} {q : ℚ} :
    UnsignedDecimal cs q ↔
      IsDigits (cs.takeWhile (· != '.')) ∧ ∃ scale frac,
        Fraction (cs.dropWhile (· != '.')) scale frac ∧
        q = ((digitsNat (cs.takeWhile (· != '.')) * 10 ^ scale + frac : ℕ) : ℚ) / 10 ^ scale := by
  have hsum : ∀ (n frac scale : ℕ), ((n * 10 ^ scale + frac : ℕ) : ℚ) / 10 ^ scale =
      n + frac / 10 ^ scale := by
    intro n frac scale
    push_cast
    rw [add_div, mul_div_cancel_right₀ _ (by positivity)]
  rw [unsignedDecimal_iff]
  refine and_congr_right fun _ => ?_
  constructor
  · rintro (⟨hrest, rfl⟩ | ⟨fs, hrest, hf, rfl⟩)
    · rw [hrest]
      exact ⟨1, 0, .none, by rw [hsum]; simp⟩
    · obtain ⟨c, fs, rfl⟩ := List.exists_cons_of_ne_nil hf.1
      rw [hrest]
      exact ⟨_, _, .digits hf, by rw [hsum, fraction_dropTrailingZeros]⟩
  · rintro ⟨scale, frac, hfraction, rfl⟩
    rw [hsum]
    generalize cs.dropWhile (· != '.') = rest at hfraction
    cases hfraction with
    | none => exact .inl ⟨rfl, by simp⟩
    | digits hf => exact .inr ⟨_, rfl, hf, by rw [← fraction_dropTrailingZeros]⟩

/-! ### Reading -/

/-- An integer with a sign or without. -/
def signed (negative : Bool) (n : ℤ) : ℤ := if negative then -n else n

lemma natAbs_signed (negative : Bool) (n : ℕ) : (signed negative n).natAbs = n := by
  cases negative <;> simp [signed]

/-- An unscaled value has at most 19 digits. -/
lemma natAbs_unscaled_lt (d : Decimal) : d.unscaled.natAbs < 10 ^ 19 := by
  have hfits := d.unscaled_fits
  simp only [FitsSigned, twoPow] at hfits
  norm_num at hfits ⊢
  omega

/-- An integer of at most 18 digits fits 64 bits. -/
lemma fits_of_natAbs_le {n : ℤ} (h : n.natAbs ≤ 10 ^ 18) : FitsSigned 64 n := by
  simp only [FitsSigned, twoPow]
  norm_num at h ⊢
  omega

lemma ofParts?_eq_some {scale : ℕ} {unscaled : ℤ} {d : Decimal} :
    ofParts? scale unscaled = some d ↔ d.scale = scale ∧ d.unscaled = unscaled := by
  rw [ofParts?]
  constructor
  · intro h
    simp only [Option.dite_none_right_eq_some, Option.some.injEq] at h
    obtain ⟨_, _, rfl⟩ := h
    exact ⟨rfl, rfl⟩
  · rintro ⟨rfl, rfl⟩
    rw [dif_pos d.scale_valid, dif_pos d.unscaled_fits]

/-- A decimal is put together from its parts whenever there is one. -/
lemma assemble_eq_ok {negative : Bool} {integer frac scale : ℕ} {d : Decimal} :
    assemble negative integer frac scale = .ok d ↔
      d.scale = scale ∧ d.unscaled = signed negative (integer * 10 ^ scale + frac : ℕ) := by
  have hmagnitude : (integer * tenPow scale + frac : ℤ) = (integer * 10 ^ scale + frac : ℕ) := by
    rw [tenPow_eq]
    push_cast
    rfl
  rw [assemble, hmagnitude, ← signed, ← ofParts?_eq_some]
  split
  next e he => rw [he, Except.ok.injEq, Option.some.injEq]
  next he => rw [he]; simp

/-- A fraction is read if the integer digits leave room for it. -/
lemma readFraction_eq_ok {negative : Bool} {integer count offset : ℕ} {rest : List Char}
    {d : Decimal} (hrest : ∀ c cs, rest = c :: cs → c = '.') :
    readFraction negative integer count offset rest = .ok d ↔
      ∃ frac, Fraction rest d.scale frac ∧ d.scale ≤ min (maxScale - count + 1) maxScale ∧
        d.unscaled = signed negative (integer * 10 ^ d.scale + frac : ℕ) := by
  rw [readFraction.eq_def]
  split
  next =>
    rw [assemble_eq_ok]
    constructor
    · rintro ⟨hscale, hunscaled⟩
      rw [hscale]
      exact ⟨0, .none, by simp [maxScale], hunscaled⟩
    · rintro ⟨frac, hfraction, -, hunscaled⟩
      generalize d.scale = scale at hfraction hunscaled
      cases hfraction
      exact ⟨rfl, hunscaled⟩
  next c =>
    simp only [reduceCtorEq, false_iff]
    rintro ⟨frac, hfraction, -⟩
    generalize d.scale = scale at hfraction
    cases hfraction
  next p c cs =>
    obtain rfl := hrest p (c :: cs) rfl
    simp only [bind_eq_ok, readDigits_eq_ok, isDigits_dropTrailingZeros, assemble_eq_ok, zero_mul,
      zero_add]
    constructor
    · rintro ⟨_, ⟨hdigits, hlength, rfl⟩, hscale, hunscaled⟩
      rw [hscale]
      exact ⟨_, .digits hdigits, hlength, hunscaled⟩
    · rintro ⟨frac, hfraction, hlength, hunscaled⟩
      generalize hscale : d.scale = scale at hfraction hlength hunscaled
      cases hfraction with
      | digits hdigits => exact ⟨_, ⟨hdigits, hlength, rfl⟩, rfl, hunscaled⟩

/-- A decimal without its sign is read if there is room for its digits. -/
lemma readUnsigned_iff_digits {negative : Bool} {offset : ℕ} {cs ds rest : List Char} {d : Decimal}
    (hds : (dropLeadingZeros cs).takeWhile (· != '.') = ds)
    (hrest : (dropLeadingZeros cs).dropWhile (· != '.') = rest) :
    readUnsigned negative offset cs = .ok d ↔
      IsDigits ds ∧ ds.length ≤ maxScale ∧
        ∃ frac, Fraction rest d.scale frac ∧ d.scale ≤ min (maxScale - ds.length + 1) maxScale ∧
          d.unscaled = signed negative (digitsNat ds * 10 ^ d.scale + frac : ℕ) := by
  have hpoint : ∀ c cs, rest = c :: cs → c = '.' := by
    rintro c tail rfl
    have hhead := List.head_dropWhile_not (· != '.') (l := dropLeadingZeros cs)
      (by rw [hrest]; simp)
    simpa [hrest] using hhead
  simp only [readUnsigned, hds, hrest, bind_eq_ok, readDigits_eq_ok, zero_mul, zero_add]
  constructor
  · rintro ⟨_, ⟨hdigits, hlength, rfl⟩, h⟩
    split at h
    next => simp at h
    next hne =>
      rw [List.isEmpty_iff] at hne
      exact ⟨⟨hne, hdigits⟩, hlength, (readFraction_eq_ok hpoint).mp h⟩
  · rintro ⟨⟨hne, hdigits⟩, hlength, h⟩
    refine ⟨_, ⟨hdigits, hlength, rfl⟩, ?_⟩
    rw [if_neg (by rwa [List.isEmpty_iff])]
    exact (readFraction_eq_ok hpoint).mpr h

/-- **The limits on digits refuse no decimal.** Without leading zeros the first
of two or more integer digits is worth at least its place, and a 64-bit integer
has at most 19 digits. -/
lemma within_limits {cs ds : List Char} {d : Decimal} {negative : Bool} {frac : ℕ}
    (hds : (dropLeadingZeros cs).takeWhile (· != '.') = ds) (hdigits : IsDigits ds)
    (hunscaled : d.unscaled = signed negative (digitsNat ds * 10 ^ d.scale + frac : ℕ)) :
    ds.length ≤ maxScale ∧ d.scale ≤ min (maxScale - ds.length + 1) maxScale := by
  have hscale := d.scale_valid
  simp only [ValidScale, maxScale] at hscale ⊢
  have hmagnitude : digitsNat ds * 10 ^ d.scale < 10 ^ 19 := by
    have hlt := d.natAbs_unscaled_lt
    rw [hunscaled, natAbs_signed] at hlt
    exact lt_of_le_of_lt (Nat.le_add_right _ _) hlt
  match ds, hdigits with
  | [_], _ => exact ⟨by simp, by simpa using hscale.2⟩
  | a :: b :: rest, hdigits =>
      have hb : IsDigit b := hdigits.2 b (by simp)
      have hne : a ≠ '0' := by
        have hcs := List.takeWhile_append_dropWhile (p := (· != '.')) (l := dropLeadingZeros cs)
        rw [hds] at hcs
        exact ne_zero_of_dropLeadingZeros hcs.symm hb
      have hpow : 10 ^ (b :: rest).length ≤ digitsNat (a :: b :: rest) :=
        pow_le_digitsNat (hdigits.2 a (by simp)) hne
      have hlt : 10 ^ ((b :: rest).length + d.scale) < 10 ^ 19 := by
        rw [pow_add]
        exact lt_of_le_of_lt (Nat.mul_le_mul_right _ hpow) hmagnitude
      have hlength := (Nat.pow_lt_pow_iff_right (by norm_num)).mp hlt
      simp only [List.length_cons] at hlength ⊢
      omega

lemma signed_div (negative : Bool) (n scale : ℕ) :
    ((signed negative n : ℤ) : ℚ) / 10 ^ scale =
      if negative then -((n : ℚ) / 10 ^ scale) else n / 10 ^ scale := by
  rw [signed]
  split
  · rw [Int.cast_neg, Int.cast_natCast, neg_div]
  · rw [Int.cast_natCast]

lemma shortest_signed {negative : Bool} {n scale : ℕ} :
    Shortest scale (signed negative n) ↔ Shortest scale n := by
  rw [Shortest, Shortest, signed]
  split <;> simp

/-- **Reading without a sign is exact.** -/
lemma readUnsigned_eq_ok {negative : Bool} {offset : ℕ} {cs : List Char} {d : Decimal} :
    readUnsigned negative offset cs = .ok d ↔
      (∃ q, UnsignedDecimal cs q ∧ d.toRat = if negative then -q else q) ∧
        Shortest d.scale d.unscaled := by
  simp only [← unsignedDecimal_dropLeadingZeros cs, unsignedDecimal_iff_fraction]
  rw [readUnsigned_iff_digits rfl rfl]
  constructor
  · rintro ⟨hdigits, -, frac, hfraction, -, hunscaled⟩
    refine ⟨⟨_, ⟨hdigits, _, _, hfraction, rfl⟩, ?_⟩, ?_⟩
    · rw [toRat, hunscaled, signed_div]
    · rw [hunscaled, shortest_signed]
      exact hfraction.shortest _
  · rintro ⟨⟨q, ⟨hdigits, scale, frac, hfraction, rfl⟩, htoRat⟩, hshortest⟩
    -- both forms are shortest, so the digits are those of the decimal
    rw [← signed_div] at htoRat
    obtain ⟨rfl, hunscaled⟩ := shortest_unique d.scale_valid.1 hfraction.one_le hshortest
      (shortest_signed.mpr (hfraction.shortest _)) htoRat
    obtain ⟨hlength, hlimit⟩ := within_limits rfl hdigits hunscaled
    exact ⟨hdigits, hlength, frac, hfraction, hlimit, hunscaled⟩

lemma readChars_eq_ok {cs : List Char} {d : Decimal} :
    readChars cs = .ok d ↔ Signed UnsignedDecimal cs d.toRat ∧ Shortest d.scale d.unscaled := by
  have hfree := unsignedDecimal_signFree
  have hempty : ∀ q, ¬ UnsignedDecimal [] q := fun q h => (unsignedDecimal_iff.mp h).1.1 rfl
  rw [readChars.eq_def]
  split
  next => simp [signed_plain_iff, hempty]
  next => simp [signed_minus_iff hfree, hempty]
  next => simp [signed_plus_iff hfree, hempty]
  next =>
    rw [readUnsigned_eq_ok, signed_minus_iff hfree]
    simp only [if_true]
  next =>
    rw [readUnsigned_eq_ok, signed_plus_iff hfree]
    simp
  next hminus hplus =>
    rw [readUnsigned_eq_ok, signed_plain_iff hplus hminus]
    simp

/-- **Reading is exact.** A text is read as a decimal if it denotes the number
and the decimal is the shortest form of it. -/
theorem parse_eq_ok {text : String} {d : Decimal} :
    parse text = .ok d ↔ DecimalLiteral text d.toRat ∧ Shortest d.scale d.unscaled := by
  rw [DecimalLiteral, ← readChars_eq_ok, parse]
  split <;> simp_all

end YangTypes.Decimal
