import Mathlib.Tactic
import YangTypes.Proofs.Decimal.Writing

/-!
Reading a decimal with words and indices.

The scan goes over bytes by index, with 8-bit counters and 64-bit accumulators.
An index that is out of bounds and a result that does not fit its word stop it
with a fault. `scan_eq` says that there is no fault on any bytes, and that the
scan finds what reading the same characters as a list finds.

* `segment`: the bytes between two indices, as characters. `segment_cons` and
  `segment_concat` are what the loops see at its two ends.
* `skipZeros_eq`, `digitLoop_eq`, `trimZeros_eq`: one lemma for each loop. Their
  invariants are that the index stays within the limit, and that an accumulator
  of `n` digits is below `10 ^ n`.
* `assembleWords_eq`, `scanFraction_eq`, `scanUnsigned_eq`: the parts between.
-/

namespace YangTypes.Decimal

open Text

/-- Why a scan stops without a decimal. -/
inductive Halt where
  /-- An index out of bounds, or a result that does not fit its word. -/
  | fault
  | refused (reason : TextError)
deriving DecidableEq

namespace WordScan

/-! ### The scan -/

/-- Goes on if a condition holds. -/
def check (P : Prop) [Decidable P] : Except Halt Unit := if P then .ok () else .error .fault

/-- The byte at an index. -/
def byteAt (bytes : List UInt8) (index : ℕ) : Except Halt UInt8 :=
  match bytes[index]? with
  | some byte => .ok byte
  | none => .error .fault

/-- The bytes from `0` to `9`. -/
def isDigit (byte : UInt8) : Bool := '0'.toUInt8 ≤ byte && byte ≤ '9'.toUInt8

/-- The digit that a byte stands for. -/
def digitAt (byte : UInt8) (index : ℕ) : Except Halt ℕ := do
  if isDigit byte then
    check ('0'.toNat ≤ byte.toNat)
    .ok (byte.toNat - '0'.toNat)
  else .error (.refused (.illegalCharacter index))

/-- The index of the first byte that is not a zero before a digit. -/
def skipZeros (bytes : List UInt8) (limit index : ℕ) : Except Halt ℕ :=
  if _h : index < limit then do
    let byte ← byteAt bytes index
    if byte = '0'.toUInt8 then
      let next ← byteAt bytes (index + 1)
      if isDigit next then
        check (index + 1 ≤ bytes.length)
        skipZeros bytes limit (index + 1)
      else .ok index
    else .ok index
  else .ok index
termination_by limit - index

/-- Reads digits from an index on, until a byte at which it stops or the limit.
The results are the index, the number of digits and the number that they denote;
there may be at most `room` digits. -/
def digitLoop (bytes : List UInt8) (stops : UInt8 → Bool) (room : ℕ) (tooLong : TextError)
    (limit index count : ℕ) (acc : ℤ) : Except Halt (ℕ × ℕ × ℤ) :=
  if _h : index ≤ limit then do
    let byte ← byteAt bytes index
    if stops byte then .ok (index, count, acc)
    else if count = room then .error (.refused tooLong)
    else
      let digit ← digitAt byte index
      check (FitsSigned 64 (10 * acc))
      check (FitsSigned 64 (10 * acc + digit))
      check (index + 1 ≤ bytes.length)
      check (count + 1 < 256)
      digitLoop bytes stops room tooLong limit (index + 1) (count + 1) (10 * acc + digit)
  else .ok (index, count, acc)
termination_by limit + 1 - index

/-- Moves the limit before the zeros at the end, but not before an index. -/
def trimZeros (bytes : List UInt8) (index limit : ℕ) : Except Halt ℕ :=
  if _h : index < limit then do
    let byte ← byteAt bytes limit
    if byte = '0'.toUInt8 then
      check (1 ≤ limit)
      trimZeros bytes index (limit - 1)
    else .ok limit
  else .ok limit
termination_by limit

/-- The powers of ten from the first to the last scale. -/
def powers : List ℤ := (List.range maxScale).map fun offset => (tenPow (offset + 1) : ℤ)

/-- A power of ten. -/
def power (exponent : ℕ) : Except Halt ℤ :=
  if exponent = 0 then .ok 1
  else do
    check (1 ≤ exponent)
    match powers[exponent - 1]? with
    | some n => .ok n
    | none => .error .fault

/-- The decimal with a number of fraction digits, which is kept as its scale
less one. -/
def store (unscaled : ℤ) (count : ℕ) : Except Halt Decimal :=
  if hu : FitsSigned 64 unscaled then do
    check (1 ≤ count)
    if hs : ValidScale (count - 1 + 1) then .ok ⟨count - 1 + 1, unscaled, hs, hu⟩
    else .error .fault
  else .error (.refused .outOfRange)

/-- Puts sign, integer part and fraction together, in 128 bits. -/
def assembleWords (negative : Bool) (integer frac : ℤ) (count : ℕ) : Except Halt Decimal := do
  let factor ← power count
  check (FitsSigned 128 (integer * factor))
  check (FitsSigned 128 (integer * factor + frac))
  check (FitsSigned 128 (-(integer * factor + frac)))
  store (if negative then -(integer * factor + frac) else integer * factor + frac) count

/-- Goes on after the integer digits, which are `count` many. -/
def scanFraction (bytes : List UInt8) (negative : Bool) (limit index count : ℕ) (integer : ℤ) :
    Except Halt Decimal :=
  if limit < index then assembleWords negative integer 0 1
  else do
    check (index + 1 ≤ bytes.length)
    if limit < index + 1 then .error (.refused .noFractionDigits)
    else
      let limit ← trimZeros bytes (index + 1) limit
      check (count ≤ maxScale)
      check (maxScale - count + 1 < 256)
      let room := min (maxScale - count + 1) maxScale
      let (_, digits, frac) ←
        digitLoop bytes (fun _ => false) room (.fractionTooLong room) limit (index + 1) 0 0
      assembleWords negative integer frac digits

/-- Goes on after the sign. -/
def scanUnsigned (bytes : List UInt8) (negative : Bool) (index : ℕ) : Except Halt Decimal := do
  check (1 ≤ bytes.length)
  let limit := bytes.length - 1
  let index ← skipZeros bytes limit index
  let (index, count, integer) ←
    digitLoop bytes (· == '.'.toUInt8) maxScale .integerTooLong limit index 0 0
  if count = 0 then .error (.refused .noIntegerDigits)
  else scanFraction bytes negative limit index count integer

/-- Whether there is a minus sign, and the index after the sign. -/
def readSign (first : UInt8) : Bool × ℕ :=
  if first = '-'.toUInt8 then (true, 1)
  else if first = '+'.toUInt8 then (false, 1)
  else (false, 0)

/-- Reads bytes as a decimal. -/
def scan (bytes : List UInt8) : Except Halt Decimal :=
  if bytes.isEmpty then .error (.refused .empty)
  else do
    let first ← byteAt bytes 0
    let (negative, index) := readSign first
    if index = bytes.length then .error (.refused .noDigitsAfterSign)
    else scanUnsigned bytes negative index

/-! ### Bytes as characters -/

/-- Bytes as the characters with the same codes. -/
def chars (bytes : List UInt8) : List Char := bytes.map Char.ofUInt8

@[simp]
lemma length_chars (bytes : List UInt8) : (chars bytes).length = bytes.length := List.length_map _

lemma toNat_ofUInt8 (byte : UInt8) : (Char.ofUInt8 byte).toNat = byte.toNat := rfl

lemma ofUInt8_eq_iff {byte : UInt8} {c : Char} (hc : c.toNat < 256) :
    Char.ofUInt8 byte = c ↔ byte = c.toUInt8 := by
  rw [← Char.toNat_inj, toNat_ofUInt8, ← UInt8.toNat_inj]
  have hcode : c.toUInt8.toNat = c.toNat := Nat.mod_eq_of_lt hc
  rw [hcode]

lemma isDigit_eq_true {byte : UInt8} : isDigit byte = true ↔ IsDigit (Char.ofUInt8 byte) := by
  rw [isDigit, Bool.and_eq_true, decide_eq_true_iff, decide_eq_true_iff]
  exact Iff.rfl

/-! ### Steps that are taken -/

section

variable {α β : Type}

lemma ok_bind (a : α) (f : α → Except Halt β) : (Except.ok a >>= f) = f a := rfl

lemma check_bind {P : Prop} [Decidable P] (h : P) (f : Unit → Except Halt β) :
    (check P >>= f) = f () := by
  rw [check, if_pos h, ok_bind]

end

variable {bytes : List UInt8} {limit index : ℕ}

lemma byteAt_bind {β : Type} (h : index < bytes.length) (f : UInt8 → Except Halt β) :
    (byteAt bytes index >>= f) = f bytes[index] := by
  rw [byteAt, List.getElem?_eq_getElem h, ok_bind]

lemma digitAt_of_isDigit {byte : UInt8} (h : IsDigit (Char.ofUInt8 byte)) :
    digitAt byte index = .ok (digitNat (Char.ofUInt8 byte)) := by
  have hcode : '0'.toNat ≤ byte.toNat := h.1
  rw [digitAt, if_pos (isDigit_eq_true.mpr h), check_bind hcode]
  rfl

lemma digitAt_of_not_isDigit {byte : UInt8} (h : ¬ IsDigit (Char.ofUInt8 byte)) :
    digitAt byte index = .error (.refused (.illegalCharacter index)) := by
  rw [digitAt, if_neg (mt isDigit_eq_true.mp h)]

/-! ### The bytes between two indices -/

/-- The bytes from an index up to a limit, as characters. -/
def segment (bytes : List UInt8) (limit index : ℕ) : List Char :=
  chars ((bytes.take (limit + 1)).drop index)

lemma segment_of_lt (h : limit < index) : segment bytes limit index = [] := by
  rw [segment, List.drop_eq_nil_of_le (by rw [List.length_take]; omega)]
  rfl

lemma segment_cons (hlimit : limit < bytes.length) (h : index ≤ limit) :
    segment bytes limit index =
      Char.ofUInt8 bytes[index] :: segment bytes limit (index + 1) := by
  have hlength : index < (bytes.take (limit + 1)).length := by
    rw [List.length_take]
    omega
  rw [segment, List.drop_eq_getElem_cons hlength, List.getElem_take]
  rfl

lemma segment_concat (hlimit : limit + 1 < bytes.length) (h : index ≤ limit + 1) :
    segment bytes (limit + 1) index =
      segment bytes limit index ++ [Char.ofUInt8 bytes[limit + 1]] := by
  have hlength : index ≤ (bytes.take (limit + 1)).length := by
    rw [List.length_take]
    omega
  rw [segment, List.take_succ_eq_append_getElem hlimit, List.drop_append_of_le_length hlength,
    chars, List.map_append]
  rfl

/-- Up to the end the segment is what is left of the bytes. -/
lemma segment_eq_drop (hlimit : limit + 1 = bytes.length) :
    segment bytes limit index = (chars bytes).drop index := by
  rw [segment, hlimit, List.take_length, chars, chars, List.map_drop]

lemma length_segment (hlimit : limit < bytes.length) :
    (segment bytes limit index).length = limit + 1 - index := by
  rw [segment, length_chars, List.length_drop, List.length_take]
  omega

/-! ### The loops -/

lemma dropLeadingZeros_zero_cons (c : Char) (cs : List Char) :
    dropLeadingZeros ('0' :: c :: cs) =
      if (digit? c).isSome then dropLeadingZeros (c :: cs) else '0' :: c :: cs := by
  rw [dropLeadingZeros]

lemma dropLeadingZeros_of_ne {c : Char} {cs : List Char} (h : c ≠ '0') :
    dropLeadingZeros (c :: cs) = c :: cs := by
  rw [dropLeadingZeros]
  intro _ _ heq
  exact h (List.cons.inj heq).1

lemma dropLeadingZeros_singleton (c : Char) : dropLeadingZeros [c] = [c] := by
  rw [dropLeadingZeros]
  nofun

lemma isSome_digit? {c : Char} : (digit? c).isSome = true ↔ IsDigit c := by
  rw [digit?]
  split
  next h => exact iff_of_true rfl h
  next h => exact iff_of_false Bool.false_ne_true h

/-- Zeros are skipped, and a byte is left. -/
lemma skipZeros_eq (hlimit : limit < bytes.length) (h : index ≤ limit) :
    ∃ start, skipZeros bytes limit index = .ok start ∧ index ≤ start ∧ start ≤ limit ∧
      segment bytes limit start = dropLeadingZeros (segment bytes limit index) := by
  induction hsteps : limit - index generalizing index with
  | zero =>
      obtain rfl : index = limit := by omega
      refine ⟨index, ?_, le_refl _, le_refl _, ?_⟩
      · rw [skipZeros, dif_neg (lt_irrefl _)]
      · rw [segment_cons hlimit h, segment_of_lt (by omega), dropLeadingZeros_singleton]
  | succ steps ih =>
      rw [skipZeros, dif_pos (by omega), byteAt_bind (by omega)]
      by_cases hzero : bytes[index] = '0'.toUInt8
      · have hchar : Char.ofUInt8 bytes[index] = '0' := (ofUInt8_eq_iff (by decide)).mpr hzero
        rw [if_pos hzero, byteAt_bind (by omega), segment_cons hlimit h, hchar,
          segment_cons hlimit (by omega : index + 1 ≤ limit), dropLeadingZeros_zero_cons]
        by_cases hdigit : IsDigit (Char.ofUInt8 bytes[index + 1])
        · obtain ⟨start, hstart, hlow, hhigh, hsegment⟩ :=
            ih (by omega : index + 1 ≤ limit) (by omega)
          rw [if_pos (isDigit_eq_true.mpr hdigit), if_pos (isSome_digit?.mpr hdigit),
            check_bind (by omega), ← segment_cons hlimit (by omega)]
          exact ⟨start, hstart, by omega, hhigh, hsegment⟩
        · rw [if_neg (mt isDigit_eq_true.mp hdigit), if_neg (mt isSome_digit?.mp hdigit), ← hchar,
            ← segment_cons hlimit (by omega), ← segment_cons hlimit h]
          exact ⟨index, rfl, le_refl _, h, rfl⟩
      · have hchar : Char.ofUInt8 bytes[index] ≠ '0' := mt (ofUInt8_eq_iff (by decide)).mp hzero
        rw [if_neg hzero, segment_cons hlimit h, dropLeadingZeros_of_ne hchar,
          ← segment_cons hlimit h]
        exact ⟨index, rfl, le_refl _, h, rfl⟩

/-- One more digit keeps the accumulator below the next power of ten, and up to
18 digits within 64 bits. -/
lemma accumulator_step {acc digit count : ℕ} (hacc : acc < 10 ^ count) (hdigit : digit < 10)
    (hcount : count < maxScale) :
    10 * acc + digit < 10 ^ (count + 1) ∧ FitsSigned 64 (10 * acc) ∧
      FitsSigned 64 (10 * acc + digit) := by
  have hnext : 10 * acc + digit < 10 ^ (count + 1) := by
    rw [pow_succ]
    omega
  have hbound : 10 ^ (count + 1) ≤ 10 ^ 18 := Nat.pow_le_pow_right (by norm_num) hcount
  exact ⟨hnext, fits_of_natAbs_le (by omega), fits_of_natAbs_le (by omega)⟩

/-- **Digits are accumulated without overflow.** The loop reads the digits up to
the byte at which it stops. -/
lemma digitLoop_eq (stops : UInt8 → Bool) (stopsAt : Char → Bool) {room count acc : ℕ}
    (tooLong : TextError) (hstops : ∀ byte, stopsAt (Char.ofUInt8 byte) = stops byte)
    (hlimit : limit < bytes.length) (hroom : room ≤ maxScale) (hcount : count ≤ room)
    (hacc : acc < 10 ^ count) {digits : List Char}
    (hdigits : (segment bytes limit index).takeWhile (fun c => !stopsAt c) = digits) :
    digitLoop bytes stops room tooLong limit index count acc =
      ((readDigits tooLong (room - count) index acc digits).mapError Halt.refused).map fun n =>
        (index + digits.length, count + digits.length, (n : ℤ)) := by
  induction digits generalizing index count acc with
  | nil =>
      rw [digitLoop, readDigits]
      split
      next h =>
        have hhead : stops bytes[index] = true := by
          rw [segment_cons hlimit h] at hdigits
          simpa [hstops] using hdigits
        rw [byteAt_bind (by omega), if_pos hhead]
        rfl
      next => rfl
  | cons c digits ih =>
      have h : index ≤ limit := by
        by_contra hlt
        simp [segment_of_lt (not_le.mp hlt)] at hdigits
      obtain ⟨hhead, rfl, htail⟩ : stops bytes[index] = false ∧ Char.ofUInt8 bytes[index] = c ∧
          (segment bytes limit (index + 1)).takeWhile (fun c => !stopsAt c) = digits := by
        rw [segment_cons hlimit h, List.takeWhile_cons] at hdigits
        split at hdigits
        next hgoes => simpa [hstops] using And.intro hgoes (List.cons.inj hdigits)
        next => simp at hdigits
      rw [digitLoop, dif_pos h, byteAt_bind (by omega), if_neg (by simp [hhead])]
      rcases hcount.eq_or_lt with rfl | hlt
      · rw [if_pos rfl, Nat.sub_self, readDigits]
        rfl
      · obtain ⟨rest, hrest⟩ := Nat.exists_eq_add_of_lt hlt
        rw [if_neg hlt.ne, (by omega : room - count = rest + 1), readDigits]
        by_cases hdigit : IsDigit (Char.ofUInt8 bytes[index])
        · generalize hvalue : digitNat (Char.ofUInt8 bytes[index]) = digit
          obtain ⟨hnext, hfits, hfits'⟩ :=
            accumulator_step hacc (hvalue ▸ hdigit.digitNat_lt) (hlt.trans_le hroom)
          simp only [maxScale] at hroom
          rw [digitAt_of_isDigit hdigit, hvalue, ok_bind, check_bind hfits, check_bind hfits',
            check_bind (by omega), check_bind (by omega),
            digit?_eq_some.mpr ⟨hdigit, hvalue⟩]
          have hloop := ih (by omega : count + 1 ≤ room) hnext htail
          rw [Nat.cast_add, Nat.cast_mul, Nat.cast_ofNat, (by omega : room - (count + 1) = rest),
            mul_comm 10 acc] at hloop
          rw [hloop, List.length_cons]
          simp only [Nat.add_assoc, Nat.add_comm 1]
        · rw [digitAt_of_not_isDigit hdigit, digit?_eq_none.mpr hdigit]
          rfl

/-- The integer digits end at a point. -/
lemma integerLoop_eq (tooLong : TextError) (hlimit : limit < bytes.length) {digits : List Char}
    (hdigits : (segment bytes limit index).takeWhile (· != '.') = digits) :
    digitLoop bytes (· == '.'.toUInt8) maxScale tooLong limit index 0 0 =
      ((readDigits tooLong maxScale index 0 digits).mapError Halt.refused).map fun n =>
        (index + digits.length, digits.length, (n : ℤ)) := by
  have hstops : ∀ byte, (Char.ofUInt8 byte == '.') = (byte == '.'.toUInt8) := fun byte => by
    rw [Bool.eq_iff_iff, beq_iff_eq, beq_iff_eq, ofUInt8_eq_iff (by decide)]
  have hloop := digitLoop_eq _ (· == '.') tooLong hstops hlimit (le_refl maxScale) (Nat.zero_le _)
    (by norm_num : 0 < 10 ^ 0) hdigits
  simpa only [Nat.sub_zero, Nat.cast_zero, Nat.zero_add] using hloop

/-- The fraction digits end at the limit. -/
lemma fractionLoop_eq (tooLong : TextError) {room : ℕ} (hlimit : limit < bytes.length)
    (hroom : room ≤ maxScale) :
    digitLoop bytes (fun _ => false) room tooLong limit index 0 0 =
      ((readDigits tooLong room index 0 (segment bytes limit index)).mapError Halt.refused).map
        fun n => (index + (segment bytes limit index).length, (segment bytes limit index).length,
          (n : ℤ)) := by
  have hloop := digitLoop_eq (fun _ => false) (fun _ => false) tooLong (fun _ => rfl) hlimit hroom
    (Nat.zero_le _) (by norm_num : 0 < 10 ^ 0)
    (List.takeWhile_eq_self_iff.mpr fun _ _ => rfl : (segment bytes limit index).takeWhile _ = _)
  simpa only [Nat.sub_zero, Nat.cast_zero, Nat.zero_add] using hloop

/-- The first character is kept, and the zeros at the end are dropped. -/
def trimTail : List Char → List Char
  | [] => []
  | c :: cs => c :: dropTrailingZeros cs

lemma trimTail_concat_zero {cs : List Char} (h : cs ≠ []) :
    trimTail (cs ++ ['0']) = trimTail cs := by
  cases cs with
  | nil => exact absurd rfl h
  | cons c cs =>
      rw [List.cons_append, trimTail, trimTail, dropTrailingZeros_eq, dropTrailingZeros_eq,
        List.rdropWhile_concat_pos _ _ _ rfl]

lemma trimTail_concat_of_ne {cs : List Char} {c : Char} (h : c ≠ '0') :
    trimTail (cs ++ [c]) = cs ++ [c] := by
  cases cs with
  | nil => rfl
  | cons a cs =>
      rw [List.cons_append, trimTail, dropTrailingZeros_eq,
        List.rdropWhile_concat_neg _ _ _ (by simpa using h)]

/-- Zeros at the end are dropped, and a byte is left. -/
lemma trimZeros_eq (hlimit : limit < bytes.length) (h : index ≤ limit) :
    ∃ last, trimZeros bytes index limit = .ok last ∧ index ≤ last ∧ last ≤ limit ∧
      segment bytes last index = trimTail (segment bytes limit index) := by
  induction limit with
  | zero =>
      obtain rfl : index = 0 := by omega
      refine ⟨0, ?_, le_refl _, le_refl _, ?_⟩
      · rw [trimZeros, dif_neg (lt_irrefl _)]
      · rw [segment_cons hlimit h, segment_of_lt (by omega)]
        rfl
  | succ limit ih =>
      rw [trimZeros]
      split
      next hlt =>
        rw [byteAt_bind hlimit, segment_concat hlimit h]
        by_cases hzero : bytes[limit + 1] = '0'.toUInt8
        · have hchar : Char.ofUInt8 bytes[limit + 1] = '0' := (ofUInt8_eq_iff (by decide)).mpr hzero
          have hne : segment bytes limit index ≠ [] := by
            rw [segment_cons (by omega) (by omega)]
            nofun
          obtain ⟨last, hlast, hlow, hhigh, hsegment⟩ := ih (by omega) (by omega)
          rw [if_pos hzero, check_bind (by omega), Nat.add_sub_cancel, hchar,
            trimTail_concat_zero hne]
          exact ⟨last, hlast, hlow, by omega, hsegment⟩
        · have hchar : Char.ofUInt8 bytes[limit + 1] ≠ '0' :=
            mt (ofUInt8_eq_iff (by decide)).mp hzero
          rw [if_neg hzero, trimTail_concat_of_ne hchar, ← segment_concat hlimit h]
          exact ⟨limit + 1, rfl, h, le_refl _, rfl⟩
      next hge =>
        obtain rfl : index = limit + 1 := by omega
        refine ⟨limit + 1, rfl, le_refl _, le_refl _, ?_⟩
        rw [segment_cons hlimit (le_refl _), segment_of_lt (by omega)]
        rfl

/-! ### The parts between the loops -/

lemma digitsNat_lt {cs : List Char} (h : ∀ c ∈ cs, IsDigit c) : digitsNat cs < 10 ^ cs.length := by
  have hlt := Nat.ofDigits_lt_base_pow_length (b := 10) (l := cs.reverse.map digitNat)
    (by norm_num) fun d hd => by
      obtain ⟨c, hc, rfl⟩ := List.mem_map.mp hd
      exact (h c (List.mem_reverse.mp hc)).digitNat_lt
  rwa [List.length_map, List.length_reverse] at hlt

/-- What is read with room for at most 18 digits. -/
lemma lt_of_readDigits {tooLong : TextError} {room offset n : ℕ} {cs : List Char}
    (hroom : room ≤ maxScale) (h : readDigits tooLong room offset 0 cs = .ok n) :
    cs.length ≤ room ∧ n < 10 ^ 18 := by
  obtain ⟨hdigits, hlength, rfl⟩ := readDigits_eq_ok.mp h
  refine ⟨hlength, ?_⟩
  rw [zero_mul, zero_add]
  exact lt_of_lt_of_le (digitsNat_lt hdigits)
    (Nat.pow_le_pow_right (by norm_num) (hlength.trans hroom))

lemma power_eq {exponent : ℕ} (h : ValidScale exponent) :
    power exponent = .ok (tenPow exponent : ℤ) := by
  obtain ⟨hlow, hhigh⟩ := h
  have hentry : powers[exponent - 1]? = some (tenPow exponent : ℤ) := by
    rw [powers, List.getElem?_map, List.getElem?_range (by omega), Option.map_some,
      Nat.sub_add_cancel hlow]
  rw [power, if_neg (by omega), check_bind hlow, hentry]

lemma store_eq {unscaled : ℤ} {count : ℕ} (h : ValidScale count) :
    store unscaled count =
      match ofParts? count unscaled with
      | some d => .ok d
      | none => .error (.refused .outOfRange) := by
  obtain ⟨offset, rfl⟩ := Nat.exists_eq_add_of_le' h.1
  rw [store, ofParts?, dif_pos h]
  split
  next hu =>
    rw [check_bind h.1]
    exact dif_pos h
  next hu => rfl

/-- Integer part and fraction are put together within 128 bits. -/
lemma assembleWords_eq {negative : Bool} {integer frac count : ℕ} (hcount : ValidScale count)
    (hinteger : integer < 10 ^ 18) (hfrac : frac < 10 ^ 18) :
    assembleWords negative integer frac count =
      (assemble negative integer frac count).mapError Halt.refused := by
  have hfactor : tenPow count ≤ 10 ^ 18 := Nat.pow_le_pow_right (by norm_num) hcount.2
  have hproduct : integer * tenPow count ≤ 10 ^ 18 * 10 ^ 18 := Nat.mul_le_mul hinteger.le hfactor
  have hfits : ∀ n : ℤ, n.natAbs ≤ 10 ^ 18 * 10 ^ 18 + 10 ^ 18 → FitsSigned 128 n := by
    intro n hn
    simp only [FitsSigned, twoPow]
    norm_num at hn ⊢
    omega
  rw [assembleWords, power_eq hcount, ok_bind, check_bind (hfits _ (by omega)),
    check_bind (hfits _ (by omega)), check_bind (hfits _ (by omega)), store_eq hcount, assemble]
  generalize (if negative then -((integer : ℤ) * tenPow count + frac)
    else (integer : ℤ) * tenPow count + frac) = unscaled
  cases ofParts? count unscaled with
  | some d => rfl
  | none => rfl

/-- A fraction is scanned as it is read. -/
lemma scanFraction_eq {negative : Bool} {integer count : ℕ} (hlimit : limit < bytes.length)
    (hcount : count ≤ maxScale) (hinteger : integer < 10 ^ 18) :
    scanFraction bytes negative limit index count integer =
      (readFraction negative integer count index (segment bytes limit index)).mapError
        Halt.refused := by
  rw [scanFraction]
  split
  next hend =>
    rw [segment_of_lt hend, readFraction]
    exact_mod_cast assembleWords_eq (by decide) hinteger (by norm_num)
  next hpoint =>
    rw [check_bind (by omega), segment_cons hlimit (by omega)]
    split
    next hlast =>
      rw [segment_of_lt hlast]
      rfl
    next hmore =>
      obtain ⟨last, hlast, hlow, hhigh, hsegment⟩ :=
        trimZeros_eq hlimit (by omega : index + 1 ≤ limit)
      rw [segment_cons hlimit (by omega : index + 1 ≤ limit)] at hsegment ⊢
      rw [trimTail] at hsegment
      have hroom : min (maxScale - count + 1) maxScale ≤ maxScale := Nat.min_le_right _ _
      rw [hlast, ok_bind, check_bind hcount, check_bind (by simp only [maxScale]; omega),
        readFraction]
      dsimp only
      rw [fractionLoop_eq _ (by omega) hroom, hsegment]
      cases hread : readDigits (.fractionTooLong (min (maxScale - count + 1) maxScale))
          (min (maxScale - count + 1) maxScale) (index + 1) 0
          (Char.ofUInt8 bytes[index + 1] ::
            dropTrailingZeros (segment bytes limit (index + 1 + 1))) with
      | error reason => rfl
      | ok frac =>
          obtain ⟨hlength, hfrac⟩ := lt_of_readDigits hroom hread
          exact assembleWords_eq ⟨by simp, hlength.trans hroom⟩ hinteger hfrac

/-- What follows the first bytes of a segment. -/
lemma drop_segment (k : ℕ) :
    (segment bytes limit index).drop k = segment bytes limit (index + k) := by
  rw [segment, segment, chars, chars, ← List.map_drop, List.drop_drop]

lemma drop_length_takeWhile (p : Char → Bool) (cs : List Char) :
    cs.drop (cs.takeWhile p).length = cs.dropWhile p := by
  have hsplit := List.takeWhile_append_dropWhile (p := p) (l := cs)
  exact (congrArg (List.drop _) hsplit.symm).trans List.drop_left

/-- A decimal without its sign is scanned as it is read. -/
lemma scanUnsigned_eq {negative : Bool} (hindex : index < bytes.length) :
    scanUnsigned bytes negative index =
      (readUnsigned negative index ((chars bytes).drop index)).mapError Halt.refused := by
  have hlimit : bytes.length - 1 < bytes.length := by omega
  obtain ⟨start, hstart, hlow, hhigh, hbody⟩ :=
    skipZeros_eq hlimit (by omega : index ≤ bytes.length - 1)
  have hcs : segment bytes (bytes.length - 1) index = (chars bytes).drop index :=
    segment_eq_drop (by omega)
  have hoffset : index + (((chars bytes).drop index).length -
      (dropLeadingZeros ((chars bytes).drop index)).length) = start := by
    rw [← hcs, ← hbody, length_segment hlimit, length_segment hlimit]
    omega
  rw [scanUnsigned, readUnsigned, check_bind (by omega)]
  dsimp only
  rw [hoffset, ← hcs, ← hbody, hstart, ok_bind, integerLoop_eq .integerTooLong hlimit rfl,
    ← drop_length_takeWhile, drop_segment]
  generalize (segment bytes (bytes.length - 1) start).takeWhile (· != '.') = digits
  cases hread : readDigits .integerTooLong maxScale start 0 digits with
  | error reason => rfl
  | ok integer =>
      obtain ⟨hlength, hinteger⟩ := lt_of_readDigits (le_refl maxScale) hread
      cases digits with
      | nil => rfl
      | cons c digits => exact scanFraction_eq hlimit hlength hinteger

/-! ### The whole scan -/

lemma readChars_unsigned {c : Char} {cs : List Char} (hminus : c ≠ '-') (hplus : c ≠ '+') :
    readChars (c :: cs) = readUnsigned false 0 (c :: cs) := by
  rw [readChars.eq_def]
  split <;> simp_all

/-- **The scan has no fault.** On any bytes it finds what reading them as
characters finds. -/
lemma scan_eq (bytes : List UInt8) :
    scan bytes = (readChars (chars bytes)).mapError Halt.refused := by
  cases bytes with
  | nil => rfl
  | cons first rest =>
      have hchars : chars (first :: rest) = Char.ofUInt8 first :: chars rest := rfl
      rw [scan, if_neg (by simp), byteAt_bind (by simp), hchars]
      rw [List.getElem_cons_zero, readSign]
      by_cases hminus : first = '-'.toUInt8
      · rw [if_pos hminus, (ofUInt8_eq_iff (by decide)).mpr hminus]
        cases rest with
        | nil => rfl
        | cons next rest => exact scanUnsigned_eq (by simp)
      by_cases hplus : first = '+'.toUInt8
      · rw [if_neg hminus, if_pos hplus, (ofUInt8_eq_iff (by decide)).mpr hplus]
        cases rest with
        | nil => rfl
        | cons next rest => exact scanUnsigned_eq (by simp)
      · rw [if_neg hminus, if_neg hplus,
          readChars_unsigned (mt (ofUInt8_eq_iff (by decide)).mp hminus)
            (mt (ofUInt8_eq_iff (by decide)).mp hplus)]
        exact scanUnsigned_eq (by simp)

end WordScan

end YangTypes.Decimal
