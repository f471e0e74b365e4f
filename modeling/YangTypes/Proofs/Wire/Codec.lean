import Mathlib.Tactic
import YangTypes.Proofs.Outcome
import YangTypes.Wire.Scalar

/-!
Reading a wire form undoes writing it, and reads nothing else.

* `bigEndian_ofBigEndian`, `ofBigEndian_bigEndian`: bytes and the numbers below
  the power of two that their count gives are the same thing, and so are signed
  integers and the values with their bits (`Unsigned.signedBits_eq_iff`).
* `readPayload_eq_ok`: a reader takes the payload of its value off the input and
  leaves the rest. Each reader has one such equivalence, and no later proof
  looks into a reader again.
* `read_eq_ok`, `readTyped_eq_ok`: the same for the form with its tag, read by
  its tag or as a given type.
-/

namespace YangTypes

/-! ### Bytes and numbers -/

namespace Wire

lemma twoPow_eight_mul_succ (count : ℕ) :
    twoPow (8 * (count + 1)) = twoPow (8 * count) * 256 := by
  rw [Nat.mul_succ, twoPow_add]
  rfl

@[simp]
lemma length_bigEndian (count n : ℕ) : (bigEndian count n).length = count := by
  induction count generalizing n with
  | zero => rfl
  | succ count ih => rw [bigEndian, List.length_append, ih, List.length_singleton]

lemma ofBigEndian_concat (bytes : List UInt8) (b : UInt8) :
    ofBigEndian (bytes ++ [b]) = ofBigEndian bytes * 256 + b.toNat := by
  simp [ofBigEndian]

/-- A number is read back from as many bytes as it needs. -/
lemma ofBigEndian_bigEndian {count n : ℕ} (h : n < twoPow (8 * count)) :
    ofBigEndian (bigEndian count n) = n := by
  induction count generalizing n with
  | zero =>
      have hzero : n < 1 := h
      rw [Nat.lt_one_iff.mp hzero]
      rfl
  | succ count ih =>
      rw [twoPow_eight_mul_succ] at h
      have hlow : (UInt8.ofNat (n % 256)).toNat = n % 256 :=
        UInt8.toNat_ofNat_of_lt' (Nat.mod_lt n (by decide))
      rw [bigEndian, ofBigEndian_concat, ih (Nat.div_lt_of_lt_mul (by omega)), hlow]
      omega

/-- Bytes are those of the number that they denote. -/
lemma bigEndian_ofBigEndian (bytes : List UInt8) :
    bigEndian bytes.length (ofBigEndian bytes) = bytes := by
  induction bytes using List.reverseRecOn with
  | nil => rfl
  | append_singleton bytes b ih =>
      have hb : b.toNat < 256 := b.toNat_lt
      have hhigh : (ofBigEndian bytes * 256 + b.toNat) / 256 = ofBigEndian bytes := by omega
      have hlow : (ofBigEndian bytes * 256 + b.toNat) % 256 = b.toNat := by omega
      rw [List.length_append, List.length_singleton, ofBigEndian_concat, bigEndian, hhigh, hlow, ih,
        UInt8.ofNat_toNat]

/-- Bytes are the value of a width if they are its bytes. -/
lemma unsignedOfBytes_eq_iff {w : Width} {bytes : List UInt8} (h : bytes.length = w.bytes)
    {u : Unsigned w} : unsignedOfBytes w bytes h = u ↔ bytes = bigEndian w.bytes u.val := by
  have hval : (unsignedOfBytes w bytes h).val = ofBigEndian bytes := rfl
  constructor
  · rintro rfl
    rw [hval, ← h, bigEndian_ofBigEndian]
  · intro hbytes
    have hlt : u.val < twoPow (8 * w.bytes) := by
      rw [eight_mul_bytes]
      exact u.lt
    rw [Unsigned.mk.injEq, hval, hbytes, ofBigEndian_bigEndian hlt]

end Wire

namespace Unsigned

variable {w : Width} {n : ℤ} {u : Unsigned w}

/-- Half of the values of a width stand for negative integers. -/
lemma twoPow_bits (w : Width) : twoPow w.bits = 2 * twoPow (w.bits - 1) := by
  cases w <;> rfl

/-- A negative integer is moved up by one turn of the width. -/
lemma val_ofSignedBits (h : FitsSigned w.bits n) :
    ((ofSignedBits w n).val : ℤ) = if 0 ≤ n then n else n + twoPow w.bits := by
  have htwice := twoPow_bits w
  obtain ⟨hlow, hhigh⟩ := h
  have hmod : n % (twoPow w.bits : ℤ) = if 0 ≤ n then n else n + twoPow w.bits := by
    split
    next hn => exact Int.emod_eq_of_lt hn (by omega)
    next hn =>
      rw [← Int.add_emod_right]
      exact Int.emod_eq_of_lt (by omega) (by omega)
  rw [ofSignedBits, Int.toNat_of_nonneg (by rw [hmod]; split <;> omega), hmod]

/-- A value has the bits of a signed integer if it is read as that integer. -/
lemma signedBits_eq_iff (h : FitsSigned w.bits n) : u.signedBits = n ↔ u = ofSignedBits w n := by
  have htwice := twoPow_bits w
  have hval := val_ofSignedBits h
  have hlt := u.lt
  obtain ⟨hlow, hhigh⟩ := h
  rw [signedBits, Unsigned.mk.injEq]
  split at hval <;> split <;> omega

end Unsigned

/-- A decimal is its scale and its unscaled value. -/
lemma Decimal.eq_iff_parts {a b : Decimal} :
    a = b ↔ a.scale = b.scale ∧ a.unscaled = b.unscaled := by
  obtain ⟨s, u, hs, hu⟩ := a
  obtain ⟨s', u', hs', hu'⟩ := b
  simp

namespace Wire

variable {input rest : List UInt8}

/-! ### Readers of payloads -/

lemma takeByte_eq_ok {b : UInt8} : takeByte input = .ok (b, rest) ↔ input = b :: rest := by
  cases input with
  | nil => simp [takeByte]
  | cons c input => simp [takeByte]

lemma takeBytes_eq_ok {count : ℕ} {bytes : { bytes : List UInt8 // bytes.length = count }} :
    takeBytes count input = .ok (bytes, rest) ↔ input = bytes.val ++ rest := by
  obtain ⟨bytes, rfl⟩ := bytes
  rw [takeBytes]
  constructor
  · intro h
    split at h
    next =>
      simp only [Except.ok.injEq, Prod.mk.injEq, Subtype.mk.injEq] at h
      obtain ⟨hbytes, rfl⟩ := h
      simpa [hbytes] using (List.take_append_drop bytes.length input).symm
    next => simp at h
  · rintro rfl
    simp

/-- Reading an unsigned integer takes its bytes off the input. -/
lemma readUnsigned_eq_ok {w : Width} {u : Unsigned w} :
    readUnsigned w input = .ok (u, rest) ↔ input = (Scalar.unsigned w u).payload ++ rest := by
  simp only [readUnsigned, bind_eq_ok, Prod.exists, Except.ok.injEq, Prod.mk.injEq,
    takeBytes_eq_ok, Scalar.payload]
  constructor
  · rintro ⟨bytes, _, rfl, hu, rfl⟩
    rw [(unsignedOfBytes_eq_iff bytes.property).mp hu]
  · rintro rfl
    exact ⟨⟨_, length_bigEndian _ _⟩, rest, rfl, (unsignedOfBytes_eq_iff _).mpr rfl, rfl⟩

/-- The bytes of a decimal are those of its scale, counted from zero, and of its
unscaled value. -/
lemma payload_decimal (d : Decimal) :
    (Scalar.decimal d).payload =
      UInt8.ofNat (d.scale - 1) :: bigEndian 8 (Unsigned.ofSignedBits .w64 d.unscaled).val := rfl

/-- The byte of a scale is read back as the scale. -/
lemma scale_eq_iff {offset : UInt8} {d : Decimal} :
    offset.toNat + 1 = d.scale ↔ offset = UInt8.ofNat (d.scale - 1) := by
  obtain ⟨hone, hmax⟩ := d.scale_valid
  simp only [maxScale] at hmax
  rw [← UInt8.toNat_inj, UInt8.toNat_ofNat_of_lt' (by rw [UInt8.size]; omega)]
  omega

/-- A scale byte and eight bytes are a decimal if both were written for it. -/
lemma decimal_eq_iff {offset : UInt8} {bytes : List UInt8} {d : Decimal}
    (hbytes : bytes.length = Width.w64.bytes) (hoffset : ValidScale (offset.toNat + 1)) :
    (⟨offset.toNat + 1, (unsignedOfBytes .w64 bytes hbytes).signedBits, hoffset,
        signedBits_fits _⟩ : Decimal) = d ↔
      offset = UInt8.ofNat (d.scale - 1) ∧
        bytes = bigEndian 8 (Unsigned.ofSignedBits .w64 d.unscaled).val := by
  have hfits : FitsSigned Width.w64.bits d.unscaled := d.unscaled_fits
  have hvalue : (unsignedOfBytes .w64 bytes hbytes).signedBits = d.unscaled ↔
      bytes = bigEndian 8 (Unsigned.ofSignedBits .w64 d.unscaled).val :=
    (Unsigned.signedBits_eq_iff hfits).trans (unsignedOfBytes_eq_iff hbytes)
  rw [Decimal.eq_iff_parts, scale_eq_iff, hvalue]

/-- Reading a decimal takes the bytes of its scale and its unscaled value off
the input. -/
lemma readDecimal_eq_ok {d : Decimal} :
    readDecimal input = .ok (d, rest) ↔ input = (Scalar.decimal d).payload ++ rest := by
  simp only [readDecimal, bind_eq_ok, Prod.exists, takeByte_eq_ok, payload_decimal]
  constructor
  · rintro ⟨offset, input, rfl, h⟩
    split at h
    next hoffset =>
      simp only [bind_eq_ok, Prod.exists, takeBytes_eq_ok, Except.ok.injEq, Prod.mk.injEq] at h
      obtain ⟨bytes, _, rfl, hd, rfl⟩ := h
      obtain ⟨hoffset, hbytes⟩ := (decimal_eq_iff bytes.property _).mp hd
      rw [hoffset, hbytes, List.cons_append]
    next => simp at h
  · rintro rfl
    have hscale := scale_eq_iff.mpr (Eq.refl (UInt8.ofNat (d.scale - 1)))
    have hvalid := d.scale_valid
    refine ⟨_, _, rfl, ?_⟩
    rw [dif_pos (by rw [← hscale] at hvalid; exact hvalid.2)]
    simp only [bind_eq_ok, Prod.exists, takeBytes_eq_ok, Except.ok.injEq, Prod.mk.injEq]
    exact ⟨⟨_, length_bigEndian _ _⟩, rest, rfl, (decimal_eq_iff _ _).mpr ⟨rfl, rfl⟩, rfl⟩

/-- **A reader takes exactly the payload of its value off the input.** -/
lemma readPayload_eq_ok {type : ScalarType} {v : Scalar} :
    readPayload type input = .ok (v, rest) ↔ v.type = type ∧ input = v.payload ++ rest := by
  cases type with
  | decimal =>
      simp only [readPayload, bind_eq_ok, Prod.exists, readDecimal_eq_ok, Except.ok.injEq,
        Prod.mk.injEq]
      cases v with
      | decimal d => simp [Scalar.type]
      | unsigned w u => simp [Scalar.type]
  | unsigned w =>
      simp only [readPayload, bind_eq_ok, Prod.exists, readUnsigned_eq_ok, Except.ok.injEq,
        Prod.mk.injEq]
      cases v with
      | decimal d => simp [Scalar.type]
      | unsigned w' u =>
          simp only [Scalar.type, Scalar.unsigned.injEq, ScalarType.unsigned.injEq]
          constructor
          · rintro ⟨u', _, rfl, ⟨rfl, hu⟩, rfl⟩
            rw [eq_of_heq hu]
            exact ⟨rfl, rfl⟩
          · rintro ⟨rfl, rfl⟩
            exact ⟨u, rest, rfl, ⟨rfl, HEq.rfl⟩, rfl⟩

/-! ### Tags -/

/-- Each tag belongs to one type. -/
lemma ofTag?_eq_some {tag : UInt8} {type : ScalarType} :
    ScalarType.ofTag? tag = some type ↔ tag = type.tag := by
  constructor
  · intro h
    have htag := List.find?_some h
    exact (beq_iff_eq.mp htag).symm
  · rintro rfl
    cases type with
    | decimal => rfl
    | unsigned w => cases w <;> rfl

/-- Values are read by their tag. -/
lemma read_eq_ok {v : Scalar} : read input = .ok (v, rest) ↔ input = v.encode ++ rest := by
  simp only [read, bind_eq_ok, Prod.exists, takeByte_eq_ok, Scalar.encode, List.cons_append]
  constructor
  · rintro ⟨tag, input, rfl, h⟩
    split at h
    next type htype =>
      obtain ⟨rfl, rfl⟩ := readPayload_eq_ok.mp h
      rw [ofTag?_eq_some.mp htype]
    next => simp at h
  · rintro rfl
    refine ⟨_, _, rfl, ?_⟩
    rw [ofTag?_eq_some.mpr rfl]
    exact readPayload_eq_ok.mpr ⟨rfl, rfl⟩

/-- Values of one type are read as values of any type are. -/
lemma readTyped_eq_ok {type : ScalarType} {v : Scalar} :
    readTyped type input = .ok (v, rest) ↔ v.type = type ∧ input = v.encode ++ rest := by
  simp only [readTyped, bind_eq_ok, Prod.exists, takeByte_eq_ok, Scalar.encode, List.cons_append]
  constructor
  · rintro ⟨tag, input, rfl, h⟩
    split at h
    next htag =>
      obtain ⟨rfl, rfl⟩ := readPayload_eq_ok.mp h
      exact ⟨rfl, by rw [htag]⟩
    next => split at h <;> simp at h
  · rintro ⟨rfl, rfl⟩
    refine ⟨_, _, rfl, ?_⟩
    rw [if_pos rfl]
    exact readPayload_eq_ok.mpr ⟨rfl, rfl⟩

/-! ### Whole buffers -/

@[simp]
lemma length_encode (v : Scalar) : v.encode.length = 1 + v.type.payloadLength := by
  rw [Scalar.encode, List.length_cons, Nat.add_comm]
  cases v with
  | decimal d => rw [payload_decimal, List.length_cons, length_bigEndian]; rfl
  | unsigned w u => rw [Scalar.payload, length_bigEndian]; rfl

lemma decode_eq_ok {v : Scalar} : decode input = .ok v ↔ input = v.encode := by
  simp only [decode, bind_eq_ok, Prod.exists, read_eq_ok]
  constructor
  · rintro ⟨v, rest, rfl, h⟩
    split at h
    next hrest =>
      obtain rfl := Except.ok.inj h
      rw [List.isEmpty_iff.mp hrest, List.append_nil]
    next => simp at h
  · rintro rfl
    exact ⟨v, [], by rw [List.append_nil], rfl⟩

lemma decodeTyped_eq_ok {type : ScalarType} {v : Scalar} :
    decodeTyped type input = .ok v ↔ v.type = type ∧ input = v.encode := by
  rw [decodeTyped]
  constructor
  · intro h
    split at h
    next hlength =>
      simp only [bind_eq_ok, Prod.exists, readTyped_eq_ok, Except.ok.injEq] at h
      obtain ⟨_, rest, ⟨rfl, rfl⟩, rfl⟩ := h
      -- the length of the buffer leaves no room for more than the value
      rw [List.length_append, length_encode] at hlength
      have hrest : rest = [] := List.length_eq_zero_iff.mp (by omega)
      rw [hrest, List.append_nil]
      exact ⟨rfl, rfl⟩
    next => simp at h
  · rintro ⟨rfl, rfl⟩
    rw [if_pos (length_encode v)]
    simp only [bind_eq_ok, Prod.exists, readTyped_eq_ok, Except.ok.injEq]
    exact ⟨v, [], ⟨rfl, by rw [List.append_nil]⟩, rfl⟩

/-- **The wire form is a bijection.** A byte string is decoded as a value if and
only if it is the wire form of the value, so every value has one byte string
that is decoded as it. A decoder for one type accepts what the decoder for all
types accepts as a value of that type, and all of these together accept the
same byte strings as that one. -/
theorem decode_eq_ok_iff_encode :
    (∀ (bytes : List UInt8) (v : Scalar), decode bytes = .ok v ↔ bytes = v.encode) ∧
    (∀ v : Scalar, ∃! bytes, decode bytes = .ok v) ∧
    (∀ (type : ScalarType) (bytes : List UInt8) (v : Scalar),
      decodeTyped type bytes = .ok v ↔ v.type = type ∧ decode bytes = .ok v) ∧
    ∀ bytes : List UInt8,
      (∃ v, decode bytes = .ok v) ↔ ∃ type v, decodeTyped type bytes = .ok v := by
  refine ⟨fun bytes v => decode_eq_ok, fun v => ?_, fun type bytes v => ?_, fun bytes => ?_⟩
  · refine ⟨v.encode, decode_eq_ok.mpr rfl, fun bytes h => decode_eq_ok.mp h⟩
  · rw [decodeTyped_eq_ok, decode_eq_ok]
  · simp only [decode_eq_ok, decodeTyped_eq_ok]
    exact ⟨fun ⟨v, h⟩ => ⟨v.type, v, rfl, h⟩, fun ⟨_, v, _, h⟩ => ⟨v, h⟩⟩

end Wire

end YangTypes
