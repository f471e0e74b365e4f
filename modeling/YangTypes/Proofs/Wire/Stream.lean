import Mathlib.Tactic
import YangTypes.Proofs.Wire.Codec

/-!
Streams of wire forms need nothing between two values.

* `readCount`: a number of values, read one after the other. It succeeds exactly
  on the wire forms of that many values and whatever follows them
  (`readCount_eq_ok`).
* `readAll_nil`, `readAll_encode_append`, `readAll_of_error`: reading to the end
  of the input, one equation for each thing that can stand at its front.
* `exists_rest_readAll`: what was read before the end or the first error is a
  prefix of the input, and the error is that of reading on from there.
-/

namespace YangTypes.Wire

variable {input rest : List UInt8} {limit limit' : ℕ}

/-! ### A number of values -/

/-- Reads a number of values one after the other, and returns what they leave. -/
def readCount : (count : ℕ) → List UInt8 → Except WireError (List Scalar × List UInt8)
  | 0, input => .ok ([], input)
  | count + 1, input => do
    let (value, input) ← read input
    let (values, rest) ← readCount count input
    .ok (value :: values, rest)

/-- **A number of values is read exactly from their wire forms.** -/
lemma readCount_eq_ok {count : ℕ} {values : List Scalar} :
    readCount count input = .ok (values, rest) ↔
      values.length = count ∧ input = values.flatMap Scalar.encode ++ rest := by
  induction count generalizing input values rest with
  | zero =>
      rw [readCount, Except.ok.injEq, Prod.mk.injEq, List.length_eq_zero_iff]
      constructor
      · rintro ⟨rfl, rfl⟩
        exact ⟨rfl, rfl⟩
      · rintro ⟨rfl, rfl⟩
        exact ⟨rfl, rfl⟩
  | succ count ih =>
      simp only [readCount, bind_eq_ok, Prod.exists, read_eq_ok, ih, Except.ok.injEq,
        Prod.mk.injEq]
      constructor
      · rintro ⟨v, _, rfl, values, _, ⟨rfl, rfl⟩, rfl, rfl⟩
        exact ⟨rfl, by rw [List.flatMap_cons, List.append_assoc]⟩
      · rintro ⟨hlength, rfl⟩
        obtain ⟨v, values, rfl⟩ := List.exists_cons_of_length_eq_add_one hlength
        have hcount : values.length = count := Nat.succ.inj hlength
        rw [List.flatMap_cons, List.append_assoc]
        exact ⟨v, _, rfl, values, rest, ⟨hcount, rfl⟩, rfl, rfl⟩

/-! ### All values -/

/-- A value takes at least its tag off the input. -/
lemma length_lt_of_read {v : Scalar} (h : read input = .ok (v, rest)) :
    rest.length < input.length := by
  rw [read_eq_ok.mp h, List.length_append, length_encode]
  omega

/-- One step of reading: input is left, and a value of it is read. -/
lemma readMany_succ_cons (b : UInt8) (input : List UInt8) (limit : ℕ) :
    readMany read (limit + 1) (b :: input) =
      match read (b :: input) with
      | .error e => ([], some e)
      | .ok (v, rest) => (v :: (readMany read limit rest).1, (readMany read limit rest).2) := rfl

/-- The limit on the number of values is never reached. -/
lemma readMany_congr (h : input.length ≤ limit) (h' : input.length ≤ limit') :
    readMany read limit input = readMany read limit' input := by
  induction limit generalizing limit' input with
  | zero =>
      obtain rfl := List.length_eq_zero_iff.mp (Nat.le_zero.mp h)
      cases limit' <;> rfl
  | succ limit ih =>
      cases input with
      | nil => cases limit' <;> rfl
      | cons b input =>
          cases limit' with
          | zero => simp at h'
          | succ limit' =>
              rw [readMany_succ_cons, readMany_succ_cons]
              cases hread : read (b :: input) with
              | error e => rfl
              | ok result =>
                  have hlt := length_lt_of_read hread
                  simp only [ih (show result.2.length ≤ limit by omega)
                    (show result.2.length ≤ limit' by omega)]

@[simp]
lemma readAll_nil : readAll [] = ([], none) := rfl

/-- Reading stops at the first error. -/
lemma readAll_of_error {e : WireError} (hne : input ≠ []) (h : read input = .error e) :
    readAll input = ([], some e) := by
  obtain ⟨b, input, rfl⟩ := List.exists_cons_of_ne_nil hne
  rw [readAll, List.length_cons, readMany_succ_cons, h]

/-- A value at the front of the input is read first. -/
lemma readAll_encode_append (v : Scalar) (rest : List UInt8) :
    readAll (v.encode ++ rest) = (v :: (readAll rest).1, (readAll rest).2) := by
  have hread := read_eq_ok.mpr (Eq.refl (v.encode ++ rest))
  have hlt := length_lt_of_read hread
  rw [Scalar.encode, List.cons_append] at hread hlt ⊢
  rw [readAll, List.length_cons, readMany_succ_cons, hread]
  simp only [readAll]
  rw [readMany_congr (Nat.le_of_lt_succ hlt) (le_refl rest.length)]

/-- Values at the front of the input are read first. -/
lemma readAll_flatMap_append (values : List Scalar) (rest : List UInt8) :
    readAll (values.flatMap Scalar.encode ++ rest) =
      (values ++ (readAll rest).1, (readAll rest).2) := by
  induction values with
  | nil => rfl
  | cons v values ih =>
      rw [List.flatMap_cons, List.append_assoc, readAll_encode_append, ih, List.cons_append]

/-- **What was read is a prefix of the input.** After it the input ends, or
reading on fails with the error that was returned. -/
lemma exists_rest_readAll (input : List UInt8) :
    ∃ rest, input = (readAll input).1.flatMap Scalar.encode ++ rest ∧
      (rest = [] ∧ (readAll input).2 = none ∨
        ∃ e, rest ≠ [] ∧ read rest = .error e ∧ (readAll input).2 = some e) := by
  -- every value that is read leaves a shorter input
  induction hlength : input.length using Nat.strong_induction_on generalizing input with
  | _ n ih =>
    by_cases hne : input = []
    · rw [hne, readAll_nil]
      exact ⟨[], rfl, .inl ⟨rfl, rfl⟩⟩
    · cases hread : read input with
      | error e =>
          rw [readAll_of_error hne hread]
          exact ⟨input, rfl, .inr ⟨e, hne, hread, rfl⟩⟩
      | ok result =>
          obtain ⟨v, input'⟩ := result
          obtain ⟨rest, hrest, hstop⟩ := ih _ (hlength ▸ length_lt_of_read hread) input' rfl
          obtain rfl := read_eq_ok.mp hread
          rw [readAll_encode_append]
          refine ⟨rest, ?_, hstop⟩
          rw [List.flatMap_cons, List.append_assoc, ← hrest]

/-- **Streams are self-delimiting.** From the wire forms of some values and
whatever follows them, reading as many values gives these values and leaves what
follows, and reading to the end gives them before what it gives for the rest
alone. From any bytes, the values that are read before reading stops have wire
forms that are a prefix of the bytes, and they are all of the bytes if and only
if there was no error. -/
theorem stream_self_delimiting :
    (∀ (values : List Scalar) (rest : List UInt8),
      readCount values.length (values.flatMap Scalar.encode ++ rest) = .ok (values, rest) ∧
      readAll (values.flatMap Scalar.encode ++ rest) =
        (values ++ (readAll rest).1, (readAll rest).2)) ∧
    ∀ bytes : List UInt8,
      (readAll bytes).1.flatMap Scalar.encode <+: bytes ∧
      ((readAll bytes).1.flatMap Scalar.encode = bytes ↔ (readAll bytes).2 = none) := by
  refine ⟨fun values rest => ⟨?_, readAll_flatMap_append values rest⟩, fun bytes => ?_⟩
  · exact readCount_eq_ok.mpr ⟨rfl, rfl⟩
  · obtain ⟨rest, hrest, hstop⟩ := exists_rest_readAll bytes
    refine ⟨⟨rest, hrest.symm⟩, ?_⟩
    have hwhole : (readAll bytes).1.flatMap Scalar.encode = bytes ↔ rest = [] := by
      conv_lhs => rhs; rw [hrest]
      exact List.self_eq_append_right
    rw [hwhole]
    rcases hstop with ⟨rfl, hnone⟩ | ⟨e, hne, -, hsome⟩
    · simp [hnone]
    · simp [hne, hsome]

end YangTypes.Wire
