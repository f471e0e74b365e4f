import YangTypes.Decimal.Basic
import YangTypes.Unsigned.Basic

/-!
Big-endian bytes.

`bigEndian count n` writes the lowest `count` bytes of a number, the most significant first, and
`ofBigEndian` reads a list of bytes back. `ofBigEndian_lt` is what makes a list of as many bytes as
a width has a value of that width.
-/

namespace YangTypes.Wire

/-- The lowest `count` bytes of a number, most significant first. -/
def bigEndian : (count n : Nat) → List UInt8
  | 0, _ => []
  | count + 1, n => bigEndian count (n / 256) ++ [UInt8.ofNat (n % 256)]

/-- The number that a list of bytes denotes, most significant first. -/
def ofBigEndian (bytes : List UInt8) : Nat :=
  bytes.foldl (fun acc b => acc * 256 + b.toNat) 0

theorem foldl_bytes_lt (bytes : List UInt8) (acc bound : Nat) (h : acc < bound) :
    bytes.foldl (fun acc b => acc * 256 + b.toNat) acc < bound * twoPow (8 * bytes.length) := by
  induction bytes generalizing acc bound with
  | nil => simpa [twoPow] using h
  | cons b bytes ih =>
    have hb : b.toNat < 256 := b.toNat_lt
    have step := ih (acc * 256 + b.toNat) (bound * 256) (by omega)
    have hpow : twoPow (8 * (b :: bytes).length) = 256 * twoPow (8 * bytes.length) := by
      rw [List.length_cons, Nat.mul_add, Nat.add_comm, twoPow_add]
      rfl
    rw [hpow, ← Nat.mul_assoc]
    exact step

theorem ofBigEndian_lt (bytes : List UInt8) : ofBigEndian bytes < twoPow (8 * bytes.length) := by
  have h := foldl_bytes_lt bytes 0 1 (by decide)
  simpa [ofBigEndian] using h

theorem eight_mul_bytes (w : Width) : 8 * w.bytes = w.bits := by
  cases w <;> rfl

/-- The value of as many bytes as the width has. -/
def unsignedOfBytes (w : Width) (bytes : List UInt8) (h : bytes.length = w.bytes) : Unsigned w :=
  ⟨ofBigEndian bytes, by rw [← eight_mul_bytes, ← h]; exact ofBigEndian_lt bytes⟩

/-- The signed reading of a value fits the width. -/
theorem signedBits_fits {w : Width} (u : Unsigned w) : FitsSigned w.bits u.signedBits := by
  have hlt := u.lt
  unfold Unsigned.signedBits FitsSigned
  by_cases hneg : u.val < twoPow (w.bits - 1)
  · rw [if_pos hneg]
    omega
  · rw [if_neg hneg]
    have htwice : twoPow w.bits = 2 * twoPow (w.bits - 1) := by cases w <;> rfl
    omega

end YangTypes.Wire
