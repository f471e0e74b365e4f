import YangTypes.Unicode.CharSet

/-!
The bytes of characters, by ranges.

A character is written with one to four bytes. The characters of a set are those of some sequences
of byte ranges: in each sequence, every choice of a byte for each range is a character, and no
character belongs to two sequences. `CharSet.byteSequences` lists them in ascending order.
-/

namespace YangTypes.Unicode

/-- The bytes from one to another. -/
abbrev ByteRange := Nat × Nat

/-- The characters with one byte. -/
def oneByte : Nat × Nat := (0, 0x7F)

/-- The characters with two bytes, three, and four, without the reserved code points. -/
def moreBytes : List (Nat × Nat) :=
  [(0x80, 0x7FF), (0x800, 0xD7FF), (0xE000, 0xFFFF), (0x10000, 0x10FFFF)]

/-- The numbers of characters that share all but their last byte, their last two and their last
three. -/
def blockSizes : List Nat := [64, 4096, 262144]

/-- Cuts a range such that in each part the last bytes take all values wherever the ones before
them change. -/
def cutAtBlocks : List Nat → Nat × Nat → List (Nat × Nat)
  | [], r => [r]
  | size :: sizes, r =>
    if r.1 / size = r.2 / size then [r]
    else
      let first := (r.1 + size - 1) / size * size
      let last := (r.2 + 1) / size * size
      let left := if r.1 < first then [(r.1, first - 1)] else []
      let right := if last ≤ r.2 then [(last, r.2)] else []
      let middle := if first < last then cutAtBlocks sizes (first, last - 1) else []
      left ++ middle ++ right

/-- The bytes of a character. -/
def encodeCode (code : Nat) : List Nat :=
  (String.utf8EncodeChar (Char.ofNat code)).map UInt8.toNat

namespace CharSet

/-- The sequences of byte ranges that make up the characters of a set. -/
def byteSequences (s : CharSet) : List (List ByteRange) :=
  s.ranges.flatMap fun r =>
    (sharedRanges [oneByte] [r]).map (fun part => [part]) ++
      (sharedRanges moreBytes [r]).flatMap fun part =>
        (cutAtBlocks blockSizes part).map fun block =>
          (encodeCode block.1).zip (encodeCode block.2)

end CharSet

end YangTypes.Unicode
