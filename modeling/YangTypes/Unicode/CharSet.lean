/-!
Sets of characters as lists of ranges of code points.

The ranges of a set are ascending and do not touch. `ofRanges` brings any list of ranges into this
form, and the set operations keep it. A range may run over the code points that are reserved for
pairs; they are no characters, so the character after U+D7FF is U+E000.
-/

namespace YangTypes.Unicode

/-- A set of code points, given by its ranges. -/
structure CharSet where
  ranges : List (Nat × Nat)
deriving DecidableEq, Repr

namespace CharSet

/-- The largest code point. -/
def maxCode : Nat := 0x10FFFF

/-- The set without characters. -/
def empty : CharSet := ⟨[]⟩

/-- Whether a character is in a set. -/
def contains (s : CharSet) (c : Char) : Bool :=
  s.ranges.any fun r => r.1 ≤ c.toNat && c.toNat ≤ r.2

/-- Whether a set has no characters. -/
def isEmpty (s : CharSet) : Bool := s.ranges.isEmpty

/-- Joins a range with those of an ascending list that overlap or touch it. -/
def joinRanges (current : Nat × Nat) : List (Nat × Nat) → List (Nat × Nat)
  | [] => [current]
  | r :: rs =>
    if r.1 ≤ current.2 + 1 then joinRanges (current.1, max current.2 r.2) rs
    else current :: joinRanges r rs

/-- The set of the characters in some ranges. -/
def ofRanges (ranges : List (Nat × Nat)) : CharSet :=
  match ranges.mergeSort fun a b => a.1 ≤ b.1 with
  | [] => empty
  | r :: rs => ⟨joinRanges r rs⟩

/-- The set of the characters from one to another. -/
def range (low high : Char) : CharSet := ⟨[(low.toNat, high.toNat)]⟩

/-- The set of one character. -/
def single (c : Char) : CharSet := range c c

/-- The characters of either set. -/
def union (a b : CharSet) : CharSet := ofRanges (a.ranges ++ b.ranges)

/-- The character after another, by code points. -/
def after (code : Nat) : Nat := if code = 0xD7FF then 0xE000 else code + 1

/-- The character before another, by code points. -/
def before (code : Nat) : Nat := if code = 0xE000 then 0xD7FF else code - 1

/-- The range between two characters, in either order. -/
def between (a b : Nat) : Nat × Nat := (min a b, max a b)

/-- The code points up to `last` that come after a range and are in none of the ascending ranges.
Ranges that meet around the reserved code points leave the characters at the seam. -/
def gaps (last : Nat) (r : Nat × Nat) : List (Nat × Nat) → List (Nat × Nat)
  | [] => if r.2 < last then [(after r.2, last)] else []
  | s :: rs => between (after r.2) (before s.1) :: gaps last s rs

/-- The code points up to `last` that are not in a set. -/
def complementUpTo (last : Nat) (s : CharSet) : CharSet :=
  match s.ranges with
  | [] => ⟨[(0, last)]⟩
  | r :: rs => ⟨if 0 < r.1 then (0, before r.1) :: gaps last r rs else gaps last r rs⟩

/-- The characters that are not in a set. -/
def complement (s : CharSet) : CharSet := s.complementUpTo maxCode

/-- The parts that two ascending lists of ranges share. -/
def sharedRanges : List (Nat × Nat) → List (Nat × Nat) → List (Nat × Nat)
  | [], _ => []
  | _, [] => []
  | a :: as, b :: bs =>
    let rest := if a.2 < b.2 then sharedRanges as (b :: bs) else sharedRanges (a :: as) bs
    if max a.1 b.1 ≤ min a.2 b.2 then (max a.1 b.1, min a.2 b.2) :: rest else rest
termination_by as bs => as.length + bs.length

/-- The characters of both sets. -/
def inter (a b : CharSet) : CharSet := ⟨sharedRanges a.ranges b.ranges⟩

/-- What is left of ascending ranges without others. -/
def remainingRanges : List (Nat × Nat) → List (Nat × Nat) → List (Nat × Nat)
  | [], _ => []
  | a :: as, [] => a :: as
  | a :: as, b :: bs =>
    if b.2 < a.1 then remainingRanges (a :: as) bs
    else if a.2 < b.1 then a :: remainingRanges as (b :: bs)
    else
      let rest :=
        if b.2 < a.2 then remainingRanges ((after b.2, a.2) :: as) bs
        else remainingRanges as (b :: bs)
      if a.1 < b.1 then (a.1, before b.1) :: rest else rest
termination_by as bs => as.length + bs.length

/-- The characters of the first set that are not in the second. -/
def diff (a b : CharSet) : CharSet := ⟨remainingRanges a.ranges b.ranges⟩

/-- The characters of exactly one of two sets. -/
def symmDiff (a b : CharSet) : CharSet := (a.union b).diff (a.inter b)

/-- The union of a list of sets. -/
def unions (sets : List CharSet) : CharSet := ofRanges (sets.flatMap ranges)

/-- Whether every character of a set is an ASCII character. -/
def isAscii (s : CharSet) : Bool := s.ranges.all fun r => r.2 ≤ 0x7F

/-- The value of a hexadecimal number in a table. -/
def hexNumber (text : List Char) : Nat :=
  text.foldl (fun n c => n * 16 + (if c.isDigit then c.toNat - 48 else c.toNat - 55)) 0

/-- The words of a table. -/
def tableWords (table : String) : List (List Char) :=
  (table.toList.splitOnP Char.isWhitespace).filter fun word => !word.isEmpty

/-- The hexadecimal numbers of a table. -/
def tableNumbers (table : String) : List Nat := (tableWords table).map hexNumber

/-- The ranges of a table that says alternately how many code points to skip and to take. -/
def runRanges (next : Nat) : List Nat → List (Nat × Nat)
  | skip :: take :: rest => (next + skip, next + skip + take - 1) :: runRanges (next + skip + take) rest
  | _ => []

/-- The set of a table that says alternately how many code points to skip and to take. -/
def ofTable (table : String) : CharSet := ⟨runRanges 0 (tableNumbers table)⟩

/-- The set of a list of code points and of ranges with a dash, in hexadecimal. -/
def listed (text : String) : CharSet :=
  ofRanges ((tableWords text).map fun word =>
    let ends := (word.splitOnP (· == '-')).map hexNumber
    (ends.headD 0, ends.getLastD 0))

end CharSet

end YangTypes.Unicode
