import YangTypes.Unicode.CharSet
import YangTypes.Unicode.CaseFolding

/-!
Closing sets of characters under differences in case.
-/

namespace YangTypes.Unicode

/-- The classes of a run of pairs that starts at a character. -/
def pairRun (first distance step : Nat) : (count : Nat) → List (List Nat)
  | 0 => []
  | count + 1 => [first, first + distance] :: pairRun (first + step) distance step count

/-- The classes of characters that differ in case only. -/
def foldingOrbits : List (List Nat) :=
  foldingClasses.map CharSet.tableNumbers ++
    foldingPairs.flatMap fun entry =>
      match CharSet.tableNumbers entry with
      | [first, distance, step, count] => pairRun first distance step count
      | _ => []

namespace CharSet

/-- Whether a code point is in a set. -/
def containsCode (s : CharSet) (code : Nat) : Bool :=
  s.ranges.any fun r => r.1 ≤ code && code ≤ r.2

/-- A set with all characters that differ from one of its characters in case only. -/
def foldCase (s : CharSet) : CharSet :=
  let added := (foldingOrbits.filter fun orbit => orbit.any s.containsCode).flatten
  ofRanges (s.ranges ++ added.map fun code => (code, code))

/-- A set with the other case of its ASCII letters. -/
def foldAsciiCase (s : CharSet) : CharSet :=
  let upper := s.inter ⟨[(0x41, 0x5A)]⟩
  let lower := s.inter ⟨[(0x61, 0x7A)]⟩
  ofRanges (s.ranges ++ upper.ranges.map (fun r => (r.1 + 32, r.2 + 32)) ++
    lower.ranges.map fun r => (r.1 - 32, r.2 - 32))

end CharSet

end YangTypes.Unicode
