import YangTypes.Text.Blank
import YangTypes.Text.Split
import YangTypes.Violation

/-!
Arguments of `range` and `length`: lists of bounds such as `1..10 | 20..max | 42`.
-/

namespace YangTypes

/-- One end of a part of an argument. -/
inductive BoundEnd where
  /-- The least number that the base type allows. -/
  | min
  /-- The greatest number that the base type allows. -/
  | max
  /-- A number in the notation of the type. -/
  | literal (text : String)
deriving DecidableEq, Repr

/-- One part of an argument; a single number has two equal ends. -/
structure BoundPair where
  low : BoundEnd
  high : BoundEnd
deriving DecidableEq, Repr

namespace BoundEnd

/-- The text of an end. -/
def text : BoundEnd → String
  | min => "min"
  | max => "max"
  | literal text => text

/-- Reads one end; blanks around it do not count. -/
def read (cs : List Char) : Except Violation BoundEnd :=
  match String.ofList (Text.trimChars cs) with
  | "" => .error (.ofMessage "empty bound")
  | "min" => .ok .min
  | "max" => .ok .max
  | text => .ok (.literal text)

end BoundEnd

namespace BoundPair

/-- Reads one part: two ends with two dots between them, or one end. -/
def read (cs : List Char) : Except Violation BoundPair := do
  match Text.splitAtFirst? ['.', '.'] cs with
  | some (low, high) => return ⟨← BoundEnd.read low, ← BoundEnd.read high⟩
  | none =>
    let single ← BoundEnd.read cs
    return ⟨single, single⟩

/-- Reads the parts of an argument, which are separated by vertical bars. -/
def parseList (text : String) : Except Violation (List BoundPair) :=
  (text.toList.splitOnP (· == '|')).mapM read

end BoundPair

end YangTypes
