import Std.Data.HashMap
import YangTypes.Power
import YangTypes.Regex.Expr
import YangTypes.Unicode.Property

/-!
Matching by sets of positions.

The positions of a text of `n` characters are the numbers from 0 to `n`, and a set of positions is
a natural number whose bits they are. An expression is first placed on a text: every character set
becomes the set of the positions where such a character stands, and every assertion the set of the
positions where it holds. `Placed.run` then takes the positions at which a match may start to those
at which it may end. A repetition is run until nothing changes, so the time is bounded by the size
of expression and text, however ambiguous the expression is.
-/

namespace YangTypes.Regex

/-- Which of the `2 ^ levels` positions from `first` on satisfy a test, counted from `first`. -/
def positionsFrom (test : Nat → Bool) (first : Nat) : (levels : Nat) → Nat
  | 0 => if test first then 1 else 0
  | levels + 1 =>
    let half := twoPow levels
    positionsFrom test first levels ||| positionsFrom test (first + half) levels <<< half

/-- The set of the positions below a count for which a test holds. -/
def positionsWhere (test : Nat → Bool) (count : Nat) : Nat :=
  positionsFrom (fun i => decide (i < count) && test i) 0 (count.log2 + 1)

/-- An expression placed on a text: its leaves are sets of positions. -/
inductive Placed where
  | empty
  /-- A character of a set stands at these positions. -/
  | step (positions : Nat)
  /-- An assertion holds at these positions. -/
  | stay (positions : Nat)
  | seq (first second : Placed)
  | alt (left right : Placed)
  | rep (least : Nat) (most : Nat) (body : Placed)

/-- Applies a function at most `count` times, and stops early where it changes nothing. -/
def iterate (f : Nat → Nat) : (count positions : Nat) → Nat
  | 0, positions => positions
  | count + 1, positions =>
    let next := f positions
    if next = positions then positions else iterate f count next

/-- The positions where a match may end that starts at one of the given positions. -/
def Placed.run : Placed → Nat → Nat
  | empty, positions => positions
  | step at_, positions => (positions &&& at_) <<< 1
  | stay at_, positions => positions &&& at_
  | seq a b, positions => b.run (a.run positions)
  | alt a b, positions => a.run positions ||| b.run positions
  | rep least most body, positions =>
    let required := iterate body.run least positions
    iterate (fun reached => reached ||| body.run reached) (most - least) required

/-- Whether an edge is there, given whether the characters on both sides are word characters. -/
def WordEdge.holds (before after : Bool) : WordEdge → Bool
  | boundary => before != after
  | notBoundary => before == after
  | wordStart => !before && after
  | wordEnd => before && !after
  | startHalf => !before
  | endHalf => !after

/-- Whether a character is a word character. -/
def isWordChar (ascii : Bool) (c : Char) : Bool :=
  if ascii then c.isAlphanum || c == '_' else Unicode.word.contains c

/-- Whether an assertion holds between two characters, each missing at an end of the text. -/
def Look.holds (before after : Option Char) : Look → Bool
  | textStart => before.isNone
  | textEnd => after.isNone
  | lineStart false => before.isNone || before == some '\n'
  | lineEnd false => after.isNone || after == some '\n'
  | lineStart true =>
    before.isNone || before == some '\n' || (before == some '\r' && after != some '\n')
  | lineEnd true =>
    after.isNone || after == some '\r' || (after == some '\n' && before != some '\r')
  | word ascii edge => edge.holds (before.any (isWordChar ascii)) (after.any (isWordChar ascii))

/-- A text, and the positions of each of its characters by their codes. -/
structure Subject where
  letters : Array Char
  index : Std.HashMap Nat Nat

namespace Subject

/-- The text of a list of characters. -/
def ofList (letters : List Char) : Subject :=
  let index := letters.zipIdx.foldl
    (fun (index : Std.HashMap Nat Nat) (c, i) =>
      index.insert c.toNat (index.getD c.toNat 0 ||| 1 <<< i)) ∅
  ⟨letters.toArray, index⟩

/-- The positions of a character. -/
def charPositions (s : Subject) (c : Char) : Nat := s.index.getD c.toNat 0

/-- The positions of the characters of a set. -/
def setPositions (s : Subject) (set : Unicode.CharSet) : Nat :=
  positionsWhere (fun i => s.letters[i]?.any set.contains) s.letters.size

/-- The positions at which an assertion holds. -/
def lookPositions (s : Subject) (l : Look) : Nat :=
  positionsWhere (fun i => l.holds (if i = 0 then none else s.letters[i - 1]?) s.letters[i]?)
    (s.letters.size + 1)

/-- All positions, the end included. -/
def allPositions (s : Subject) : Nat := 1 <<< (s.letters.size + 1) - 1

end Subject

namespace Expr

mutual

/-- Places an expression on a text. -/
def place (text : Subject) : Expr → Placed
  | .empty => .empty
  | .literal letters =>
    letters.foldr (fun c after => .seq (.step (text.charPositions c)) after) .empty
  | .chars _ set => .step (text.setPositions set)
  | .look l => .stay (text.lookPositions l)
  | .capture _ body => body.place text
  | .rep least most _ body =>
    -- more rounds than the text has positions reach nothing new
    .rep least (most.getD (least + text.letters.size + 1)) (body.place text)
  | .seq parts => placeParts text parts
  | .alt parts => placeAlternatives text parts

/-- Places expressions on a text, one after the other. -/
def placeParts (text : Subject) : List Expr → Placed
  | [] => .empty
  | part :: parts => .seq (part.place text) (placeParts text parts)

/-- Places alternatives on a text. -/
def placeAlternatives (text : Subject) : List Expr → Placed
  | [] => .stay 0
  | part :: parts => .alt (part.place text) (placeAlternatives text parts)

end

/-- Whether an expression matches somewhere in a text. -/
def isMatch (e : Expr) (text : String) : Bool :=
  let subject := Subject.ofList text.toList
  (e.place subject).run subject.allPositions != 0

end Expr

end YangTypes.Regex
