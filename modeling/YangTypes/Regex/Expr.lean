import YangTypes.Unicode.CharSet

/-!
Regular expressions over characters.

`Expr` is what is left of an expression once its flags are resolved. Expressions are made with
`ofSet`, `repeated`, `sequence` and `choice`, which bring them into a simple form: no part of a
sequence is a sequence or empty, neighbouring texts are one text, alternatives of single characters
are a set, and what alternatives have in common at their start stands before them.
-/

namespace YangTypes.Regex

open Unicode (CharSet)

/-- Which side of a word an assertion asks for. -/
inductive WordEdge where
  | boundary
  | notBoundary
  | wordStart
  | wordEnd
  | startHalf
  | endHalf
deriving DecidableEq, Repr

/-- An assertion about a position in the text. -/
inductive Look where
  | textStart
  | textEnd
  /-- Start of a line; with `crlf`, lines may also end in a carriage return. -/
  | lineStart (crlf : Bool)
  /-- End of a line. -/
  | lineEnd (crlf : Bool)
  /-- Edge of a word; with `ascii`, only ASCII characters are word characters. -/
  | word (ascii : Bool) (edge : WordEdge)
deriving DecidableEq, Repr

/-- A regular expression. -/
inductive Expr where
  | empty
  | literal (text : List Char)
  /-- A character of a set. Sets that were written as bytes match alike, but are not the same. -/
  | chars (bytes : Bool) (set : CharSet)
  | look (look : Look)
  /-- A group with its number. -/
  | capture (index : Nat) (body : Expr)
  /-- At least `least` and at most `most` times; without `most`, any number of times. -/
  | rep (least : Nat) (most : Option Nat) (greedy : Bool) (body : Expr)
  | seq (parts : List Expr)
  | alt (parts : List Expr)

namespace Expr

/-! ### What can be said about an expression -/

mutual

/-- Whether two expressions are the same. -/
def same : Expr → Expr → Bool
  | .empty, .empty => true
  | .literal a, .literal b => a == b
  | .chars bytes a, .chars bytes' b => bytes == bytes' && a == b
  | .look a, .look b => a == b
  | .capture i a, .capture j b => i == j && same a b
  | .rep least most greedy a, .rep least' most' greedy' b =>
    least == least' && most == most' && greedy == greedy' && same a b
  | .seq as, .seq bs => sameParts as bs
  | .alt as, .alt bs => sameParts as bs
  | _, _ => false

/-- Whether two lists of expressions are the same. -/
def sameParts : List Expr → List Expr → Bool
  | [], [] => true
  | a :: as, b :: bs => same a b && sameParts as bs
  | _, _ => false

end

mutual

/-- The number of nodes. -/
def nodeCount : Expr → Nat
  | .capture _ body => body.nodeCount + 1
  | .rep _ _ _ body => body.nodeCount + 1
  | .seq parts => partsCount parts + 1
  | .alt parts => partsCount parts + 1
  | _ => 1

/-- The number of nodes of a list of expressions. -/
def partsCount : List Expr → Nat
  | [] => 0
  | part :: parts => part.nodeCount + partsCount parts

end

mutual

/-- Whether an expression matches nothing but the empty text. -/
def emptyOnly : Expr → Bool
  | .empty => true
  | .literal _ => false
  | .chars .. => false
  | .look _ => true
  | .capture _ body => body.emptyOnly
  | .rep _ most _ body => most.isSome && body.emptyOnly
  | .seq parts => allEmptyOnly parts
  | .alt parts => allEmptyOnly parts

/-- Whether all expressions of a list match nothing but the empty text. -/
def allEmptyOnly : List Expr → Bool
  | [] => true
  | part :: parts => part.emptyOnly && allEmptyOnly parts

end

mutual

/-- The least number of characters of a match; there is none if some set is empty. -/
def minLength : Expr → Option Nat
  | .empty => some 0
  | .literal text => some text.length
  | .chars _ set => if set.isEmpty then none else some 1
  | .look _ => some 0
  | .capture _ body => body.minLength
  | .rep least _ _ body => body.minLength.map (least * ·)
  | .seq parts => (minLengths parts).map List.sum
  | .alt parts => (minLengths parts).bind List.min?

/-- The least numbers of characters of some expressions, if all have one. -/
def minLengths : List Expr → Option (List Nat)
  | [] => some []
  | part :: parts => do return (← part.minLength) :: (← minLengths parts)

end

mutual

/-- Whether every match starts at the start of the text, or ends at its end. -/
def anchored (atEnd : Bool) : Expr → Bool
  | .look l => l == (if atEnd then .textEnd else .textStart)
  | .capture _ body => body.anchored atEnd
  | .rep least _ _ body => 0 < least && body.anchored atEnd
  | .seq parts => if atEnd then lastAnchored parts else firstAnchored parts
  | .alt parts => allAnchored atEnd parts
  | _ => false

/-- Whether every match of expressions one after the other starts at the start of the text. -/
def firstAnchored : List Expr → Bool
  | [] => false
  | part :: parts => part.anchored false || (part.emptyOnly && firstAnchored parts)

/-- Whether every match of expressions one after the other ends at the end of the text. -/
def lastAnchored : List Expr → Bool
  | [] => false
  | part :: parts => lastAnchored parts || (allEmptyOnly parts && part.anchored true)

/-- Whether all expressions of a list are anchored. -/
def allAnchored (atEnd : Bool) : List Expr → Bool
  | [] => true
  | part :: parts => part.anchored atEnd && allAnchored atEnd parts

end

/-! ### Making expressions -/

/-- A character of a set. -/
def ofSet (bytes : Bool) (set : CharSet) : Expr :=
  match set.ranges with
  | [] => .chars true set
  | [(low, high)] => if low = high then .literal [Char.ofNat low] else .chars bytes set
  | _ => .chars bytes set

/-- A repeated expression. What matches the empty text only is repeated at most once. -/
def repeated (least : Nat) (most : Option Nat) (greedy : Bool) (body : Expr) : Expr :=
  let (least, most) :=
    if body.emptyOnly then (min least 1, some (min (most.getD 1) 1)) else (least, most)
  if least = 0 ∧ most = some 0 then .empty
  else if least = 1 ∧ most = some 1 then body
  else .rep least most greedy body

/-- Puts an expression before others that come after it. -/
def prepend : Expr → List Expr → List Expr
  | .empty, parts => parts
  | .literal text, .literal after :: parts => .literal (text ++ after) :: parts
  | part, parts => part :: parts

/-- One expression after the other. -/
def sequence (parts : List Expr) : Expr :=
  let flat := parts.flatMap fun
    | .seq inner => inner
    | part => [part]
  match flat.foldr prepend [] with
  | [] => .empty
  | [part] => part
  | parts => .seq parts

/-- The character of an expression that is one character. -/
def char? : Expr → Option Char
  | .literal [c] => some c
  | _ => none

/-- The characters of an expression that is a set. -/
def set? : Expr → Option CharSet
  | .chars _ set => some set
  | _ => none

/-- The text of an expression that is a text. -/
def literal? : Expr → Option (List Char)
  | .literal text => some text
  | _ => none

/-- The parts of a sequence. -/
def sequence? : Expr → Option (List Expr)
  | .seq parts => some parts
  | _ => none

/-- What two lists have in common at their start. -/
def commonParts : List Expr → List Expr → List Expr
  | a :: as, b :: bs => if a.same b then a :: commonParts as bs else []
  | _, _ => []

/-- What sequences have in common at their start, and the rests; nothing if one of the expressions
is no sequence or if they have nothing in common. -/
def splitCommon? (parts : List Expr) : Option (List Expr × List (List Expr)) := do
  let sequences ← parts.mapM sequence?
  match sequences with
  | [] => none
  | first :: others =>
    match others.foldl commonParts first with
    | [] => none
    | common => some (common, sequences.map (·.drop common.length))

/-- One of several expressions, where what they have in common at their start is taken out up to a
number of times. -/
def choiceWithin : (fuel : Nat) → List Expr → Expr
  | 0, parts => .alt parts
  | fuel + 1, parts =>
    let flat := parts.flatMap fun
      | .alt inner => inner
      | part => [part]
    match flat with
    | [part] => part
    | flat =>
      match flat.mapM char? with
      | some letters => ofSet false (.unions (letters.map .single))
      | none =>
        match flat.mapM set? with
        | some sets => ofSet false (.unions sets)
        | none =>
          match splitCommon? flat with
          | some (common, rests) =>
            sequence (common ++ [choiceWithin fuel (rests.map sequence)])
          | none => .alt flat

/-- One of several expressions. -/
def choice (parts : List Expr) : Expr := choiceWithin (partsCount parts + 1) parts

end Expr

end YangTypes.Regex
