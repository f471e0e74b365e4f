import Std.Data.HashMap
import YangTypes.Regex.Expr
import YangTypes.Unicode.Encoding

/-!
The size of the automaton of an expression.

An expression is matched by an automaton on bytes, and by one that reads backwards; neither may be
larger than `sizeLimit`. A state takes 32 bytes, and a branch or a transition that it lists takes
4 or 8 more. `Layout` says which states an expression asks for, in the order in which they are made,
and `Layout.add` counts them. Repeating an expression makes its states again.

Sets of characters share states. While the states of a set are made, a table of limited size keeps
those that are there, by a hash of their transitions; a state is made again if another one has taken
its place in the table.
-/

namespace YangTypes.Regex

open Unicode (ByteRange CharSet)

/-! ### Sizes -/

/-- A number of states, and the bytes that they take besides their own. -/
structure Size where
  states : Nat
  extra : Nat
deriving DecidableEq, Repr

namespace Size

/-- The bytes of one state. -/
def stateBytes : Nat := 32

/-- The bytes of one branch. -/
def branchBytes : Nat := 4

/-- The bytes of one transition. -/
def transitionBytes : Nat := 8

/-- All bytes. -/
def bytes (s : Size) : Nat := stateBytes * s.states + s.extra

/-- The greatest size of an automaton in bytes. -/
def limit : Nat := 10485760

/-- Whether a size is above the limit. -/
def isTooLarge (s : Size) : Bool := limit < s.bytes

/-- A size with more states. -/
def plusStates (s : Size) (count : Nat) : Size := { s with states := s.states + count }

/-- A size with more branches. -/
def plusBranches (s : Size) (count : Nat) : Size :=
  { s with extra := s.extra + branchBytes * count }

/-- A size with more transitions. -/
def plusTransitions (s : Size) (count : Nat) : Size :=
  { s with extra := s.extra + transitionBytes * count }

/-- The sum of two sizes. -/
def plus (s t : Size) : Size := ⟨s.states + t.states, s.extra + t.extra⟩

/-- Adds something a number of times, or until the size is too large. -/
def repeatAdd (add : Size → Size) : (count : Nat) → Size → Size
  | 0, s => s
  | count + 1, s => if s.isTooLarge then s else repeatAdd add count (add s)

end Size

/-! ### Tables of states -/

/-- The hash of a list of numbers. -/
def numbersHash (numbers : List Nat) : UInt64 :=
  numbers.foldl (fun hash n => (hash ^^^ n.toUInt64) * 1099511628211) 14695981039346656037

/-- A table of the states that are there, by what they are made from. Each of its places holds the
state that took it last. -/
structure StateTable (κ : Type) where
  capacity : Nat
  places : Std.HashMap Nat (κ × Nat)

namespace StateTable

variable {κ : Type}

/-- A table without states. -/
def empty (capacity : Nat) : StateTable κ := ⟨capacity, ∅⟩

/-- The place of what has some numbers. -/
def place (table : StateTable κ) (numbers : List Nat) : Nat :=
  (numbersHash numbers % table.capacity.toUInt64).toNat

/-- The state at a place, if it is made from `key`. -/
def find? [BEq κ] (table : StateTable κ) (place : Nat) (key : κ) : Option Nat :=
  match table.places[place]? with
  | some (other, state) => if other == key then some state else none
  | none => none

/-- Puts a state at a place. -/
def put (table : StateTable κ) (place : Nat) (key : κ) (state : Nat) : StateTable κ :=
  { table with places := table.places.insert place (key, state) }

end StateTable

/-! ### Sets of characters, forwards -/

/-- The sequences of a set as a tree: what comes after equal ranges is put together. -/
inductive ByteTree where
  | target
  | node (edges : List (ByteRange × ByteTree))

namespace ByteTree

/-- Puts a sequence before others in groups of those that start alike. -/
def insertFirst (sequence : List ByteRange) (groups : List (ByteRange × List (List ByteRange))) :
    List (ByteRange × List (List ByteRange)) :=
  match sequence, groups with
  | [], groups => groups
  | r :: rest, [] => [(r, [rest])]
  | r :: rest, group :: groups =>
    if r = group.1 then (r, rest :: group.2) :: groups else (r, [rest]) :: group :: groups

/-- The tree of sequences of at most `depth` ranges. -/
def ofSequences : (depth : Nat) → List (List ByteRange) → ByteTree
  | 0, _ => .target
  | depth + 1, sequences =>
    match sequences.foldr insertFirst [] with
    | [] => .target
    | groups => .node (groups.map fun group => (group.1, ofSequences depth group.2))

/-- The states of a set while they are made. -/
structure Progress where
  size : Size
  /-- The state that is reached at the end of a character. -/
  target : Nat
  table : StateTable (List (ByteRange × Nat))

/-- Makes a state with the given transitions, unless it is there. -/
def Progress.state (p : Progress) (edges : List (ByteRange × Nat)) : Nat × Progress :=
  let place := p.table.place (edges.flatMap fun edge => [edge.1.1, edge.1.2, edge.2])
  match p.table.find? place edges with
  | some state => (state, p)
  | none =>
    (p.size.states, { p with
      size := (p.size.plusStates 1).plusTransitions edges.length
      table := p.table.put place edges p.size.states })

mutual

/-- Makes the states of a tree and gives the first of them. -/
def make : ByteTree → Progress → Nat × Progress
  | .target, p => (p.target, p)
  | .node edges, p =>
    let (edges, p) := makeEdges edges p
    p.state edges

/-- Makes the states that edges lead to. -/
def makeEdges : List (ByteRange × ByteTree) → Progress → List (ByteRange × Nat) × Progress
  | [], p => ([], p)
  | (range, tree) :: edges, p =>
    let (state, p) := tree.make p
    let (edges, p) := makeEdges edges p
    ((range, state) :: edges, p)

end

/-- The places of the table for trees. -/
def capacity : Nat := 10000

/-- Adds the states of a tree. -/
def add (tree : ByteTree) (s : Size) : Size :=
  (tree.make ⟨s.plusStates 1, s.states, .empty capacity⟩).2.size

end ByteTree

/-! ### Sets of characters, backwards -/

namespace Backwards

/-- The places of the table for states that read backwards. -/
def capacity : Nat := 1000

/-- The states of a set while they are made. A state is made from the one after it and a range. -/
structure Progress where
  size : Size
  table : StateTable (List Nat)

/-- Makes the states of a sequence before another state. -/
def makeSequence (after : Nat) : List ByteRange → Progress → Progress
  | [], p => p
  | range :: ranges, p =>
    let key := [after, range.1, range.2]
    let place := p.table.place key
    match p.table.find? place key with
    | some state => makeSequence state ranges p
    | none =>
      makeSequence p.size.states ranges
        ⟨p.size.plusStates 1, p.table.put place key p.size.states⟩

/-- Adds the states of a set: a branching one, the one at its end, and those of the sequences. -/
def add (sequences : List (List ByteRange)) (s : Size) : Size :=
  let start : Progress := ⟨s.plusStates 2, .empty capacity⟩
  let done := sequences.foldl (fun p sequence => makeSequence (s.states + 1) sequence p) start
  done.size.plusBranches sequences.length

end Backwards

/-! ### Alternatives that are texts -/

/-- Cuts a list of texts behind each empty one. Further empty texts at the start do not count. -/
def cutAtEnds : List (List Nat) → List (List (List Nat))
  | [] => [[]]
  | [] :: texts => [] :: cutAtEnds texts
  | text :: texts =>
    match cutAtEnds texts with
    | [] => [[text]]
    | chunk :: chunks => (text :: chunk) :: chunks

/-- Drops the empty texts at the start of a list but one. -/
def dropRepeatedEnds (texts : List (List Nat)) : List (List Nat) :=
  let ends := texts.takeWhile List.isEmpty
  ends.take 1 ++ texts.drop ends.length

/-- The texts of a list that start with a byte, without it. -/
def afterByte (byte : Nat) (texts : List (List Nat)) : List (List Nat) :=
  texts.filterMap fun
    | b :: rest => if b = byte then some rest else none
    | [] => none

/-- The size of the states for what can come after a common start of some texts. Texts between two
that end here are a state of their own, which a branching state leads to. -/
def textsSize : (depth : Nat) → List (List Nat) → Size
  | 0, _ => ⟨0, 0⟩
  | depth + 1, texts =>
    if texts.all List.isEmpty then ⟨0, 0⟩
    else
      let chunks := cutAtEnds (dropRepeatedEnds texts)
      let chunkSizes := chunks.map fun chunk =>
        let bytes := (chunk.filterMap List.head?).eraseDups
        let below := (bytes.map fun byte => textsSize depth (afterByte byte chunk)).foldl
          Size.plus ⟨0, 0⟩
        match bytes.length with
        | 0 => below
        | 1 => (below.plusStates 1).plusBranches 1
        | count => ((below.plusStates 1).plusTransitions count).plusBranches 1
      ((chunkSizes.foldl Size.plus ⟨0, 0⟩).plusBranches (chunks.length - 1)).plusStates 1

/-! ### Expressions -/

/-- What the automaton of an expression is made of. -/
inductive Layout where
  | block (size : Size)
  | tree (tree : ByteTree)
  | backwards (sequences : List (List ByteRange))
  | capture (body : Layout)
  /-- With `consumes`, the body does not match the empty text. -/
  | rep (least : Nat) (most : Option Nat) (consumes : Bool) (body : Layout)
  | seq (parts : List Layout)
  | alt (parts : List Layout)

namespace Layout

/-- The bytes of a text. -/
def textBytes (text : List Char) : List Nat := text.flatMap fun c => Unicode.encodeCode c.toNat

/-- The layout of a set of characters. -/
def ofSet (backwards : Bool) (set : CharSet) : Layout :=
  if set.isAscii then .block ((Size.mk 2 0).plusTransitions set.ranges.length)
  else if backwards then .backwards set.byteSequences
  else .tree (.ofSequences 4 set.byteSequences)

/-- The layout of alternatives that are texts. -/
def ofTexts (backwards : Bool) (texts : List (List Char)) : Layout :=
  let texts := texts.map fun text =>
    if backwards then (textBytes text).reverse else textBytes text
  let depth := texts.foldl (fun depth text => max depth text.length) 0
  .block ((textsSize (depth + 1) texts).plusStates 1)

mutual

/-- The layout of an expression. Backwards there are no captures. -/
def ofExpr (backwards : Bool) : Expr → Layout
  | .empty => .block ⟨1, 0⟩
  | .literal text => .block ⟨(textBytes text).length, 0⟩
  | .chars _ set => .ofSet backwards set
  | .look _ => .block ⟨1, 0⟩
  | .capture _ body => if backwards then ofExpr true body else .capture (ofExpr false body)
  | .rep least most _ body =>
    .rep least most (body.minLength.any (0 < ·)) (ofExpr backwards body)
  | .seq parts =>
    .seq (if backwards then (ofParts true parts).reverse else ofParts false parts)
  | .alt parts =>
    match parts.mapM Expr.literal? with
    | some texts => .ofTexts backwards texts
    | none => .alt (ofParts backwards parts)

/-- The layouts of a list of expressions. -/
def ofParts (backwards : Bool) : List Expr → List Layout
  | [] => []
  | part :: parts => ofExpr backwards part :: ofParts backwards parts

end

mutual

/-- Whether the last state branches, so that going on from it takes a branch more. -/
def endsBranching : Layout → Bool
  | .rep least none consumes _ => least != 0 || consumes
  | .rep least (some most) _ body => least == most && body.endsBranching
  | .seq parts => lastBranching parts
  | _ => false

/-- Whether the last state of a list of layouts branches. -/
def lastBranching : List Layout → Bool
  | [] => false
  | [part] => part.endsBranching
  | _ :: parts => lastBranching parts

end

/-- A size with the branch that it takes to go on from a layout. -/
def link (layout : Layout) (s : Size) : Size :=
  if layout.endsBranching then s.plusBranches 1 else s

mutual

/-- Adds the states of a layout. -/
def add : Layout → Size → Size
  | .block size, s => s.plus size
  | .tree t, s => t.add s
  | .backwards sequences, s => Backwards.add sequences s
  | .capture body, s => (body.link (body.add (s.plusStates 1))).plusStates 1
  | .rep 0 (some 1) _ body, s =>
    ((body.link (body.add (s.plusStates 1))).plusStates 1).plusBranches 2
  | .rep 0 none true body, s => (body.link (body.add (s.plusStates 1))).plusBranches 1
  | .rep 0 none false body, s => ((body.link (body.add s)).plusStates 3).plusBranches 4
  | .rep (least + 1) none _ body, s =>
    let prior := s.repeatAdd (fun s => body.link (body.add s)) least
    ((body.link (body.add prior)).plusStates 1).plusBranches 1
  | .rep least (some most) _ body, s =>
    let copy := fun s => body.link (body.add s)
    if least = most then s.repeatAdd copy (least - 1) |> body.add
    else
      let required := if least = 0 then s.plusStates 1 else s.repeatAdd copy least
      (required.plusStates 1).repeatAdd
        (fun s => (copy (s.plusStates 1)).plusBranches 2) (most - least)
  | .seq parts, s => addParts parts s
  | .alt parts, s => addAlternatives 2 parts s

/-- Adds the states of layouts that follow one another. -/
def addParts : List Layout → Size → Size
  | [], s => s
  | [part], s => part.add s
  | part :: parts, s => addParts parts (part.link (part.add s))

/-- Adds the states of alternatives. The states that branch to them and join them are made after
the first two. -/
def addAlternatives (before : Nat) : List Layout → Size → Size
  | [], s => s
  | part :: parts, s =>
    let s := (part.link (part.add s)).plusBranches 1
    addAlternatives (before - 1) parts (if before = 1 then s.plusStates 2 else s)

end

end Layout

/-- The size of the automaton of an expression: the states before a match that may start anywhere,
those of the expression, and the one that accepts. Forwards the whole match is captured. -/
def Expr.automatonSize (backwards : Bool) (e : Expr) : Size :=
  let body := Layout.ofExpr backwards e
  let start : Size := if e.anchored backwards then ⟨1, 0⟩ else ⟨3, 16⟩
  let whole := if backwards then body.link (body.add start) else (Layout.capture body).add start
  whole.plusStates 1

/-- Whether the automata of an expression are within the limit. -/
def Expr.isWithinLimit (e : Expr) : Bool :=
  !(e.automatonSize false).isTooLarge && !(e.automatonSize true).isTooLarge

end YangTypes.Regex
