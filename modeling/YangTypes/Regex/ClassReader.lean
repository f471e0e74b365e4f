import YangTypes.Regex.Reader

/-!
Bracketed classes.

A class is a union of characters, ranges, sets and nested classes; two unions can be joined by the
operators for intersection, difference and symmetric difference, which associate to the left and
bind weaker than the union. The reader goes over the text once and keeps the classes and operators
that are still open on a stack.
-/

namespace YangTypes.Regex

open Unicode (CharSet)

/-- A set together with the nesting depth of what it was written as. -/
structure ClassNode where
  set : CharSet
  depth : Nat

/-- The union that is being read: its characters, the number of its items and their greatest
depth. -/
structure ClassUnion where
  set : CharSet
  count : Nat
  depth : Nat

namespace ClassUnion

/-- The union without items. -/
def empty : ClassUnion := ⟨.empty, 0, 0⟩

/-- Adds an item. -/
def push (u : ClassUnion) (item : ClassNode) : ClassUnion :=
  ⟨u.set.union item.set, u.count + 1, max u.depth item.depth⟩

/-- The finished union; with one item it is the item. -/
def toNode (u : ClassUnion) : ClassNode :=
  ⟨u.set, if u.count ≤ 1 then u.depth else u.depth + 1⟩

end ClassUnion

/-- The operators between unions. -/
inductive ClassOperator where
  | inter
  | diff
  | symmDiff

/-- The meaning of an operator. -/
def ClassOperator.apply : ClassOperator → CharSet → CharSet → CharSet
  | inter => CharSet.inter
  | diff => CharSet.diff
  | symmDiff => CharSet.symmDiff

/-- What is still open while a class is read. -/
inductive ClassFrame where
  /-- A class inside the union that was read before it. -/
  | bracket (outer : ClassUnion) (negated : Bool)
  /-- An operator with its left side. -/
  | operator (op : ClassOperator) (left : ClassNode)

/-- The sets with a name between colons. -/
def posixSet? (name : String) : Option CharSet :=
  match name with
  | "alnum" => some ⟨[(0x30, 0x39), (0x41, 0x5A), (0x61, 0x7A)]⟩
  | "alpha" => some ⟨[(0x41, 0x5A), (0x61, 0x7A)]⟩
  | "ascii" => some ⟨[(0, 0x7F)]⟩
  | "blank" => some ⟨[(0x9, 0x9), (0x20, 0x20)]⟩
  | "cntrl" => some ⟨[(0, 0x1F), (0x7F, 0x7F)]⟩
  | "digit" => some ⟨[(0x30, 0x39)]⟩
  | "graph" => some ⟨[(0x21, 0x7E)]⟩
  | "lower" => some ⟨[(0x61, 0x7A)]⟩
  | "print" => some ⟨[(0x20, 0x7E)]⟩
  | "punct" => some ⟨[(0x21, 0x2F), (0x3A, 0x40), (0x5B, 0x60), (0x7B, 0x7E)]⟩
  | "space" => some ⟨[(0x9, 0xD), (0x20, 0x20)]⟩
  | "upper" => some ⟨[(0x41, 0x5A)]⟩
  | "word" => some ⟨[(0x30, 0x39), (0x41, 0x5A), (0x5F, 0x5F), (0x61, 0x7A)]⟩
  | "xdigit" => some ⟨[(0x30, 0x39), (0x41, 0x46), (0x61, 0x66)]⟩
  | _ => none

/-- Splits a set with a name between colons off the rest of a text: whether it is negated, its
characters and what follows. -/
def splitPosix? (rest : List Char) : Option (Bool × CharSet × List Char) :=
  match rest with
  | '[' :: ':' :: rest =>
    let (negated, rest) := match rest with
      | '^' :: rest => (true, rest)
      | _ => (false, rest)
    match rest.dropWhile (· != ':') with
    | ':' :: ']' :: after =>
      (posixSet? (String.ofList (rest.takeWhile (· != ':')))).map fun set => (negated, set, after)
    | _ => none
  | _ => none

/-- Passes dashes at the start of a class, which stand for themselves. -/
def readDashes : (fuel : Nat) → ClassUnion → Reader ClassUnion
  | 0, items => return items
  | fuel + 1, items => do
    match ← peek? with
    | none => failWith .unclosedClass
    | some '-' => do
      bumpAndSkip
      readDashes fuel (items.push ⟨.single '-', 0⟩)
    | some _ => return items

/-- Reads the start of a class: the bracket, a negation, dashes, and a closing bracket that stands
for itself. -/
def openClass (fuel : Nat) : Reader (Bool × ClassUnion) := do
  bumpAndSkip
  let negated := (← peek?) == some '^'
  if negated then bumpAndSkip
  let items ← readDashes fuel .empty
  match ← peek? with
  | none => failWith .unclosedClass
  | some c =>
    if items.count == 0 && c == ']' then
      bumpAndSkip
      if (← peek?).isNone then failWith .unclosedClass
      return (negated, items.push ⟨.single ']', 0⟩)
    else return (negated, items)

/-- Reads a single character or escape of a class. -/
def readClassPrimitive : Reader Primitive := do
  match ← peek? with
  | none => failWith .unclosedClass
  | some '\\' => readEscape
  | some c => do
    bump
    return .literal c false

/-- A character of a class. Without Unicode it has to be ASCII. -/
def classChar (c : Char) (byte : Bool) : Reader Char := do
  if !(← currentFlags).unicode && c.toNat > 0x7F then
    failWith (if byte then .invalidUtf8 else .unicodeNotAllowed)
  return c

/-- A primitive as an item of a class. -/
def primitiveItem : Primitive → Reader CharSet
  | .literal c byte => do return .single (← classChar c byte)
  | .look _ => failWith .badClassEscape
  | .set set => return set

/-- A primitive as an end of a range. -/
def rangeEnd : Primitive → Reader Char
  | .literal c byte => classChar c byte
  | .look _ | .set _ => failWith .badClassRange

/-- The first character that is no blank; one number sign, which starts a comment, is passed too. -/
def firstVisible? (inComment : Bool) : List Char → Option Char
  | [] => none
  | c :: cs =>
    if Text.isBlank c then firstVisible? inComment cs
    else if !inComment && c == '#' then firstVisible? true cs
    else some c

/-- The character after the next one; in verbose mode past blanks, if something comes after them. -/
def peekSecond? : Reader (Option Char) := do
  let second := (← remaining).drop 1
  if (← currentFlags).verbose then return firstVisible? false second <|> second.head?
  else return second.head?

/-- Reads a character, a set or a range. A dash before the end of the class or before another dash
is no range. -/
def readClassItem : Reader CharSet := do
  let first ← readClassPrimitive
  skipBlanks
  match ← peek? with
  | none => failWith .unclosedClass
  | some '-' => do
    let second ← peekSecond?
    if second == some ']' || second == some '-' then primitiveItem first
    else
      bumpAndSkip
      let last ← readClassPrimitive
      let low ← rangeEnd first
      let high ← rangeEnd last
      if low.toNat ≤ high.toNat then return .range low high else failWith .badClassRange
  | some _ => primitiveItem first

/-- The two sides of an operator with their cases closed, if case is ignored. -/
def applyOperator (op : ClassOperator) (left right : ClassNode) : Reader ClassNode := do
  let flags ← currentFlags
  let close := fun (set : CharSet) =>
    if !flags.ignoreCase then set
    else if flags.unicode then set.foldCase
    else set.foldAsciiCase
  return ⟨op.apply (close left.set) (close right.set), max left.depth right.depth + 1⟩

/-- Joins a finished union with the operator that waits for it, if one does. -/
def closeOperator (right : ClassNode) :
    List ClassFrame → Reader (ClassNode × List ClassFrame)
  | .operator op left :: stack => do return (← applyOperator op left right, stack)
  | stack => return (right, stack)

/-- Reads a class from inside its opening bracket up to its end. -/
def readClassBody : (fuel : Nat) → ClassUnion → List ClassFrame → Reader ClassNode
  | 0, _, _ => failWith .unclosedClass
  | fuel + 1, items, stack => do
    skipBlanks
    let startOperator := fun (op : ClassOperator) => do
      bump
      bump
      let (left, stack) ← closeOperator items.toNode stack
      readClassBody fuel .empty (.operator op left :: stack)
    match ← remaining with
    | [] => failWith .unclosedClass
    | '[' :: _ => do
      match splitPosix? (← remaining) with
      | some (negated, set, after) => do
        setRemaining after
        readClassBody fuel (items.push ⟨← foldAndNegate negated set, 0⟩) stack
      | none => do
        let (negated, inner) ← openClass fuel
        readClassBody fuel inner (.bracket items negated :: stack)
    | ']' :: _ => do
      bump
      let (content, stack) ← closeOperator items.toNode stack
      match stack with
      | .bracket outer negated :: below => do
        let node : ClassNode := ⟨← foldAndNegate negated content.set, content.depth + 1⟩
        if below.isEmpty then return node
        else readClassBody fuel (outer.push node) below
      | _ => failWith .unclosedClass
    | '&' :: '&' :: _ => startOperator .inter
    | '-' :: '-' :: _ => startOperator .diff
    | '~' :: '~' :: _ => startOperator .symmDiff
    | _ => readClassBody fuel (items.push ⟨← readClassItem, 0⟩) stack

/-- Reads a class; the reader stands at its opening bracket. -/
def readClass : Reader ClassNode := do
  let fuel := (← remaining).length + 1
  let (negated, items) ← openClass fuel
  readClassBody fuel items [.bracket .empty negated]

end YangTypes.Regex
