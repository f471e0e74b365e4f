import YangTypes.Regex.Automaton
import YangTypes.Regex.ClassReader
import YangTypes.Unicode.Recent

/-!
Reading a regular expression.

The reader goes over the text once. Groups that are still open stand on a stack, each with its
finished alternatives and the items of the current one. Flags hold to the end of the group in which
they are set. Two limits apply: on the depth to which an expression is nested, and on the size of
the automaton that it describes.
-/

namespace YangTypes.Regex

open Unicode (CharSet)

/-- An expression with the depth of its nesting. -/
structure Node where
  expr : Expr
  depth : Nat

/-- The greatest depth of nesting. -/
def maxDepth : Nat := 250

namespace Node

/-- A set of characters; without Unicode it is a set of bytes. -/
def chars (flags : Flags) (set : CharSet) (depth : Nat) : Node :=
  ⟨.ofSet (!flags.unicode) set, depth⟩

/-- An assertion. -/
def look (l : Look) : Node := ⟨.look l, 0⟩

/-- The greatest depth in a list. -/
def deepest (nodes : List Node) : Nat := nodes.foldl (fun d n => max d n.depth) 0

/-- One expression after the other; `count` says how many parts were written. -/
def sequence (count : Nat) (nodes : List Node) : Node :=
  ⟨.sequence (nodes.map Node.expr), if count ≤ 1 then deepest nodes else deepest nodes + 1⟩

/-- One of several expressions. -/
def alternatives (nodes : List Node) : Node :=
  match nodes with
  | [node] => node
  | _ => ⟨.choice (nodes.map Node.expr), deepest nodes + 1⟩

/-- A repeated expression. -/
def repeated (least : Nat) (most : Option Nat) (greedy : Bool) (body : Node) : Node :=
  ⟨.repeated least most greedy body.expr, body.depth + 1⟩

/-- A group; a capturing one has a number. -/
def group (index : Option Nat) (body : Node) : Node :=
  match index with
  | none => ⟨body.expr, body.depth + 1⟩
  | some index => ⟨.capture index body.expr, body.depth + 1⟩

end Node

/-- An item of a sequence: an expression, or flags that were set. -/
inductive Item where
  | node (node : Node)
  | flags

/-- A group that is still open. Alternatives and items are listed latest first. -/
structure Level where
  alternatives : List Node
  items : List Item
  /-- The flags in force before the group, which are restored at its end. -/
  outerFlags : Flags
  /-- The number of the group, if it captures. -/
  index : Option Nat

namespace Level

/-- A group that was just opened. -/
def start (outerFlags : Flags) (index : Option Nat) : Level := ⟨[], [], outerFlags, index⟩

/-- Adds an item. -/
def push (l : Level) (item : Item) : Level := { l with items := item :: l.items }

/-- The sequence of the current items. -/
def current (l : Level) : Node :=
  .sequence l.items.length (l.items.reverse.filterMap fun
    | .node n => some n
    | .flags => none)

/-- Ends the current alternative. -/
def nextAlternative (l : Level) : Level :=
  { l with alternatives := l.current :: l.alternatives, items := [] }

/-- The expression inside the group. -/
def finish (l : Level) : Node :=
  .alternatives (l.current :: l.alternatives).reverse

end Level

/-! ### Groups and flags -/

/-- The letters of flags. -/
def flagLetters : List Char := ['i', 'm', 's', 'U', 'u', 'R', 'x']

/-- Sets or clears the flag of a letter. -/
def Flags.set (f : Flags) (letter : Char) (value : Bool) : Flags :=
  match letter with
  | 'i' => { f with ignoreCase := value }
  | 'm' => { f with multiLine := value }
  | 's' => { f with dotAll := value }
  | 'R' => { f with crlf := value }
  | 'U' => { f with swapGreed := value }
  | 'u' => { f with unicode := value }
  | 'x' => { f with verbose := value }
  | _ => f

/-- Reads flags up to the character that ends them. No letter and no negation may come twice, and
a negation needs a letter after it. -/
def readFlags : (fuel : Nat) → (seen : List Char) → Flags → Reader (List Char × Flags)
  | 0, _, _ => failWith .badFlag
  | fuel + 1, seen, flags => do
    match ← peek? with
    | none => failWith .badFlag
    | some c =>
      if c == ':' || c == ')' then
        if seen.head? == some '-' then failWith .badFlag else return (seen, flags)
      else if seen.contains c then failWith .badFlag
      else if c == '-' then
        bump
        readFlags fuel (c :: seen) flags
      else if flagLetters.contains c then
        bump
        readFlags fuel (c :: seen) (flags.set c (!seen.contains '-'))
      else failWith .badFlag

/-- Whether a character can be part of a group name. -/
def isNameChar (first : Bool) (c : Char) : Bool :=
  c == '_' || Unicode.Recent.alphabetic.contains c ||
    (!first && (c == '.' || c == '[' || c == ']' || Unicode.Recent.numeric.contains c))

/-- Reads the name of a group up to the angle bracket after it. A name may not come twice. -/
def readGroupName : Reader Unit := do
  let rest ← remaining
  let name := rest.takeWhile (· != '>')
  let valid := match name with
    | [] => false
    | c :: cs => isNameChar true c && cs.all (isNameChar false)
  if !valid || name.length == rest.length then failWith .badGroupName
  let text := String.ofList name
  let state ← get
  if state.groupNames.contains text then failWith .badGroupName
  set { state with rest := rest.drop (name.length + 1), groupNames := text :: state.groupNames }

/-- The beginning of a group. -/
inductive GroupStart where
  /-- Flags for the rest of the enclosing group. -/
  | flags (flags : Flags)
  /-- A group with the flags inside it. -/
  | opened (flags : Flags) (index : Option Nat)

/-- The number of the next capturing group. -/
def nextGroup : Reader Nat := do
  let index := (← get).groups + 1
  modify fun s => { s with groups := index }
  return index

/-- Reads the beginning of a group; the reader stands at its parenthesis. -/
def readGroupStart : Reader GroupStart := do
  bumpAndSkip
  let flags ← currentFlags
  for lookAround in ["?=", "?!", "?<=", "?<!"] do
    if ← accept lookAround then failWith .unsupportedLookAround
  let named ← do
    if ← accept "?P<" then pure true else accept "?<"
  if named then
    readGroupName
    return .opened flags (some (← nextGroup))
  else if ← accept "?" then
    if (← peek?).isNone then failWith .unclosedGroup
    let (seen, inner) ← readFlags ((← remaining).length + 1) [] flags
    let closes := (← peek?) == some ')'
    bump
    if !closes then return .opened inner none
    else if seen.isEmpty then failWith .nothingToRepeat
    else return .flags inner
  else return .opened flags (some (← nextGroup))

/-! ### Repetitions -/

/-- Takes the item that is to be repeated. -/
def popRepeatable (level : Level) : Reader (Node × Level) :=
  match level.items with
  | .node node :: items => return (node, { level with items := items })
  | _ => failWith .nothingToRepeat

/-- Reads a number of a repetition; blanks around it do not count. -/
def readCount : Reader (Option Nat) := do
  setRemaining ((← remaining).dropWhile Text.isBlank)
  let digits ← collectWhile Char.isDigit (← remaining).length
  setRemaining ((← remaining).dropWhile Text.isBlank)
  skipBlanks
  if digits.isEmpty then return none
  match Text.digitsValue? 10 digits with
  | some n => if n < 4294967296 then return some n else failWith .badRepetition
  | none => failWith .badRepetition

/-- Reads the number of a repetition, which has to be there. -/
def readRequiredCount : Reader Nat := do
  match ← readCount with
  | some n => return n
  | none => failWith .badRepetition

/-- Passes the mark of a lazy repetition, and says whether the repetition is greedy. -/
def readGreed : Reader Bool := do
  let marked := (← peek?) == some '?'
  if marked then bump
  return marked == (← currentFlags).swapGreed

/-- Reads a repetition in braces. -/
def readCounted : Reader (Nat × Option Nat × Bool) := do
  bumpAndSkip
  let least ← readRequiredCount
  let most ← match ← peek? with
    | some ',' => do
      bumpAndSkip
      match ← peek? with
      | some '\x7d' => pure none
      | _ => do pure (some (← readRequiredCount))
    | _ => pure (some least)
  if (← peek?) != some '\x7d' then failWith .badRepetition
  bumpAndSkip
  let greedy ← readGreed
  if most.any (· < least) then failWith .badRepetition
  return (least, most, greedy)

/-! ### Expressions -/

/-- The expression of a dot. -/
def dotNode : Reader Node := do
  let flags ← currentFlags
  if !flags.unicode then failWith .invalidUtf8
  let excluded : CharSet :=
    if flags.dotAll then .empty
    else if flags.crlf then ⟨[(0xA, 0xA), (0xD, 0xD)]⟩
    else ⟨[(0xA, 0xA)]⟩
  return .chars flags excluded.complement 0

/-- The expression of a primitive. -/
def primitiveNode : Primitive → Reader Node
  | .literal c byte => do return .chars (← currentFlags) (← literalSet c byte) 0
  | .look l => return .look l
  | .set set => do return .chars (← currentFlags) set 0

/-- Reads the expression of one character, escape or class. -/
def readAtom (c : Char) : Reader Node := do
  let flags ← currentFlags
  match c with
  | '[' => do
    let content ← readClass
    return .chars flags content.set content.depth
  | '\\' => do primitiveNode (← readEscape)
  | '.' => do
    bump
    dotNode
  | '^' => do
    bump
    return .look (if flags.multiLine then .lineStart flags.crlf else .textStart)
  | '$' => do
    bump
    return .look (if flags.multiLine then .lineEnd flags.crlf else .textEnd)
  | c => do
    bump
    primitiveNode (.literal c false)

/-- Repeats the last item, as the sign at the start of the rest says. -/
def repeatLast (level : Level) (least : Nat) (most : Option Nat) : Reader Level := do
  let (node, level) ← popRepeatable level
  bump
  let greedy ← readGreed
  return level.push (.node (.repeated least most greedy node))

/-- Reads an expression up to the end of the text, inside the groups that are open. -/
def readExpr : (fuel : Nat) → Level → List Level → Reader Node
  | 0, _, _ => failWith .unclosedGroup
  | fuel + 1, level, outer => do
    skipBlanks
    match ← peek? with
    | none => if outer.isEmpty then return level.finish else failWith .unclosedGroup
    | some '(' => do
      let before ← currentFlags
      match ← readGroupStart with
      | .flags flags =>
        modify fun s => { s with flags := flags }
        readExpr fuel (level.push .flags) outer
      | .opened flags index =>
        modify fun s => { s with flags := flags }
        readExpr fuel (.start before index) (level :: outer)
    | some ')' => do
      bump
      match outer with
      | [] => failWith .unopenedGroup
      | parent :: outer =>
        modify fun s => { s with flags := level.outerFlags }
        readExpr fuel (parent.push (.node (.group level.index level.finish))) outer
    | some '|' => do
      bump
      readExpr fuel level.nextAlternative outer
    | some '?' => do readExpr fuel (← repeatLast level 0 (some 1)) outer
    | some '*' => do readExpr fuel (← repeatLast level 0 none) outer
    | some '+' => do readExpr fuel (← repeatLast level 1 none) outer
    | some '\x7b' => do
      let (node, level) ← popRepeatable level
      let (least, most, greedy) ← readCounted
      readExpr fuel (level.push (.node (.repeated least most greedy node))) outer
    | some c => do
      let node ← readAtom c
      readExpr fuel (level.push (.node node)) outer

/-- Reads a text as a regular expression. -/
def parse (text : String) : Except SyntaxError Expr := do
  let state : State := ⟨text.toList, .initial, 0, []⟩
  let (node, _) ← (readExpr (text.length + 1) (.start .initial none) []).run state
  if maxDepth < node.depth then .error .nestedTooDeeply
  else if !node.expr.isWithinLimit then .error .tooLarge
  else .ok node.expr

end YangTypes.Regex
