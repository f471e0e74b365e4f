import YangTypes.Regex.Expr
import YangTypes.Text.Blank
import YangTypes.Text.Literal
import YangTypes.Text.Split
import YangTypes.Unicode.Folding
import YangTypes.Unicode.Query

/-!
What reading an expression is made of: flags, the state of the reader, escapes and literals.

The reader keeps the rest of the text and the flags in force. In verbose mode blanks and comments
between the parts of an expression are skipped. Escapes are read here, because they are the same
inside and outside of bracketed classes; what may stand where is decided by the callers.
-/

namespace YangTypes.Regex

open Unicode (CharSet)

/-- Why a text is not a regular expression. -/
inductive SyntaxError where
  | unclosedGroup
  | unopenedGroup
  | unclosedClass
  | unsupportedLookAround
  | unsupportedBackReference
  | badGroupName
  | badFlag
  | nothingToRepeat
  | badRepetition
  | badEscape
  | badHexadecimal
  | badWordBoundary
  | badClassRange
  | badClassEscape
  | unknownProperty
  | unicodeNotAllowed
  | invalidUtf8
  | nestedTooDeeply
  | tooLarge
deriving DecidableEq, Repr

/-- The wording of an error. -/
def SyntaxError.message : SyntaxError → String
  | unclosedGroup => "unclosed group"
  | unopenedGroup => "unopened group"
  | unclosedClass => "unclosed character class"
  | unsupportedLookAround => "look-around is not supported"
  | unsupportedBackReference => "backreferences are not supported"
  | badGroupName => "invalid capture group name"
  | badFlag => "invalid flags"
  | nothingToRepeat => "repetition operator missing expression"
  | badRepetition => "invalid repetition count"
  | badEscape => "unrecognized escape sequence"
  | badHexadecimal => "invalid hexadecimal character"
  | badWordBoundary => "invalid special word boundary assertion"
  | badClassRange => "invalid character class range"
  | badClassEscape => "invalid escape sequence found in character class"
  | unknownProperty => "Unicode property not found"
  | unicodeNotAllowed => "Unicode not allowed here"
  | invalidUtf8 => "pattern can match invalid UTF-8"
  | nestedTooDeeply => "exceeded the maximum number of nested groups"
  | tooLarge => "compiled expression exceeds size limit"

/-- The flags that change the meaning of an expression. -/
structure Flags where
  ignoreCase : Bool
  multiLine : Bool
  dotAll : Bool
  crlf : Bool
  /-- Whether repetitions are lazy unless they are marked. -/
  swapGreed : Bool
  unicode : Bool
  verbose : Bool
deriving DecidableEq, Repr

/-- The flags in force at the start of an expression. -/
def Flags.initial : Flags := ⟨false, false, false, false, false, true, false⟩

/-- What the reader knows at some point of the text. -/
structure State where
  rest : List Char
  flags : Flags
  /-- How many capturing groups were opened. -/
  groups : Nat
  groupNames : List String

/-- A reader of a part of an expression. -/
abbrev Reader (α : Type) : Type := StateT State (Except SyntaxError) α

/-- Gives up. -/
def failWith {α : Type} (error : SyntaxError) : Reader α := fun _ => .error error

/-- The next character, which stays where it is. -/
def peek? : Reader (Option Char) := do return (← get).rest.head?

/-- The rest of the text. -/
def remaining : Reader (List Char) := do return (← get).rest

/-- Replaces the rest of the text. -/
def setRemaining (rest : List Char) : Reader Unit := modify fun s => { s with rest := rest }

/-- The flags in force. -/
def currentFlags : Reader Flags := do return (← get).flags

/-- Drops blanks, and comments from a number sign to the end of the line. -/
def dropBlanks (inComment : Bool) : List Char → List Char
  | [] => []
  | c :: cs =>
    if inComment then dropBlanks (c != '\n') cs
    else if Text.isBlank c then dropBlanks false cs
    else if c == '#' then dropBlanks true cs
    else c :: cs

/-- Skips blanks and comments in verbose mode. -/
def skipBlanks : Reader Unit := do
  if (← currentFlags).verbose then setRemaining (dropBlanks false (← remaining))

/-- Passes one character. -/
def bump : Reader Unit := do setRemaining ((← remaining).drop 1)

/-- Passes one character and what can be skipped after it. -/
def bumpAndSkip : Reader Unit := do
  bump
  skipBlanks

/-- Passes a given text, if it comes next. -/
def accept (text : String) : Reader Bool := do
  let rest ← remaining
  if text.toList.isPrefixOf rest then
    setRemaining (rest.drop text.length)
    return true
  else return false

/-- Passes the characters that satisfy a test, skipping blanks in verbose mode, and collects
them. -/
def collectWhile (test : Char → Bool) : (fuel : Nat) → Reader (List Char)
  | 0 => return []
  | fuel + 1 => do
    match ← peek? with
    | some c =>
      if test c then
        bumpAndSkip
        return c :: (← collectWhile test fuel)
      else return []
    | none => return []

/-! ### Parts of an expression -/

/-- The sets that a letter after a backslash stands for. -/
inductive ShorthandKind where
  | digit
  | space
  | word
deriving DecidableEq, Repr

/-- What a single character or an escape stands for. -/
inductive Primitive where
  /-- A character; `byte` if it was written with two hexadecimal digits. -/
  | literal (c : Char) (byte : Bool)
  | look (look : Look)
  | set (set : CharSet)

/-- The characters of a shorthand set in ASCII. -/
def ShorthandKind.asciiSet : ShorthandKind → CharSet
  | digit => ⟨[(0x30, 0x39)]⟩
  | space => ⟨[(0x9, 0xD), (0x20, 0x20)]⟩
  | word => ⟨[(0x30, 0x39), (0x41, 0x5A), (0x5F, 0x5F), (0x61, 0x7A)]⟩

/-- The characters of a shorthand set. -/
def ShorthandKind.unicodeSet : ShorthandKind → CharSet
  | digit => Unicode.decimalDigit
  | space => Unicode.whiteSpace
  | word => Unicode.word

/-- Accepts a set of bytes only if they are characters of their own. -/
def asciiOnly (set : CharSet) : Reader CharSet :=
  if set.isAscii then return set else failWith .invalidUtf8

/-- A set with its differences in case closed if case is ignored, and negated if asked for. -/
def foldAndNegate (negated : Bool) (set : CharSet) : Reader CharSet := do
  let flags ← currentFlags
  if flags.unicode then
    let set := if flags.ignoreCase then set.foldCase else set
    return if negated then set.complement else set
  else
    let set := if flags.ignoreCase then set.foldAsciiCase else set
    asciiOnly (if negated then set.complementUpTo 0xFF else set)

/-- The set of a shorthand. -/
def shorthandSet (kind : ShorthandKind) (negated : Bool) : Reader CharSet := do
  if (← currentFlags).unicode then
    let set := kind.unicodeSet
    return if negated then set.complement else set
  else
    let set := kind.asciiSet
    asciiOnly (if negated then set.complementUpTo 0xFF else set)

/-- The set of a property in braces, and whether its complement is meant: a name, or a name and a
value. -/
def propertySet? (content : List Char) : Option (Bool × CharSet) :=
  match Text.splitAtFirst? ['!', '='] content with
  | some (name, value) => (Unicode.valued? name value).map (true, ·)
  | none =>
    match Text.splitAtFirst? [':'] content with
    | some (name, value) => (Unicode.valued? name value).map (false, ·)
    | none =>
      match Text.splitAtFirst? ['='] content with
      | some (name, value) => (Unicode.valued? name value).map (false, ·)
      | none => (Unicode.named? content).map (false, ·)

/-- Reads a property after its letter. -/
def readProperty (negated : Bool) : Reader CharSet := do
  bumpAndSkip
  let content ← match ← peek? with
    | none => failWith .badEscape
    | some '\x7b' => do
      bumpAndSkip
      let content ← collectWhile (· != '\x7d') (← remaining).length
      if (← peek?).isNone then failWith .badEscape
      bump
      pure (propertySet? content)
    | some '\\' => failWith .unknownProperty
    | some c => do
      bumpAndSkip
      pure ((Unicode.named? [c]).map (false, ·))
  if !(← currentFlags).unicode then failWith .unicodeNotAllowed
  match content with
  | none => failWith .unknownProperty
  | some (opposite, set) => foldAndNegate (negated != opposite) set

/-- Whether a character is a hexadecimal digit. -/
def isHex (c : Char) : Bool := (Text.digitValue? 16 c).isSome

/-- The character of hexadecimal digits. -/
def hexChar (digits : List Char) : Reader Char :=
  match Text.digitsValue? 16 digits with
  | some n => if n.isValidChar then return Char.ofNat n else failWith .badHexadecimal
  | none => failWith .badHexadecimal

/-- Reads a number of hexadecimal digits. -/
def readHexDigits : (count : Nat) → Reader (List Char)
  | 0 => return []
  | count + 1 => do
    match ← peek? with
    | none => failWith .badHexadecimal
    | some c =>
      if isHex c then
        bumpAndSkip
        return c :: (← readHexDigits count)
      else failWith .badHexadecimal

/-- Reads a character by its code, after the letter that says how many digits it has. -/
def readHex (digits : Nat) : Reader Primitive := do
  bumpAndSkip
  match ← peek? with
  | some '\x7b' => do
    bumpAndSkip
    let content ← collectWhile isHex (← remaining).length
    if (← peek?) != some '\x7d' then failWith .badHexadecimal
    bumpAndSkip
    return .literal (← hexChar content) false
  | _ => return .literal (← hexChar (← readHexDigits digits)) (digits == 2)

/-- Whether a character means something else than itself in an expression. -/
def isMeta (c : Char) : Bool :=
  ['\\', '.', '+', '*', '?', '(', ')', '|', '[', ']', '\x7b', '\x7d', '^', '$', '#', '&', '-',
    '~'].contains c

/-- Whether a character stands for itself after a backslash: ASCII characters other than letters,
digits and angle brackets. -/
def isEscapable (c : Char) : Bool :=
  isMeta c || (c.toNat ≤ 0x7F && !c.isAlphanum && c != '<' && c != '>')

/-- The edge that a word boundary asks for; a name may follow it in braces. -/
def readWordEdge : Reader WordEdge := do
  let start ← remaining
  if start.head? != some '\x7b' then return .boundary
  bumpAndSkip
  let nameChar := fun (c : Char) => c.isAlpha || c == '-'
  match ← peek? with
  | none => failWith .badWordBoundary
  | some c =>
    if nameChar c then
      let name ← collectWhile nameChar (← remaining).length
      if (← peek?) != some '\x7d' then failWith .badWordBoundary
      bump
      match String.ofList name with
      | "start" => return .wordStart
      | "end" => return .wordEnd
      | "start-half" => return .startHalf
      | "end-half" => return .endHalf
      | _ => failWith .badWordBoundary
    else
      -- a repetition of the boundary
      setRemaining start
      return .boundary

/-- Reads an escape; the reader stands at the backslash. -/
def readEscape : Reader Primitive := do
  bump
  match ← peek? with
  | none => failWith .badEscape
  | some c =>
    if c.isDigit then failWith .unsupportedBackReference
    else if c == 'x' then readHex 2
    else if c == 'u' then readHex 4
    else if c == 'U' then readHex 8
    else if c == 'p' || c == 'P' then return .set (← readProperty (c == 'P'))
    else
      bump
      let ascii := !(← currentFlags).unicode
      if isEscapable c then return .literal c false
      match c with
      | 'd' => return .set (← shorthandSet .digit false)
      | 'D' => return .set (← shorthandSet .digit true)
      | 's' => return .set (← shorthandSet .space false)
      | 'S' => return .set (← shorthandSet .space true)
      | 'w' => return .set (← shorthandSet .word false)
      | 'W' => return .set (← shorthandSet .word true)
      | 'a' => return .literal '\x07' false
      | 'f' => return .literal '\x0c' false
      | 't' => return .literal '\t' false
      | 'n' => return .literal '\n' false
      | 'r' => return .literal '\r' false
      | 'v' => return .literal '\x0b' false
      | 'A' => return .look .textStart
      | 'z' => return .look .textEnd
      | 'b' => return .look (.word ascii (← readWordEdge))
      | 'B' => return .look (.word ascii .notBoundary)
      | '<' => return .look (.word ascii .wordStart)
      | '>' => return .look (.word ascii .wordEnd)
      | _ => failWith .badEscape

/-- The set of a single character: its other cases too, if case is ignored. Without Unicode a
character written as a byte has to be ASCII. -/
def literalSet (c : Char) (byte : Bool) : Reader CharSet := do
  let flags ← currentFlags
  if !flags.unicode && byte && c.toNat > 0x7F then failWith .invalidUtf8
  let set := CharSet.single c
  if !flags.ignoreCase then return set
  return if flags.unicode then set.foldCase else set.foldAsciiCase

end YangTypes.Regex
