import YangTypes.Json.Tree

/-!
Reading JSON texts.

The text is one value with white space around it. Each reader takes the rest of the text and returns
what is left of it. The fuel of `readValue` bounds the number of values and brackets that are still
open or to come; every one of them takes a character, so the length of the text is enough.
-/

namespace YangTypes.Json

/-- Why a text is not JSON, or not the value that was asked for. -/
inductive ReadError where
  | unexpectedEnd
  | unexpectedCharacter (c : Char)
  | controlCharacter
  | invalidEscape
  | invalidNumber
  | trailingCharacters
  | unreadableValue
  | wrongType
  | invalidValue (text : String)
  | unknownField (name : String)
  | repeatedField (name : String)
  | missingField (name : String)
  | extraItems
deriving DecidableEq, Repr

/-- The wording of an error. -/
def ReadError.message : ReadError → String
  | unexpectedEnd => "unexpected end of text"
  | unexpectedCharacter c => "unexpected character '" ++ c.toString ++ "'"
  | controlCharacter => "control character in a string"
  | invalidEscape => "invalid escape"
  | invalidNumber => "invalid number"
  | trailingCharacters => "trailing characters"
  | unreadableValue => "a string or number without a value, or too many brackets"
  | wrongType => "value of another type"
  | invalidValue text => "invalid value '" ++ text ++ "'"
  | unknownField name => "unknown field '" ++ name ++ "'"
  | repeatedField name => "repeated field '" ++ name ++ "'"
  | missingField name => "missing field '" ++ name ++ "'"
  | extraItems => "too many items"

/-- The white space between tokens. -/
def isSpace (c : Char) : Bool := c == ' ' || c == '\t' || c == '\n' || c == '\r'

/-- Drops white space. -/
def skipSpace (cs : List Char) : List Char := cs.dropWhile isSpace

/-! ### Strings -/

/-- A character of a string, or a unit of 16 bits that is written as an escape. -/
inductive Piece where
  | char (c : Char)
  | unit (n : Nat)

/-- The value of four hexadecimal digits. -/
def hexUnit? (a b c d : Char) : Option Nat := Text.digitsValue? 16 [a, b, c, d]

/-- The character of an escape with one letter. -/
def simpleEscape? : Char → Option Char
  | '"' => some '"'
  | '\\' => some '\\'
  | '/' => some '/'
  | 'b' => some '\x08'
  | 'f' => some '\x0c'
  | 'n' => some '\n'
  | 'r' => some '\r'
  | 't' => some '\t'
  | _ => none

/-- Reads the rest of a string after its opening quote. -/
def readPieces : List Char → Except ReadError (List Piece × List Char)
  | [] => .error .unexpectedEnd
  | '"' :: rest => .ok ([], rest)
  | '\\' :: 'u' :: a :: b :: c :: d :: rest =>
    match hexUnit? a b c d with
    | none => .error .invalidEscape
    | some n => do
      let (pieces, rest) ← readPieces rest
      return (.unit n :: pieces, rest)
  | '\\' :: e :: rest =>
    match simpleEscape? e with
    | none => .error .invalidEscape
    | some c => do
      let (pieces, rest) ← readPieces rest
      return (.char c :: pieces, rest)
  | c :: rest =>
    if c.toNat < 0x20 then .error .controlCharacter
    else if c = '\\' then .error .invalidEscape
    else do
      let (pieces, rest) ← readPieces rest
      return (.char c :: pieces, rest)

/-- Whether a unit is the first half of a pair. -/
def isHighHalf (n : Nat) : Bool := 0xD800 ≤ n && n ≤ 0xDBFF

/-- Whether a unit is the second half of a pair. -/
def isLowHalf (n : Nat) : Bool := 0xDC00 ≤ n && n ≤ 0xDFFF

/-- The characters of a string; there are none if one half of a pair stands alone. -/
def joinPieces : List Piece → Option (List Char)
  | [] => some []
  | .char c :: rest => (joinPieces rest).map fun cs => c :: cs
  | .unit n :: rest =>
    if isLowHalf n then none
    else if isHighHalf n then
      match rest with
      | .unit m :: rest =>
        if isLowHalf m then
          (joinPieces rest).map fun cs =>
            Char.ofNat (0x10000 + (n - 0xD800) * 0x400 + (m - 0xDC00)) :: cs
        else none
      | _ => none
    else (joinPieces rest).map fun cs => Char.ofNat n :: cs

/-- Reads a string after its opening quote. -/
def readString (cs : List Char) : Except ReadError (Option String × List Char) := do
  let (pieces, rest) ← readPieces cs
  return ((joinPieces pieces).map String.ofList, rest)

/-! ### Numbers -/

/-- Reads digits; there is at least one. -/
def readDigits (cs : List Char) : Except ReadError (List Char × List Char) :=
  let digits := cs.takeWhile Char.isDigit
  if digits.isEmpty then .error .invalidNumber else .ok (digits, cs.dropWhile Char.isDigit)

/-- Reads the digits before the point; a zero stands alone. -/
def readWhole (cs : List Char) : Except ReadError (List Char × List Char) := do
  let (digits, rest) ← readDigits cs
  if digits.head? = some '0' ∧ digits.length ≠ 1 then throw .invalidNumber
  return (digits, rest)

/-- Reads the digits after the point, if there is one. -/
def readFraction : List Char → Except ReadError (Option (List Char) × List Char)
  | '.' :: cs => do
    let (digits, rest) ← readDigits cs
    return (some digits, rest)
  | cs => .ok (none, cs)

/-- Reads the exponent, after its letter. -/
def readExponentDigits (sign : Int) (cs : List Char) :
    Except ReadError (Option Int × List Char) := do
  let (digits, rest) ← readDigits cs
  return (some (sign * ((Text.digitsValue? 10 digits).getD 0 : Nat)), rest)

/-- Reads the exponent, if there is one. -/
def readExponent : List Char → Except ReadError (Option Int × List Char)
  | c :: cs =>
    if c = 'e' ∨ c = 'E' then
      match cs with
      | '-' :: cs => readExponentDigits (-1) cs
      | '+' :: cs => readExponentDigits 1 cs
      | cs => readExponentDigits 1 cs
    else .ok (none, c :: cs)
  | [] => .ok (none, [])

/-- Reads a number, after its sign. -/
def readNumber (negative : Bool) (cs : List Char) : Except ReadError (Numeral × List Char) := do
  let (whole, cs) ← readWhole cs
  let (fraction, cs) ← readFraction cs
  let (exponent, cs) ← readExponent cs
  return (⟨negative, whole, fraction, exponent⟩, cs)

/-! ### Values -/

/-- Reads a word. -/
def readWord (word : List Char) (value : Tree) (cs : List Char) :
    Except ReadError (Tree × List Char) :=
  if word.isPrefixOf cs then .ok (value, cs.drop word.length)
  else match cs with
    | [] => .error .unexpectedEnd
    | c :: _ => .error (.unexpectedCharacter c)

/-- Reads one character, after white space. -/
def readSign (sign : Char) (cs : List Char) : Except ReadError (List Char) :=
  match skipSpace cs with
  | [] => .error .unexpectedEnd
  | c :: rest => if c = sign then .ok rest else .error (.unexpectedCharacter c)

/-- Reads the name of a field and the colon after it. -/
def readFieldName (cs : List Char) : Except ReadError (Option String × List Char) := do
  let cs ← readSign '"' cs
  let (name, cs) ← readString cs
  return (name, ← readSign ':' cs)

mutual

/-- Reads a value, with white space before it. -/
def readValue (fuel : Nat) (cs : List Char) : Except ReadError (Tree × List Char) :=
  match fuel with
  | 0 => .error .unexpectedEnd
  | fuel + 1 =>
    match skipSpace cs with
    | [] => .error .unexpectedEnd
    | '"' :: cs => do
      let (s, cs) ← readString cs
      return (.string s, cs)
    | '[' :: cs =>
      match skipSpace cs with
      | ']' :: cs => .ok (.array [], cs)
      | cs => do
        let (items, cs) ← readItems fuel cs
        return (.array items, cs)
    | '\x7b' :: cs =>
      match skipSpace cs with
      | '\x7d' :: cs => .ok (.object [], cs)
      | cs => do
        let (fields, cs) ← readFields fuel cs
        return (.object fields, cs)
    | '-' :: cs => do
      let (n, cs) ← readNumber true cs
      return (.number n, cs)
    | c :: cs =>
      if c.isDigit then do
        let (n, cs) ← readNumber false (c :: cs)
        return (.number n, cs)
      else if c = 't' then readWord "true".toList (.bool true) (c :: cs)
      else if c = 'f' then readWord "false".toList (.bool false) (c :: cs)
      else readWord "null".toList .null (c :: cs)

/-- Reads the items of a list, up to its end; there is at least one. -/
def readItems (fuel : Nat) (cs : List Char) : Except ReadError (List Tree × List Char) :=
  match fuel with
  | 0 => .error .unexpectedEnd
  | fuel + 1 => do
    let (item, cs) ← readValue fuel cs
    match skipSpace cs with
    | ',' :: cs =>
      let (items, cs) ← readItems fuel cs
      return (item :: items, cs)
    | ']' :: cs => return ([item], cs)
    | c :: _ => throw (.unexpectedCharacter c)
    | [] => throw .unexpectedEnd

/-- Reads the fields of an object, up to its end; there is at least one. -/
def readFields (fuel : Nat) (cs : List Char) :
    Except ReadError (List (Option String × Tree) × List Char) :=
  match fuel with
  | 0 => .error .unexpectedEnd
  | fuel + 1 => do
    let (name, cs) ← readFieldName cs
    let (value, cs) ← readValue fuel cs
    match skipSpace cs with
    | ',' :: cs =>
      let (fields, cs) ← readFields fuel cs
      return ((name, value) :: fields, cs)
    | '\x7d' :: cs => return ([(name, value)], cs)
    | c :: _ => throw (.unexpectedCharacter c)
    | [] => throw .unexpectedEnd

end

/-- Reads a text. -/
def Tree.parse (text : String) : Except ReadError Tree := do
  let cs := text.toList
  let (tree, rest) ← readValue (cs.length + 1) cs
  if (skipSpace rest).isEmpty then return tree else throw .trailingCharacters

end YangTypes.Json
