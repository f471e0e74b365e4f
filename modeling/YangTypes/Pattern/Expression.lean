import YangTypes.Pattern.Block

/-!
Patterns in the dialect of schema languages, and ordinary regular expressions for them.

A pattern is matched against a whole value, so a caret or a dollar sign outside of a class is an
ordinary character in it, and an escape such as `\p` with a name that starts with `Is` stands for a
block of code points. `expression` splits a pattern into tokens, writes each of them in the ordinary
dialect, and puts anchors around the result.
-/

namespace YangTypes.Pattern

/-- A part of a pattern that is read as a whole. -/
inductive Token where
  /-- A backslash and the character after it. -/
  | escape (c : Char)
  /-- A backslash at the end of the pattern. -/
  | lone
  /-- An escape that names a block. -/
  | block (negated : Bool) (block : Block)
  | plain (c : Char)
deriving DecidableEq, Repr

/-- The block that is named at the start of a list, after the opening brace, and what follows the
closing one. -/
def blockName? (cs : List Char) : Option (Block × List Char) :=
  match cs.dropWhile (· != '\x7d') with
  | [] => none
  | _ :: rest =>
    match cs.takeWhile (· != '\x7d') with
    | 'I' :: 's' :: name => (block? (String.ofList name)).map fun block => (block, rest)
    | _ => none

/-- The escape of a block at the start of a list, after the backslash, and what follows it. -/
def blockEscape? : List Char → Option (Token × List Char)
  | 'p' :: '\x7b' :: cs => (blockName? cs).map fun (block, rest) => (.block false block, rest)
  | 'P' :: '\x7b' :: cs => (blockName? cs).map fun (block, rest) => (.block true block, rest)
  | _ => none

theorem blockName?_length {cs rest : List Char} {block : Block}
    (h : blockName? cs = some (block, rest)) : rest.length < cs.length := by
  have hle : (cs.dropWhile (· != '\x7d')).length ≤ cs.length :=
    (List.dropWhile_suffix _).length_le
  unfold blockName? at h
  split at h
  · cases h
  · rename_i close tail hdrop
    rw [hdrop, List.length_cons] at hle
    split at h
    · obtain ⟨_, _, heq⟩ := Option.map_eq_some_iff.1 h
      cases heq
      omega
    · cases h

theorem blockEscape?_length {cs rest : List Char} {token : Token}
    (h : blockEscape? cs = some (token, rest)) : rest.length < cs.length := by
  unfold blockEscape? at h
  split at h
  · obtain ⟨⟨block, tail⟩, hname, heq⟩ := Option.map_eq_some_iff.1 h
    cases heq
    have hlt := blockName?_length hname
    simp only [List.length_cons]
    omega
  · obtain ⟨⟨block, tail⟩, hname, heq⟩ := Option.map_eq_some_iff.1 h
    cases heq
    have hlt := blockName?_length hname
    simp only [List.length_cons]
    omega
  · cases h

/-- The tokens of a pattern. -/
def tokens : List Char → List Token
  | [] => []
  | '\\' :: cs =>
    match _h : blockEscape? cs with
    | some (token, rest) => token :: tokens rest
    | none =>
      match cs with
      | [] => [.lone]
      | c :: cs => .escape c :: tokens cs
  | c :: cs => .plain c :: tokens cs
termination_by cs => cs.length
decreasing_by
  · have hlt := blockEscape?_length ‹_›
    simp only [List.length_cons]
    omega
  · simp only [List.length_cons]
    omega
  · simp only [List.length_cons]
    omega

/-- A code point in hexadecimal. -/
def hexCode (n : Nat) : List Char := (Nat.toDigits 16 n).map Char.toUpper

/-- A code point as an escape. -/
def codeEscape (n : Nat) : List Char := '\\' :: 'x' :: '\x7b' :: (hexCode n ++ ['\x7d'])

/-- A token in the ordinary dialect, at a depth of nested classes. -/
def Token.write (depth : Nat) : Token → List Char
  | escape c => ['\\', c]
  | lone => ['\\']
  | block negated b =>
    let range := codeEscape b.low ++ '-' :: codeEscape b.high
    '[' :: ((if negated then ['^'] else []) ++ range ++ [']'])
  | plain c => if depth = 0 ∧ (c = '^' ∨ c = '$') then ['\\', c] else [c]

/-- The depth of nested classes after a token. -/
def Token.depthAfter (depth : Nat) : Token → Nat
  | plain c => if c = '[' then depth + 1 else if c = ']' then depth - 1 else depth
  | _ => depth

/-- Tokens in the ordinary dialect, from a depth of nested classes on. -/
def writeTokens (depth : Nat) : List Token → List Char
  | [] => []
  | token :: rest => token.write depth ++ writeTokens (token.depthAfter depth) rest

/-- A pattern in the ordinary dialect, without anchors. -/
def body (pattern : List Char) : List Char := writeTokens 0 (tokens pattern)

/-- A pattern in the ordinary dialect, as a group between anchors. A closing parenthesis that the
pattern does not open itself ends the group early. -/
def expressionChars (pattern : List Char) : List Char :=
  '^' :: '(' :: '?' :: ':' :: (body pattern ++ [')', '$'])

/-- The text of the ordinary regular expression that a pattern stands for. -/
def expression (pattern : String) : String := String.ofList (expressionChars pattern.toList)

end YangTypes.Pattern
