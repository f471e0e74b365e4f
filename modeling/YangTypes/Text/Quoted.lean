import YangTypes.Unicode.Recent

/-!
Texts in quotes, with escapes for what cannot be seen.
-/

namespace YangTypes.Text

/-- The characters that are not shown as they are: those that join the one before them, and those
without a shape. The two marks that are as wide as a letter are shown. -/
def hidden : Unicode.CharSet :=
  .diff
    (.unions [.diff Unicode.Recent.graphemeExtend (.listed "FF9E-FF9F"),
      Unicode.Recent.unassigned, Unicode.defaultIgnorable,
      Unicode.categories ["cc", "cf", "co", "zl", "zp", "zs"]])
    (.single ' ')

/-- A character inside quotes. -/
def quotedChar (c : Char) : List Char :=
  match c with
  | '"' => ['\\', '"']
  | '\\' => ['\\', '\\']
  | '\t' => ['\\', 't']
  | '\n' => ['\\', 'n']
  | '\r' => ['\\', 'r']
  | '\x00' => ['\\', '0']
  | c =>
    if hidden.contains c then
      '\\' :: 'u' :: '\x7b' :: (Nat.toDigits 16 c.toNat ++ ['\x7d'])
    else [c]

/-- A character in single quotes. -/
def singleQuoted (c : Char) : String :=
  let inner := if c = '\'' then ['\\', '\''] else if c = '"' then ['"'] else quotedChar c
  "'" ++ String.ofList inner ++ "'"

/-- A text in double quotes. -/
def quoted (text : String) : String :=
  "\"" ++ String.ofList (text.toList.flatMap quotedChar) ++ "\""

end YangTypes.Text
