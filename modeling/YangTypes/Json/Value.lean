/-!
JSON values for output, and their text.

`Value.pretty` writes a value with one field or item a line, two spaces a level, and the fields of
an object sorted by name.
-/

namespace YangTypes.Json

/-- A JSON value; its numbers are integers. -/
inductive Value where
  | bool (b : Bool)
  | integer (n : Int)
  | string (s : String)
  | array (items : List Value)
  | object (fields : List (String × Value))

namespace Value

/-- A field, if there is something to write. -/
def optional (name : String) (value : Option Value) : List (String × Value) :=
  value.toList.map fun v => (name, v)

/-- A field that is a text, if there is one. -/
def optionalString (name : String) (value : Option String) : List (String × Value) :=
  optional name (value.map string)

/-- A field that is a list, unless it is empty. -/
def nonempty (name : String) (items : List Value) : List (String × Value) :=
  if items.isEmpty then [] else [(name, array items)]

end Value

/-- A hexadecimal digit. -/
def hexDigit (n : Nat) : Char := (Nat.digitChar n)

/-- A character of a string. -/
def escapeChar (c : Char) : List Char :=
  match c with
  | '"' => ['\\', '"']
  | '\\' => ['\\', '\\']
  | '\x08' => ['\\', 'b']
  | '\x0c' => ['\\', 'f']
  | '\n' => ['\\', 'n']
  | '\r' => ['\\', 'r']
  | '\t' => ['\\', 't']
  | c =>
    if c.toNat < 0x20 then
      ['\\', 'u', '0', '0', hexDigit (c.toNat / 16), hexDigit (c.toNat % 16)]
    else [c]

/-- The text of a string. -/
def quote (s : String) : String := "\"" ++ String.ofList (s.toList.flatMap escapeChar) ++ "\""

/-- The start of a line, with two spaces a level. -/
def newline (level : Nat) : String := "\n" ++ String.ofList (List.replicate (2 * level) ' ')

/-- Puts a field into its place among sorted fields. -/
def insertField (field : String × String) : List (String × String) → List (String × String)
  | [] => [field]
  | other :: rest =>
    if field.1 < other.1 then field :: other :: rest else other :: insertField field rest

/-- Sorts fields by name. -/
def sortFields (fields : List (String × String)) : List (String × String) :=
  fields.foldl (fun sorted field => insertField field sorted) []

/-- Lays out the parts of a list or an object between brackets. -/
def layout (level : Nat) (opening closing : String) (parts : List String) : String :=
  if parts.isEmpty then opening ++ closing
  else
    opening ++ newline (level + 1) ++ ("," ++ newline (level + 1)).intercalate parts ++
      newline level ++ closing

mutual

/-- The text of a value that starts on a level. -/
def Value.render (level : Nat) : Value → String
  | .bool b => if b then "true" else "false"
  | .integer n => toString n
  | .string s => quote s
  | .array items => layout level "[" "]" (renderItems (level + 1) items)
  | .object fields =>
    let sorted := sortFields (renderFields (level + 1) fields)
    layout level "\x7b" "\x7d" (sorted.map fun (name, text) => quote name ++ ": " ++ text)

/-- The texts of items. -/
def renderItems (level : Nat) : List Value → List String
  | [] => []
  | item :: items => item.render level :: renderItems level items

/-- The texts of fields, by name. -/
def renderFields (level : Nat) : List (String × Value) → List (String × String)
  | [] => []
  | (name, value) :: fields => (name, value.render level) :: renderFields level fields

end

/-- The text of a value over several lines. -/
def Value.pretty (value : Value) : String := value.render 0

end YangTypes.Json
