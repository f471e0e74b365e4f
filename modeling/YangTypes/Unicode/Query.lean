import YangTypes.Unicode.Segmentation

/-!
Characters by the names of properties.

`named?` finds the characters of a binary property, a general category or a script, in this order;
`valued?` those for which a property has a value. Names are compared loosely: case, spaces, dashes
and underscores do not count, and neither does a leading "is".
-/

namespace YangTypes.Unicode

/-- A property name for comparison: lower case, without separators, without a leading "is" and
without what is not ASCII. The abbreviation "isc" stands for itself. -/
def looseName (name : List Char) : String :=
  let (isWord, rest) := match name with
    | i :: s :: rest => if (i == 'i' || i == 'I') && (s == 's' || s == 'S') then (true, rest)
      else (false, name)
    | _ => (false, name)
  let kept := rest.filter fun c => c.toNat ≤ 0x7F && c != ' ' && c != '_' && c != '-'
  let lower := kept.map Char.toLower
  if isWord && lower == ['c'] then "isc" else String.ofList lower

/-- The characters of a derived property, by its loose name. -/
def derived? (name : String) : Option CharSet :=
  match name with
  | "lowercase" | "lower" => some lowercase
  | "uppercase" | "upper" => some uppercase
  | "cased" => some cased
  | "alphabetic" | "alpha" => some alphabetic
  | "math" => some ((categories ["sm"]).union (enumerated "othermath"))
  | "idstart" | "ids" => some idStart
  | "idcontinue" | "idc" => some idContinue
  | "xidstart" | "xids" => some (idStart.diff (.ofTable notXidStart))
  | "xidcontinue" | "xidc" => some (idContinue.diff (.ofTable notXidContinue))
  | "graphemeextend" | "grext" => some graphemeExtend
  | "graphemebase" | "grbase" => some graphemeBase
  | "caseignorable" | "ci" => some caseIgnorable
  | "defaultignorablecodepoint" | "di" => some defaultIgnorable
  | "changeswhenlowercased" | "cwl" => some changesLowercased
  | "changeswhenuppercased" | "cwu" => some changesUppercased
  | "changeswhentitlecased" | "cwt" => some changesTitlecased
  | "changeswhencasefolded" | "cwcf" => some changesCasefolded
  | "changeswhencasemapped" | "cwcm" => some changesMapped
  | _ => none

/-- The characters of a binary property, by its loose name. -/
def binary? (name : String) : Option CharSet :=
  match derived? name with
  | some set => some set
  | none => lookup? binaryProperties name

/-! ### Finding characters by name -/

/-- The characters that a name stands for: a binary property, a general category or a script. -/
def named? (name : List Char) : Option CharSet :=
  let loose := looseName name
  match binary? loose with
  | some set => some set
  | none =>
    match category? loose with
    | some set => some set
    | none => script? loose

/-- The characters for which a property has a value. -/
def valued? (property value : List Char) : Option CharSet :=
  let value := looseName value
  match looseName property with
  | "generalcategory" | "gc" => category? value
  | "script" | "sc" => script? value
  | "scriptextensions" | "scx" => scriptExtension? value
  | "age" => presentIn? value
  | "graphemeclusterbreak" | "gcb" => graphemeBreak? value
  | "wordbreak" | "wb" => wordBreak? value
  | "sentencebreak" | "sb" => sentenceBreak? value
  | _ => none

end YangTypes.Unicode
