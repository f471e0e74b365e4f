import YangTypes.Unicode.CharSet
import YangTypes.Unicode.GeneralCategory
import YangTypes.Unicode.Script
import YangTypes.Unicode.Age
import YangTypes.Unicode.BinaryProperty

/-!
General categories, scripts, versions and derived properties.

Names are loose: in lower case and without separators. The derived properties follow the derivations
that the standard gives for them.
-/

namespace YangTypes.Unicode

/-- The names in the key of a table, which are separated by spaces. -/
def keyNames (key : String) : List String :=
  (key.toList.splitOnP (· == ' ')).map String.ofList

/-- The entry of a table that has a name. -/
def lookup? (table : List (String × String)) (name : String) : Option CharSet :=
  (table.find? fun entry => (keyNames entry.1).contains name).map fun entry =>
    CharSet.ofTable entry.2

/-- The union of some general categories, by their short names. -/
def categories (names : List String) : CharSet :=
  .unions (names.filterMap (lookup? generalCategories))

/-- An enumerated property, by its name. -/
def enumerated (name : String) : CharSet :=
  (lookup? binaryProperties name).getD .empty

/-- The short names of the categories of assigned characters. -/
def assignedNames : List String :=
  ["lu", "ll", "lt", "lm", "lo", "mn", "mc", "me", "nd", "nl", "no", "pc", "pd", "ps", "pe", "pi",
    "pf", "po", "sm", "sc", "sk", "so", "zs", "zl", "zp", "cc", "cf", "co"]

/-- The code points that are reserved for pairs and are no characters. -/
def surrogates : CharSet := ⟨[(0xD800, 0xDFFF)]⟩

/-- The characters without a meaning of their own. -/
def unassigned : CharSet :=
  ((categories assignedNames).union surrogates).complement

/-- The general categories that unite others, with the short names of these. -/
def categoryGroups : List (List String × List String) :=
  [(["lc", "casedletter"], ["lu", "ll", "lt"]),
    (["l", "letter"], ["lu", "ll", "lt", "lm", "lo"]),
    (["m", "mark", "combiningmark"], ["mn", "mc", "me"]),
    (["n", "number"], ["nd", "nl", "no"]),
    (["p", "punctuation", "punct"], ["pc", "pd", "ps", "pe", "pi", "pf", "po"]),
    (["s", "symbol"], ["sm", "sc", "sk", "so"]),
    (["z", "separator"], ["zs", "zl", "zp"])]

/-- The characters of a general category, by its loose name. -/
def category? (name : String) : Option CharSet :=
  match name with
  | "any" => some (CharSet.empty.complement)
  | "ascii" => some ⟨[(0, 0x7F)]⟩
  | "assigned" => some unassigned.complement
  | "cn" | "unassigned" => some unassigned
  | "c" | "other" => some ((categories ["cc", "cf", "co"]).union (unassigned.union surrogates))
  | _ =>
    match categoryGroups.find? fun group => group.1.contains name with
    | some group => some (categories group.2)
    | none => lookup? generalCategories name

/-- The characters of a script, by its loose name. -/
def script? (name : String) : Option CharSet := lookup? scripts name

/-- The characters that a script uses, also those that it shares with others. -/
def scriptExtension? (name : String) : Option CharSet := do
  let entry ← scripts.find? fun entry => (keyNames entry.1).contains name
  let own := CharSet.ofTable entry.2
  let canonical := (keyNames entry.1).headD ""
  if canonical == "common" || canonical == "inherited" then
    some (own.diff (.unions (sharedCharacters.map fun shared => CharSet.ofTable shared.2)))
  else
    some (own.union ((lookup? sharedCharacters canonical).getD .empty))

/-- The characters that were there in a version of the standard. -/
def presentIn? (version : String) : Option CharSet :=
  let later := ages.dropWhile fun entry => !(keyNames entry.1).contains version
  match later with
  | [] => none
  | _ => some (.unions ((ages.take (ages.length - later.length + 1)).map fun entry =>
      CharSet.ofTable entry.2))

/-! ### Derived properties -/

/-- The lower case characters. -/
def lowercase : CharSet := (categories ["ll"]).union (enumerated "otherlowercase")

/-- The upper case characters. -/
def uppercase : CharSet := (categories ["lu"]).union (enumerated "otheruppercase")

/-- The characters with case. -/
def cased : CharSet := .unions [lowercase, uppercase, categories ["lt"]]

/-- The alphabetic characters. -/
def alphabetic : CharSet :=
  .unions [cased, categories ["lm", "lo", "nl"], enumerated "otheralphabetic"]

/-- The characters that belong to no identifier: syntax and white space of patterns. -/
def patternCharacters : CharSet := (enumerated "patsyn").union (enumerated "patws")

/-- The characters that start identifiers. -/
def idStart : CharSet :=
  (CharSet.union (categories ["lu", "ll", "lt", "lm", "lo", "nl"]) (enumerated "otheridstart")).diff
    patternCharacters

/-- The characters that continue identifiers. -/
def idContinue : CharSet :=
  (CharSet.unions [idStart, categories ["mn", "mc", "nd", "pc"], enumerated "otheridcontinue"]).diff
    patternCharacters

/-- The characters that extend a grapheme. -/
def graphemeExtend : CharSet := (categories ["me", "mn"]).union (enumerated "othergraphemeextend")

/-- The characters that a grapheme starts with, apart from controls. -/
def graphemeBase : CharSet :=
  (categories assignedNames).diff
    (graphemeExtend.union (categories ["cc", "cf", "co", "zl", "zp"]))

/-- The characters of words: letters, marks, decimal digits, connectors and joiners. -/
def word : CharSet :=
  .unions [alphabetic, categories ["mn", "mc", "me", "nd", "pc"], enumerated "joinc"]

/-- The decimal digits of all scripts. -/
def decimalDigit : CharSet := (lookup? generalCategories "nd").getD .empty

/-- The white space characters. -/
def whiteSpace : CharSet := enumerated "wspace"

/-- The characters that lower casing changes. -/
def changesLowercased : CharSet :=
  ((categories ["lu", "lt"]).union (.ofTable lowercasedAlso)).diff (.ofTable lowercasedNot)

/-- The characters that upper casing changes. -/
def changesUppercased : CharSet :=
  (lowercase.union (.ofTable uppercasedAlso)).diff (.ofTable uppercasedNot)

/-- The characters that title casing changes. -/
def changesTitlecased : CharSet :=
  (lowercase.union (.ofTable titlecasedAlso)).diff (.ofTable titlecasedNot)

/-- The characters that case folding changes. -/
def changesCasefolded : CharSet :=
  ((categories ["lu", "lt"]).union (.ofTable casefoldedAlso)).diff (.ofTable casefoldedNot)

/-- The characters that a mapping of case changes. -/
def changesMapped : CharSet :=
  .unions [changesLowercased, changesUppercased, changesTitlecased]

/-- The characters that can be left out where they cannot be shown. -/
def defaultIgnorable : CharSet :=
  (CharSet.unions [enumerated "odi", categories ["cf"], enumerated "vs"]).diff
    (.unions [whiteSpace, enumerated "pcm", .listed "FFF9-FFFB 13430-1343F"])

end YangTypes.Unicode
