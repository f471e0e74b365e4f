import YangTypes.Unicode.Property

/-!
How characters divide a text into graphemes, words and sentences.

Three properties give each character its part in one of the divisions. `graphemeBreak?`,
`wordBreak?` and `sentenceBreak?` find the characters of a part by its loose name. There is no name
for the characters without a part.
-/

namespace YangTypes.Unicode

/-! ### Signs -/

/-- The carriage return. -/
def carriageReturn : CharSet := .listed "D"

/-- The line feed. -/
def lineFeed : CharSet := .listed "A"

/-- The joiner of widths zero. -/
def zeroWidthJoiner : CharSet := .listed "200D"

/-- The signs that write a region in pairs. -/
def regionalIndicator : CharSet := enumerated "ri"

/-- The signs that stand inside words. -/
def midLetter : CharSet := .listed "3A B7 387 55F 5F4 2027 FE13 FE55 FF1A"

/-- The signs that stand inside words and inside numbers. -/
def midNumberLetter : CharSet := .listed "2E 2018-2019 2024 FE52 FF07 FF0E"

/-- The apostrophe. -/
def singleQuote : CharSet := .listed "27"

/-- The characters that casing passes over. -/
def caseIgnorable : CharSet :=
  .unions [categories ["mn", "me", "cf", "lm", "sk"], midLetter, midNumberLetter, singleQuote]

/-! ### Graphemes -/

/-- The characters that stand alone, but for line ends. -/
def graphemeControl : CharSet :=
  (CharSet.union (categories ["zl", "zp", "cc", "cf"]) (unassigned.inter defaultIgnorable)).diff
    (.unions [carriageReturn, lineFeed, zeroWidthJoiner, graphemeExtend, enumerated "pcm"])

/-- The marks that take up space and still belong to what comes before them. -/
def spacingMark : CharSet :=
  ((categories ["mc"]).diff (graphemeExtend.union (.listed "102B-102C 1038 1062-1064 1067-106D
    1083 1087-108C 108F 109A-109C 1A61 1A63-1A64 AA7B AA7D 11720-11721"))).union
    (.listed "E33 EB3")

/-- The characters that belong to what comes after them. -/
def prepended : CharSet :=
  .listed "600-605 6DD 70F 890-891 8E2 D4E 110BD 110CD 111C2-111C3 113D1 1193F 11941 11A3A
    11A84-11A89 11D46 11F02"

/-- The syllables of Hangul. -/
def hangulSyllable : CharSet := .listed "AC00-D7A3"

/-- The syllables of Hangul without a final consonant. -/
def openSyllable : CharSet :=
  ⟨(List.range 399).map fun k => (0xAC00 + 28 * k, 0xAC00 + 28 * k)⟩

/-- The characters with a part in graphemes. -/
def graphemeBreak? (value : String) : Option CharSet :=
  match value with
  | "control" | "cn" => some graphemeControl
  | "cr" => some carriageReturn
  | "extend" | "ex" => some (graphemeExtend.union (enumerated "emod"))
  | "l" => some (.listed "1100-115F A960-A97C")
  | "lf" => some lineFeed
  | "lv" => some openSyllable
  | "lvt" => some (hangulSyllable.diff openSyllable)
  | "prepend" | "pp" => some prepended
  | "regionalindicator" | "ri" => some regionalIndicator
  | "spacingmark" | "sm" => some spacingMark
  | "t" => some (.listed "11A8-11FF D7CB-D7FB")
  | "v" => some (.listed "1160-11A7 D7B0-D7C6 16D63 16D67-16D6A")
  | "zwj" => some zeroWidthJoiner
  | _ => none

/-! ### Words -/

/-- The characters of a script, by its loose name. -/
def scriptNamed (name : String) : CharSet := (script? name).getD .empty

/-- The characters that extend what comes before them in a word. -/
def wordExtend : CharSet :=
  (CharSet.unions [graphemeExtend, categories ["mc"], enumerated "emod"]).diff zeroWidthJoiner

/-- The letters of Hebrew. -/
def hebrewLetter : CharSet := (scriptNamed "hebrew").inter (categories ["lo"])

/-- The letters of Katakana and the signs that are used with them. -/
def katakana : CharSet :=
  (scriptNamed "katakana").union (.listed "3031-3035 309B-309C 30A0 30FC FF70")

/-- The scripts that do not write spaces between words. -/
def unspacedScripts : List String :=
  ["ahom", "hiragana", "khmer", "lao", "myanmar", "newtailue", "taile", "taitham", "taiviet", "thai"]

/-- The letters of words, but for Hebrew and Katakana. -/
def wordLetter : CharSet :=
  (alphabetic.diff (.unions ([enumerated "ideo", katakana, hebrewLetter, wordExtend] ++
    unspacedScripts.map scriptNamed))).union
    (.listed "2C2-2C5 2D2-2D7 2DE-2DF 2E5-2EB 2ED 2EF-2FF 55A-55C 55E 58A 5F3 70F A708-A716
      A720-A721 A789-A78A AB5B")

/-- The digits of numbers and the signs before them. -/
def wordNumeric : CharSet :=
  decimalDigit.union (.listed "600-605 66B 6DD 890-891 8E2 19DA 110BD 110CD")

/-- The characters with a part in words. -/
def wordBreak? (value : String) : Option CharSet :=
  match value with
  | "aletter" | "le" => some wordLetter
  | "cr" => some carriageReturn
  | "doublequote" | "dq" => some (.listed "22")
  | "extend" => some wordExtend
  | "extendnumlet" | "ex" => some ((categories ["pc"]).union (.listed "202F"))
  | "format" | "fo" =>
    some ((categories ["cf"]).diff
      (.unions [.listed "200B-200D", graphemeExtend, enumerated "pcm"]))
  | "hebrewletter" | "hl" => some hebrewLetter
  | "katakana" | "ka" => some katakana
  | "lf" => some lineFeed
  | "midletter" | "ml" => some midLetter
  | "midnum" | "mn" => some (.listed "2C 3B 37E 589 60C-60D 66C 7F8 2044 FE50 FE54 FF0C FF1B")
  | "midnumlet" | "mb" => some midNumberLetter
  | "newline" | "nl" => some (.listed "B-C 85 2028-2029")
  | "numeric" | "nu" => some wordNumeric
  | "regionalindicator" | "ri" => some regionalIndicator
  | "singlequote" | "sq" => some singleQuote
  | "wsegspace" => some ((categories ["zs"]).diff (.listed "A0 2007 202F"))
  | "zwj" => some zeroWidthJoiner
  | _ => none

/-! ### Sentences -/

/-- The characters that extend what comes before them in a sentence. -/
def sentenceExtend : CharSet :=
  .unions [graphemeExtend, categories ["mc"], zeroWidthJoiner]

/-- The lower case letters, without those of Georgian. -/
def sentenceLower : CharSet :=
  lowercase.diff (graphemeExtend.union (.listed "10D0-10FA 10FD-10FF"))

/-- The upper case letters, without those of Georgian. -/
def sentenceUpper : CharSet :=
  (uppercase.union (categories ["lt"])).diff (.listed "1C90-1CBA 1CBD-1CBF")

/-- The full stops. -/
def fullStop : CharSet := .listed "2E 2024 FE52 FF0E"

/-- The signs that end a paragraph, but for carriage return and line feed. -/
def paragraphEnd : CharSet := .listed "85 2028-2029"

/-- The characters with a part in sentences. -/
def sentenceBreak? (value : String) : Option CharSet :=
  match value with
  | "aterm" | "at" => some fullStop
  | "close" | "cl" =>
    some ((CharSet.unions [categories ["ps", "pe", "pi", "pf"], enumerated "qmark",
      .listed "275B-2760 2E00-2E01 2E06-2E08 2E0B 1F676-1F678"]).diff (.listed "FF02 FF07"))
  | "cr" => some carriageReturn
  | "extend" | "ex" => some sentenceExtend
  | "format" | "fo" =>
    some ((categories ["cf"]).diff (.unions [zeroWidthJoiner, graphemeExtend, wordNumeric]))
  | "lf" => some lineFeed
  | "lower" | "lo" => some sentenceLower
  | "numeric" | "nu" => some (wordNumeric.union (.listed "66C"))
  | "oletter" | "le" =>
    some ((alphabetic.union (.listed "5F3")).diff
      (.unions [sentenceLower, sentenceUpper, sentenceExtend]))
  | "scontinue" | "sc" =>
    some (.listed "2C-2D 3A-3B 37E 55D 60C-60D 7F8 1802 1808 2013-2014 3001 FE10-FE11 FE13-FE14
      FE31-FE32 FE50-FE51 FE54-FE55 FE58 FE63 FF0C-FF0D FF1A-FF1B FF64")
  | "sep" | "se" => some paragraphEnd
  | "sp" =>
    some (whiteSpace.diff (.unions [paragraphEnd, carriageReturn, lineFeed]))
  | "sterm" | "st" => some ((enumerated "sterm").diff fullStop)
  | "upper" | "up" => some sentenceUpper
  | _ => none

end YangTypes.Unicode
