/-!
Named blocks of code points.
-/

namespace YangTypes.Pattern

/-- A block of code points with its name. -/
structure Block where
  name : String
  low : Nat
  high : Nat
deriving DecidableEq, Repr

/-- The blocks that a pattern can name. -/
def blocks : List Block := [
  ⟨"BasicLatin", 0x0000, 0x007F⟩,
  ⟨"Latin-1Supplement", 0x0080, 0x00FF⟩,
  ⟨"LatinExtended-A", 0x0100, 0x017F⟩,
  ⟨"LatinExtended-B", 0x0180, 0x024F⟩,
  ⟨"IPAExtensions", 0x0250, 0x02AF⟩,
  ⟨"SpacingModifierLetters", 0x02B0, 0x02FF⟩,
  ⟨"CombiningDiacriticalMarks", 0x0300, 0x036F⟩,
  ⟨"Greek", 0x0370, 0x03FF⟩,
  ⟨"GreekandCoptic", 0x0370, 0x03FF⟩,
  ⟨"Cyrillic", 0x0400, 0x04FF⟩,
  ⟨"CyrillicSupplementary", 0x0500, 0x052F⟩,
  ⟨"Armenian", 0x0530, 0x058F⟩,
  ⟨"Hebrew", 0x0590, 0x05FF⟩,
  ⟨"Arabic", 0x0600, 0x06FF⟩,
  ⟨"Syriac", 0x0700, 0x074F⟩,
  ⟨"Thaana", 0x0780, 0x07BF⟩,
  ⟨"Devanagari", 0x0900, 0x097F⟩,
  ⟨"Bengali", 0x0980, 0x09FF⟩,
  ⟨"Gurmukhi", 0x0A00, 0x0A7F⟩,
  ⟨"Gujarati", 0x0A80, 0x0AFF⟩,
  ⟨"Oriya", 0x0B00, 0x0B7F⟩,
  ⟨"Tamil", 0x0B80, 0x0BFF⟩,
  ⟨"Telugu", 0x0C00, 0x0C7F⟩,
  ⟨"Kannada", 0x0C80, 0x0CFF⟩,
  ⟨"Malayalam", 0x0D00, 0x0D7F⟩,
  ⟨"Sinhala", 0x0D80, 0x0DFF⟩,
  ⟨"Thai", 0x0E00, 0x0E7F⟩,
  ⟨"Lao", 0x0E80, 0x0EFF⟩,
  ⟨"Tibetan", 0x0F00, 0x0FFF⟩,
  ⟨"Myanmar", 0x1000, 0x109F⟩,
  ⟨"Georgian", 0x10A0, 0x10FF⟩,
  ⟨"HangulJamo", 0x1100, 0x11FF⟩,
  ⟨"Ethiopic", 0x1200, 0x137F⟩,
  ⟨"Cherokee", 0x13A0, 0x13FF⟩,
  ⟨"Ogham", 0x1680, 0x169F⟩,
  ⟨"Runic", 0x16A0, 0x16FF⟩,
  ⟨"Khmer", 0x1780, 0x17FF⟩,
  ⟨"Mongolian", 0x1800, 0x18AF⟩,
  ⟨"LatinExtendedAdditional", 0x1E00, 0x1EFF⟩,
  ⟨"GreekExtended", 0x1F00, 0x1FFF⟩,
  ⟨"GeneralPunctuation", 0x2000, 0x206F⟩,
  ⟨"SuperscriptsandSubscripts", 0x2070, 0x209F⟩,
  ⟨"CurrencySymbols", 0x20A0, 0x20CF⟩,
  ⟨"LetterlikeSymbols", 0x2100, 0x214F⟩,
  ⟨"NumberForms", 0x2150, 0x218F⟩,
  ⟨"Arrows", 0x2190, 0x21FF⟩,
  ⟨"MathematicalOperators", 0x2200, 0x22FF⟩,
  ⟨"MiscellaneousTechnical", 0x2300, 0x23FF⟩,
  ⟨"ControlPictures", 0x2400, 0x243F⟩,
  ⟨"EnclosedAlphanumerics", 0x2460, 0x24FF⟩,
  ⟨"BoxDrawing", 0x2500, 0x257F⟩,
  ⟨"BlockElements", 0x2580, 0x259F⟩,
  ⟨"GeometricShapes", 0x25A0, 0x25FF⟩,
  ⟨"MiscellaneousSymbols", 0x2600, 0x26FF⟩,
  ⟨"Dingbats", 0x2700, 0x27BF⟩,
  ⟨"BraillePatterns", 0x2800, 0x28FF⟩,
  ⟨"CJKSymbolsandPunctuation", 0x3000, 0x303F⟩,
  ⟨"Hiragana", 0x3040, 0x309F⟩,
  ⟨"Katakana", 0x30A0, 0x30FF⟩,
  ⟨"Bopomofo", 0x3100, 0x312F⟩,
  ⟨"HangulCompatibilityJamo", 0x3130, 0x318F⟩,
  ⟨"CJKUnifiedIdeographsExtensionA", 0x3400, 0x4DBF⟩,
  ⟨"CJKUnifiedIdeographs", 0x4E00, 0x9FFF⟩,
  ⟨"YiSyllables", 0xA000, 0xA48F⟩,
  ⟨"HangulSyllables", 0xAC00, 0xD7AF⟩,
  ⟨"PrivateUseArea", 0xE000, 0xF8FF⟩,
  ⟨"CJKCompatibilityIdeographs", 0xF900, 0xFAFF⟩,
  ⟨"AlphabeticPresentationForms", 0xFB00, 0xFB4F⟩,
  ⟨"ArabicPresentationForms-A", 0xFB50, 0xFDFF⟩,
  ⟨"HalfwidthandFullwidthForms", 0xFF00, 0xFFEF⟩,
  ⟨"Specials", 0xFFF0, 0xFFFF⟩,
  ⟨"Emoticons", 0x1F600, 0x1F64F⟩]

/-- The block of a name. -/
def block? (name : String) : Option Block :=
  blocks.find? fun block => block.name == name

end YangTypes.Pattern
