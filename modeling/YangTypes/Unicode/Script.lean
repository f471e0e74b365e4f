/-!
The scripts of characters.

`scripts` has the names of each script and the characters whose script it is. A character that is
common to several scripts can still be used in few of them only; `sharedCharacters` has these
characters for each script. The format is that of the general categories.
-/

namespace YangTypes.Unicode

/-- The scripts with their characters. -/
def scripts : List (String × String) := [
  ("adlam adlm", "1E900 4C 4 A 4 2"),
  ("ahom", "11700 1B 2 F 4 17"),
  ("anatolianhieroglyphs hluw", "14400 247"),
  ("arabic arab", "600 5 1 6 1 E 1 3 1 20 1 A B 1A 1 6C 1 22 50 30 F0 1F 1 2 5 4B 1 1D F250 73 10
  16B 2 50 2 36 7 1 20 10 70 5 1 87 F63 1F 43 3 37 4 DF00 4 1 1B 1 2 1 1 2 1 1 A 1 4 1 1 1 1 6 1 4
  1 1 1 1 1 1 3 1 2 1 1 2 1 1 1 1 1 1 1 1 1 1 2 1 1 2 4 1 7 1 4 1 4 1 1 1 A 1 11 5 3 1 5 1 11 34 2"),
  ("armenian armn", "531 26 2 32 2 3 F583 5"),
  ("avestan avst", "10B00 36 3 7"),
  ("balinese bali", "1B00 4D 1 32"),
  ("bamum bamu", "A6A0 58 C108 239"),
  ("bassavah bass", "16AD0 1E 2 6"),
  ("batak batk", "1BC0 34 8 4"),
  ("bengali beng", "980 4 1 8 2 2 2 16 1 7 1 1 3 4 2 9 2 2 2 4 8 1 4 2 1 5 2 19"),
  ("bhaiksuki bhks", "11C00 9 1 2D 1 E A 1D"),
  ("bopomofo bopo", "2EA 2 2E19 2B 70 20"),
  ("brahmi brah", "11000 4E 4 24 9 1"),
  ("braille brai", "2800 100"),
  ("buginese bugi", "1A00 1C 2 2"),
  ("buhid buhd", "1740 14"),
  ("canadianaboriginal cans", "1400 280 230 46 101BA 10"),
  ("carian cari", "102A0 31"),
  ("caucasianalbanian aghb", "10530 34 B 1"),
  ("chakma cakm", "11100 35 1 12"),
  ("cham", "AA00 37 9 E 2 A 2 4"),
  ("cherokee cher", "13A0 56 2 6 9772 50"),
  ("chorasmian chrs", "10FB0 1C"),
  ("common zyyy", "0 41 1A 6 1A 2F 1 F 1 5 17 1 1F 1 1C1 27 5 5 2 14 74 1 9 1 6 1 1 1 27D 1 6 1 E
  1 3 1 20 1 9C 1 204 1 81 2 4D9 1 195 4 122 1 5EF 3 47 2 CB 2 1 1 4CD 1 D 1 7 4 1 6 1 3 2 1 305 C
  2 57 1 B 3 B 1 F 11 21 3F 26 1 3 2 6 1 1B 1 11 29 3 4 29A 16 B 15 3A0 100 274 2 20 1 69 200 5E
  192 15 1 1 1 19 F 8 4 4 5B 2 3 1 5A 2 93 10 20 26 9 1 30 40 1F 51 2F 1 58 A8 19C0 40 5900 22 66
  3 A5 A F4 1 A0 1 18B 1 E 2 51D2 2 D0 A 16 23 1 13 1 4 93 1 1 20 1A 6 1A B A 1 2D 2 40 7 1 7 A 5
  102 3 4 2D 3 9 50 D 33 2D E4 1B B9A4 4 F5C FA 6 1B4 9C 74 3C F6 A 27 2 3E 3 11 8 2 7 1E 4 3D D5
  14 C 14 C 57 9 19 87 55 1 47 1 2 2 1 2 2 2 4 1 C 1 1 1 7 1 41 1 4 2 8 1 7 1 1C 1 4 1 5 1 1 3 7 1
  154 2 124 2 32 1471 44 4C 3D 2C2 2C 4 64 C F 2 F 1 F 1 25 A AE 38 1A 1 2 D 2C 4 9 7 2 E 6 9A 3D8
  4 11 3 D 3 77 4 5F 6 C 4 1 F C 4 38 8 A 6 28 8 1E 2 C 4 2 3E 154 C E 2 D 3 A 5 38 7 F 2 B 6 9 7
  93 1 66 C0407 1 1E 60"),
  ("coptic copt qaac", "3E2 E 2890 74 5 7"),
  ("cuneiform xsux", "12000 39A 66 6F 1 5 B C4"),
  ("cypriot cprt", "10800 6 2 1 1 2C 1 2 3 1 2 1"),
  ("cyprominoan cpmn", "12F90 63"),
  ("cyrillic cyrl", "400 85 2 A9 1750 B A0 1 4C 1 1067 20 7840 60 578E 2 E200 3E 21 1"),
  ("deseret dsrt", "10400 50"),
  ("devanagari deva", "900 51 4 F 2 1A 9F60 20 7200 A"),
  ("divesakuru diak", "11900 7 2 1 2 8 1 2 1 1E 1 2 2 C 9 A"),
  ("dogra dogr", "11800 3C"),
  ("duployan dupl", "1BC00 6B 5 D 3 9 7 A 2 4"),
  ("egyptianhieroglyphs egyp", "13000 456 A F9B"),
  ("elbasan elba", "10500 28"),
  ("elymaic elym", "10FE0 17"),
  ("ethiopic ethi", "1200 49 1 4 2 7 1 1 1 4 2 29 1 4 2 21 1 4 2 7 1 1 1 4 2 F 1 39 1 4 2 43 2 20
  3 1A 19E6 17 9 7 1 7 1 7 1 7 1 7 1 7 1 7 1 7 7D22 6 2 6 2 6 9 7 1 7 13CB1 7 1 4 1 2 1 F"),
  ("garay gara", "10D40 26 3 1D 8 2"),
  ("georgian geor", "10A0 26 1 1 5 1 2 2B 1 4 B90 2B 2 3 1040 26 1 1 5 1"),
  ("glagolitic glag", "2C00 60 1B3A0 7 1 11 2 7 1 2 1 5"),
  ("gothic goth", "10330 1B"),
  ("grantha gran", "11300 4 1 8 2 2 2 16 1 7 1 2 1 5 2 9 2 2 2 3 2 1 6 1 5 7 2 7 3 5"),
  ("greek grek", "370 4 1 3 2 4 1 1 4 1 1 1 1 3 1 1 1 14 1 3F E 10 1926 5 32 5 4 5 54 1 140 16 2 6
  2 26 2 6 2 8 1 1 1 1 1 1 1 1F 2 35 1 F 1 E 2 6 1 13 2 3 1 9 127 1 8A3E 1 55DA 4F 11 1 D05F 46"),
  ("gujarati gujr", "A81 3 1 9 1 3 1 16 1 7 1 2 1 5 2 A 1 3 1 3 2 1 F 4 2 C 7 7"),
  ("gunjalagondi gong", "11D60 6 1 2 1 25 1 2 1 6 7 A"),
  ("gurmukhi guru", "A01 3 1 6 4 2 2 16 1 7 1 2 1 2 1 2 2 1 1 5 4 2 2 3 3 1 7 4 1 1 7 11"),
  ("gurungkhema gukh", "16100 3A"),
  ("han hani", "2E80 1A 1 59 C D6 2F 1 1 1 19 9 E 4 3C4 19C0 40 5200 5900 16E 2 6A 7508 2 C 2 900E
  A6E0 20 103A 6 DE 2 1682 E 1D31 F 26E 9A2 21E 5E2 134B 5 1060"),
  ("hangul hang", "1100 100 1E2E 2 101 5E 71 1F 41 1F 76E1 1D 283 2BA4 C 17 4 31 27A4 1F 3 6 2 6 2
  6 2 3"),
  ("hanifirohingya rohg", "10D00 28 8 A"),
  ("hanunoo hano", "1720 15"),
  ("hatran hatr", "108E0 13 1 2 5 5"),
  ("hebrew hebr", "591 37 8 1B 4 6 F528 1A 1 5 1 1 1 2 1 2 1 A"),
  ("hiragana hira", "3041 56 6 3 17F61 11F 12 1 1D 3 40AD 1"),
  ("imperialaramaic armi", "10840 16 1 9"),
  ("inherited zinh qaai", "300 70 115 2 1C4 B 1A 1 2E0 4 115B 1F 201 3 1 D 1 7 4 1 6 1 3 2 C6 40
  20C 2 C2 21 F39 4 6B 2 CD65 10 10 E 3CF 1 E2 1 105A 1 BBC4 2E 2 17 220 3 11 8 2 7 1E 4 C2F52 F0"),
  ("inscriptionalpahlavi phli", "10B60 13 5 8"),
  ("inscriptionalparthian prti", "10B40 16 2 8"),
  ("javanese java", "A980 4E 2 A 4 2"),
  ("kaithi kthi", "11080 43 A 1"),
  ("kannada knda", "C80 D 1 3 1 17 1 A 1 5 2 9 1 3 1 4 7 2 6 2 1 4 2 A 1 3"),
  ("katakana kana", "30A1 5A 2 3 F0 10 D0 2F 1 58 CC0E A 1 2D B052 4 1 7 1 2 1 1 11F 3 32 1 E 4"),
  ("kawi", "11F00 11 1 29 3 1D"),
  ("kayahli kali", "A900 2E 1 1"),
  ("kharoshthi khar", "10A00 4 1 2 5 8 1 3 1 1D 2 3 4 A 7 9"),
  ("khitansmallscript kits", "16FE4 1 1B1B 1D6 29 1"),
  ("khmer khmr", "1780 5E 2 A 6 A 1E6 20"),
  ("khojki khoj", "11200 12 1 2F"),
  ("khudawadi sind", "112B0 3B 5 A"),
  ("kiratrai krai", "16D40 3A"),
  ("lao laoo", "E81 2 1 1 1 5 1 18 1 1 1 17 2 5 1 1 1 7 1 A 2 4"),
  ("latin latn", "41 1A 6 1A 2F 1 F 1 5 17 1 1F 1 1C1 27 5 1A1B 26 6 31 5 4 5 D 1 46 41 100 171 1
  D 1 10 D 8D 2 6 1 1B 1 11 29 AD7 20 7AA2 66 3 43 2 2 1 1 1 8 15 E 330 2B 1 9 1 4 4F96 7 41A 1A 6
  1A 825 6 1 2A 1 9 D745 1F 6 6"),
  ("lepcha lepc", "1C00 38 3 F 3 3"),
  ("limbu limb", "1900 1F 1 C 4 C 4 1 3 C"),
  ("lineara lina", "10600 137 9 16 A 8"),
  ("linearb linb", "10000 C 1 1A 1 13 1 2 1 F 2 E 22 7B"),
  ("lisu", "A4D0 30 7AB0 1"),
  ("lycian lyci", "10280 1D"),
  ("lydian lydi", "10920 1A 5 1"),
  ("mahajani mahj", "11150 27"),
  ("makasar maka", "11EE0 19"),
  ("malayalam mlym", "D00 D 1 3 1 33 1 3 1 6 4 10 2 1A"),
  ("mandaic mand", "840 1C 2 1"),
  ("manichaean mani", "10AC0 27 4 C"),
  ("marchen marc", "11C70 20 2 16 1 E"),
  ("masaramgondi gonm", "11D00 7 1 2 1 2C 3 1 1 2 1 9 8 A"),
  ("medefaidrin medf", "16E40 5B"),
  ("meeteimayek mtei", "AAE0 17 C9 2E 2 A"),
  ("mendekikakui mend", "1E800 C5 2 10"),
  ("meroiticcursive merc", "109A0 18 4 14 2 2E"),
  ("meroitichieroglyphs mero", "10980 20"),
  ("miao plrd", "16F00 4B 4 39 7 11"),
  ("modi", "11600 45 B A"),
  ("mongolian mong", "1800 2 2 1 1 14 6 59 7 2B FDB5 D"),
  ("mro mroo", "16A40 1F 1 A 4 2"),
  ("multani mult", "11280 7 1 1 1 4 1 F 1 B"),
  ("myanmar mymr", "1000 A0 9940 1F 61 20 6C50 14"),
  ("nabataean nbat", "10880 1F 8 9"),
  ("nagmundari nagm", "1E4D0 2A"),
  ("nandinagari nand", "119A0 8 2 2E 2 B"),
  ("newtailue talu", "1980 2C 4 1A 6 B 3 2"),
  ("newa", "11400 5C 1 5"),
  ("nko nkoo", "7C0 3B 2 3"),
  ("nushu nshu", "16FE1 1 418E 18C"),
  ("nyiakengpuachuehmong hmnp", "1E100 2D 3 E 2 A 4 2"),
  ("ogham ogam", "1680 1D"),
  ("olchiki olck", "1C50 30"),
  ("olonal onao", "1E5D0 2B 4 1"),
  ("oldhungarian hung", "10C80 33 D 33 7 6"),
  ("olditalic ital", "10300 24 9 3"),
  ("oldnortharabian narb", "10A80 20"),
  ("oldpermic perm", "10350 2B"),
  ("oldpersian xpeo", "103A0 24 4 E"),
  ("oldsogdian sogo", "10F00 28"),
  ("oldsoutharabian sarb", "10A60 20"),
  ("oldturkic orkh", "10C00 49"),
  ("olduyghur ougr", "10F70 1A"),
  ("oriya orya", "B01 3 1 8 2 2 2 16 1 7 1 2 1 5 2 9 2 2 2 3 7 3 4 2 1 5 2 12"),
  ("osage osge", "104B0 24 4 24"),
  ("osmanya osma", "10480 1E 2 A"),
  ("pahawhhmong hmng", "16B00 46 A A 1 7 1 15 5 13"),
  ("palmyrene palm", "10860 20"),
  ("paucinhau pauc", "11AC0 39"),
  ("phagspa phag", "A840 38"),
  ("phoenician phnx", "10900 1C 3 1"),
  ("psalterpahlavi phlp", "10B80 12 7 4 C 7"),
  ("rejang rjng", "A930 24 B 1"),
  ("runic runr", "16A0 4B 3 B"),
  ("samaritan samr", "800 2E 2 F"),
  ("saurashtra saur", "A880 46 8 C"),
  ("sharada shrd", "11180 60"),
  ("shavian shaw", "10450 30"),
  ("siddham sidd", "11580 36 2 26"),
  ("signwriting sgnw", "1D800 28C F 5 1 F"),
  ("sinhala sinh", "D81 3 1 12 3 18 1 9 1 1 2 7 3 1 4 6 1 1 1 8 6 A 2 3 103EC 14"),
  ("sogdian sogd", "10F30 2A"),
  ("sorasompeng sora", "110D0 19 7 A"),
  ("soyombo soyo", "11A50 53"),
  ("sundanese sund", "1B80 40 100 8"),
  ("sunuwar sunu", "11BC0 22 E A"),
  ("sylotinagri sylo", "A800 2D"),
  ("syriac syrc", "700 E 1 3C 2 3 110 B"),
  ("tagalog tglg", "1700 16 9 1"),
  ("tagbanwa tagb", "1760 D 1 3 1 2"),
  ("taile tale", "1950 1E 2 5"),
  ("taitham lana", "1A20 3F 1 1D 2 B 6 A 6 E"),
  ("taiviet tavt", "AA80 43 18 5"),
  ("takri takr", "11680 3A 6 A"),
  ("tamil taml", "B82 2 1 6 3 3 1 4 3 2 1 1 1 2 3 2 3 3 3 C 4 5 3 3 1 4 2 1 6 1 E 15 113C5 32 D 1"),
  ("tangsa tnsa", "16A70 4F 1 A"),
  ("tangut tang", "16FE0 1 1F 17F8 8 300 200 9"),
  ("telugu telu", "C00 D 1 3 1 17 1 10 2 9 1 3 1 4 7 2 1 3 2 1 2 4 2 A 7 9"),
  ("thaana thaa", "780 32"),
  ("thai", "E01 3A 5 1C"),
  ("tibetan tibt", "F00 48 1 24 4 27 1 24 1 F 1 7 4 2"),
  ("tifinagh tfng", "2D30 38 7 2 E 1"),
  ("tirhuta tirh", "11480 48 8 A"),
  ("todhri todr", "105C0 34"),
  ("toto", "1E290 1F"),
  ("tulutigalari tutg", "11380 A 1 1 2 1 1 26 1 A 1 1 2 1 1 4 1 A 1 2 8 2"),
  ("ugaritic ugar", "10380 1E 1 1"),
  ("vai vaii", "A500 12C"),
  ("vithkuqi vith", "10570 B 1 F 1 7 1 2 1 B 1 F 1 7 1 2"),
  ("wancho wcho", "1E2C0 3A 5 1"),
  ("warangciti wara", "118A0 53 C 1"),
  ("yezidi yezi", "10E80 2A 1 3 2 2"),
  ("yi yiii", "A000 48D 3 37"),
  ("zanabazarsquare zanb", "11A00 48")]

/-- The characters of other scripts, or of none, that a script also uses. -/
def sharedCharacters : List (String × String) := [
  ("adlam", "61F 1 20 1 1A0E 1 DF1 1"),
  ("arabic", "60C 1 E 1 3 1 20 1 A B 1A 1 19DE 1 DF1 1 CEFC 2 5A0 1C"),
  ("armenian", "308 1"),
  ("avestan", "B7 1 2D78 2"),
  ("bengali", "2BC 1 694 2 11 2 136A 1 1 1 2 2 1 1 8 1 8 1 2 1 4 1 2 3 8BF9 1"),
  ("bopomofo", "2C7 1 1 3 D 1 2D27 3 4 A 1 D A 4 2 1 6 1 C3 1 CD49 2 11A 5"),
  ("buginese", "A9CF 1"),
  ("buhid", "1735 2"),
  ("carian", "B7 1 1FA2 1 2 1 DD3 1"),
  ("caucasianalbanian", "304 1 2C 1 2C 1"),
  ("chakma", "9E6 A 650 A"),
  ("cherokee", "300 3 1 1 6 2 16 2 B 2"),
  ("coptic", "B7 1 248 1 3 2 1 1 6C 2 2AA1 1 D4C8 1C"),
  ("cypriot", "10100 3 4 2D 3 9"),
  ("cyprominoan", "10100 2"),
  ("cyrillic", "2BC 1 43 3 1 1 1 1 1 1 2 1 5 1 173 2 1971 1 104A 1"),
  ("devanagari", "2BC 1 694 2 11 2 136A 27 1 2 3F6 1 873F A"),
  ("dogra", "964 C 9EC0 A"),
  ("duployan", "B7 1 24F 2 1 1 18 2 2B17 1 18E63 4"),
  ("elbasan", "B7 1 24D 1"),
  ("ethiopic", "30E 1"),
  ("garay", "60C 1 E 1 3 1"),
  ("georgian", "B7 1 4D1 1 B71 1 F5E 1 DD6 1"),
  ("glagolitic", "B7 1 24B 1 1 1 17E 1 2 1 101 1 B71 1 F5E 1 DE8 1 782B 1"),
  ("gothic", "B7 1 24C 2 2 1 28 1"),
  ("grantha", "951 2 11 2 280 E 10DC 1 1 2 1E 3 3 2 3F6 1 F24A 1 C94 2 1 1"),
  ("greek", "B7 1 248 2 2 1 1 1 1 1 A 1 2E 1 2 1 2E 1 1A4B 2 29B 1"),
  ("gujarati", "951 2 11 2 9ECA A"),
  ("gunjalagondi", "B7 1 8AC 2"),
  ("gurmukhi", "951 2 11 2 9ECA A"),
  ("gurungkhema", "965 1"),
  ("han", "B7 1 2F38 10 1 3 2 1 1 A 1 D A 4 2 1 6 1 4 4 BB 1 94 10 20 26 9 1 30 28 38 31 F C 33 1
  58 19 A 5 60 1F 7301 8 573D 2 11A 5 D3FA 12 1EDE 2"),
  ("hangul", "3001 3 4 A 1 D 10 1 6 1 C3 1 CD49 2 11A 5"),
  ("hanifirohingya", "60C 1 E 1 3 1 20 1 93 1"),
  ("hanunoo", "1735 2"),
  ("hebrew", "307 2"),
  ("hiragana", "3001 3 4 A 1 D 10 6 1 1 4 2 5B 4 3 1 5A 2 CD48 2 11A 5 A 1 2D 2"),
  ("javanese", "A9CF 1"),
  ("kaithi", "966 A 24C1 1 79FE A"),
  ("kannada", "951 2 11 2 136A 1 1 2 6 1 17 1 1 1 8B3B 6"),
  ("katakana", "305 1 1D 1 2CDD 3 4 A 1 D 10 6 1 1 4 2 5B 4 3 1 5A 2 CD48 2 11A 5 A 1 2D 2"),
  ("kayahli", "A92E 1"),
  ("khojki", "AE6 A 9D40 A"),
  ("khudawadi", "964 2 9ECA A"),
  ("latin", "B7 1 204 1 A 1 1 3 1 1 9 1 1 1 26 F 1 2 1 1 C 1 2 3 7 2 1 2 26 1 5 1 4 D 115 2 4CA 2
  7A8 1 CFC 1 236 1 C0 1 D26 1 78E8 8 226 1"),
  ("limbu", "965 1"),
  ("lineara", "10107 2D"),
  ("linearb", "10100 3 4 2D 3 9"),
  ("lisu", "2BC 1 10 1 2D3C 2"),
  ("lycian", "205A 1"),
  ("lydian", "B7 1 2D79 1"),
  ("mahajani", "B7 1 8AC C 9EC0 A"),
  ("malayalam", "951 2 11 2 1374 1 17 1 8B3D 3"),
  ("mandaic", "640 1"),
  ("manichaean", "640 1"),
  ("masaramgondi", "964 2"),
  ("meroitichieroglyphs", "205D 1"),
  ("modi", "A830 A"),
  ("mongolian", "1802 2 1 1 829 1 FD1 2 5 4"),
  ("multani", "A66 A"),
  ("myanmar", "A92E 1"),
  ("nandinagari", "964 2 380 A FF9 1 8 1 7 1 8B35 6"),
  ("nko", "60C 1 E 1 3 1 F71E 2"),
  ("olonal", "964 2"),
  ("oldhungarian", "205A 1 2 1 DD3 1 F 1"),
  ("oldpermic", "B7 1 248 1 5 3 A 1 16F 1"),
  ("oldturkic", "205A 1 DD5 1"),
  ("olduyghur", "640 1 104B1 1"),
  ("oriya", "951 2 11 2 1374 1 17 1"),
  ("osage", "301 1 2 1 6 1 4C 1"),
  ("phagspa", "1802 2 1 1 829 1 FD2 1"),
  ("psalterpahlavi", "640 1"),
  ("runic", "16EB 3"),
  ("samaritan", "2E31 1"),
  ("sharada", "951 1 1385 1 1 1 2 2 2 1 8B4F 6 2 1"),
  ("shavian", "B7 1"),
  ("sinhala", "964 2 138C 1"),
  ("sogdian", "640 1"),
  ("sunuwar", "300 2 1 1 9 1 2 1 1C 1 3 1"),
  ("sylotinagri", "964 2 80 A"),
  ("syriac", "303 2 2 2 1 1 15 1 2 3 7 2 1 1 2DB 1 E 2 2 1 20 1 A B 1A 1 1787 1 1 1"),
  ("tagalog", "1735 2"),
  ("tagbanwa", "1735 2"),
  ("taile", "300 2 5 2 3 1 D33 A"),
  ("takri", "964 2 9ECA A"),
  ("tamil", "951 2 11 2 1374 1 8C18 1 6A0D 1 1 1 37 2"),
  ("tangut", "2FF0 10 1EF 1"),
  ("telugu", "951 2 11 2 1374 1 17 1"),
  ("thaana", "60C 1 E 2 2 1 40 A F788 1 A 1"),
  ("thai", "2BC 1 1A 1 2B 1 2D 1"),
  ("tibetan", "3008 4"),
  ("tifinagh", "302 1 1 1 2 1 1 1"),
  ("tirhuta", "951 2 11 2 138C 1 8B3D A"),
  ("todhri", "301 1 2 1 2 1 9 1 1 1 4A 1"),
  ("toto", "2BC 1"),
  ("tulutigalari", "CE6 A 1002 1 1 1 8B3B 6 BB 1"),
  ("yezidi", "60C 1 E 1 3 1 40 A"),
  ("yi", "3001 2 5 A 2 8 DF 1 CE65 5")]

end YangTypes.Unicode
