/-!
Characters that differ in case only, by simple case folding.

Most classes are pairs, and many pairs follow one another at one distance: `foldingPairs` lists runs
of pairs as first character, distance to its partner, step to the next pair and number of pairs.
`foldingClasses` lists the classes of three and more characters. All numbers are hexadecimal.
-/

namespace YangTypes.Unicode

/-- Runs of pairs: first character, distance, step and count. -/
def foldingPairs : List String := [
  "41 20 1 A", "4C 20 1 7", "54 20 1 7", "C0 20 1 5", "C6 20 1 11", "D8 20 1 7", "DF 1DBF 1 1",
  "FF 79 1 1", "100 1 2 18", "132 1 2 3", "139 1 2 8", "14A 1 2 17", "179 1 2 3", "180 C3 1 1",
  "181 D2 1 1", "182 1 2 2", "186 CE 1 1", "187 1 1 1", "189 CD 1 2", "18B 1 1 1", "18E 4F 1 1",
  "18F CA 1 1", "190 CB 1 1", "191 1 1 1", "193 CD 1 1", "194 CF 1 1", "195 61 1 1",
  "196 D3 1 1", "197 D1 1 1", "198 1 1 1", "19A A3 1 1", "19B A641 1 1", "19C D3 1 1",
  "19D D5 1 1", "19E 82 1 1", "19F D6 1 1", "1A0 1 2 3", "1A6 DA 1 1", "1A7 1 1 1", "1A9 DA 1 1",
  "1AC 1 1 1", "1AE DA 1 1", "1AF 1 1 1", "1B1 D9 1 2", "1B3 1 2 2", "1B7 DB 1 1", "1B8 1 1 1",
  "1BC 1 1 1", "1BF 38 1 1", "1CD 1 2 8", "1DE 1 2 9", "1F4 1 1 1", "1F8 1 2 14", "222 1 2 9",
  "23A 2A2B 1 1", "23B 1 1 1", "23E 2A28 1 1", "23F 2A3F 1 2", "241 1 1 1", "244 45 1 1",
  "245 47 1 1", "246 1 2 5", "250 2A1F 1 1", "251 2A1C 1 1", "252 2A1E 1 1", "25C A54F 1 1",
  "261 A54B 1 1", "264 A567 1 1", "265 A528 1 1", "266 A544 1 1", "26A A544 1 1", "26B 29F7 1 1",
  "26C A541 1 1", "271 29FD 1 1", "27D 29E7 1 1", "282 A543 1 1", "287 A52A 1 1", "29D A515 1 1",
  "29E A512 1 1", "370 1 2 2", "376 1 1 1", "37B 82 1 3", "37F 74 1 1", "386 26 1 1",
  "388 25 1 3", "38C 40 1 1", "38E 3F 1 2", "390 1C43 1 1", "391 20 2 2", "394 20 2 2",
  "397 20 1 1", "39B 20 2 2", "39E 20 1 2", "3A4 20 1 2", "3A7 20 1 2", "3AA 20 1 2",
  "3B0 1C33 1 1", "3CF 8 1 1", "3D8 1 2 C", "3F2 7 1 1", "3F7 1 1 1", "3FA 1 1 1", "400 50 1 10",
  "410 20 1 2", "413 20 2 2", "416 20 1 8", "41F 20 1 2", "423 20 1 7", "42B 20 1 5",
  "460 1 1 1", "464 1 2 F", "48A 1 2 1B", "4C0 F 1 1", "4C1 1 2 7", "4D0 1 2 30", "531 30 1 26",
  "10A0 1C60 1 26", "10C7 1C60 1 1", "10CD 1C60 1 1", "10D0 BC0 1 2B", "10FD BC0 1 3",
  "13A0 97D0 1 50", "13F0 8 1 6", "1C89 1 1 1", "1D79 8A04 1 1", "1D7D EE6 1 1", "1D8E 8A38 1 1",
  "1E00 1 2 30", "1E62 1 2 1A", "1EA0 1 2 30", "1F00 8 1 8", "1F10 8 1 6", "1F20 8 1 8",
  "1F30 8 1 8", "1F40 8 1 6", "1F51 8 2 4", "1F60 8 1 8", "1F70 4A 1 2", "1F72 56 1 4",
  "1F76 64 1 2", "1F78 80 1 2", "1F7A 70 1 2", "1F7C 7E 1 2", "1F80 8 1 8", "1F90 8 1 8",
  "1FA0 8 1 8", "1FB0 8 1 2", "1FB3 9 1 1", "1FC3 9 1 1", "1FD0 8 1 2", "1FE0 8 1 2",
  "1FE5 7 1 1", "1FF3 9 1 1", "2132 1C 1 1", "2160 10 1 10", "2183 1 1 1", "24B6 1A 1 1A",
  "2C00 30 1 30", "2C60 1 1 1", "2C67 1 2 3", "2C72 1 1 1", "2C75 1 1 1", "2C80 1 2 32",
  "2CEB 1 2 2", "2CF2 1 1 1", "A640 1 2 5", "A64C 1 2 11", "A680 1 2 E", "A722 1 2 7",
  "A732 1 2 1F", "A779 1 2 2", "A77E 1 2 5", "A78B 1 1 1", "A790 1 2 2", "A794 30 1 1",
  "A796 1 2 A", "A7B3 3A0 1 1", "A7B4 1 2 8", "A7C7 1 2 2", "A7CC 1 1 1", "A7D0 1 1 1",
  "A7D6 1 2 3", "A7F5 1 1 1", "FB05 1 1 1", "FF21 20 1 1A", "10400 28 1 28", "104B0 28 1 24",
  "10570 27 1 B", "1057C 27 1 F", "1058C 27 1 7", "10594 27 1 2", "10C80 40 1 33",
  "10D50 20 1 16", "118A0 20 1 20", "16E40 20 1 20", "1E900 22 1 22"]

/-- The classes of more than two characters. -/
def foldingClasses : List String := [
  "4B 6B 212A", "53 73 17F", "B5 39C 3BC", "C5 E5 212B", "1C4 1C5 1C6", "1C7 1C8 1C9",
  "1CA 1CB 1CC", "1F1 1F2 1F3", "345 399 3B9 1FBE", "392 3B2 3D0", "395 3B5 3F5",
  "398 3B8 3D1 3F4", "39A 3BA 3F0", "3A0 3C0 3D6", "3A1 3C1 3F1", "3A3 3C2 3C3", "3A6 3C6 3D5",
  "3A9 3C9 2126", "412 432 1C80", "414 434 1C81", "41E 43E 1C82", "421 441 1C83",
  "422 442 1C84 1C85", "42A 44A 1C86", "462 463 1C87", "1C88 A64A A64B", "1E60 1E61 1E9B"]

end YangTypes.Unicode
