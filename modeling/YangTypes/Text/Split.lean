/-!
Splitting lists of characters.
-/

namespace YangTypes.Text

/-- Splits a list at the first place where another list stands: what comes before and after it. -/
def splitAtFirst? (separator : List Char) : List Char → Option (List Char × List Char)
  | [] => none
  | c :: cs =>
    if separator.isPrefixOf (c :: cs) then some ([], (c :: cs).drop separator.length)
    else (splitAtFirst? separator cs).map fun (before, after) => (c :: before, after)

/-- What comes after the last occurrence of a character; everything if it does not occur. -/
def afterLast (separator : Char) (text : String) : String :=
  String.ofList (text.toList.reverse.takeWhile (· != separator)).reverse

/-- A text filled up with spaces on the right to a number of characters. -/
def padRight (width : Nat) (text : String) : String :=
  text ++ String.ofList (List.replicate (width - text.length) ' ')

end YangTypes.Text
