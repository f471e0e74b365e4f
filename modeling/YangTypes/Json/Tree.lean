import YangTypes.Json.Numeral

/-!
JSON texts as trees.

A tree keeps what the text says: every field of an object in order, also if a name stands twice, and
numbers as they are written. A string with an escape for one half of a surrogate pair has no value.
Whether that matters, and how deep values may be nested, is up to those who read the tree; `isSound`
holds of the trees in which all strings and numbers have a value and the nesting is limited.
-/

namespace YangTypes.Json

/-- A JSON text. -/
inductive Tree where
  | null
  | bool (b : Bool)
  | number (n : Numeral)
  | string (s : Option String)
  | array (items : List Tree)
  | object (fields : List (Option String × Tree))

/-- How deep values may be nested. -/
def depthLimit : Nat := 127

mutual

/-- Whether all strings and numbers have a value, and at most `depth` brackets are open at once. -/
def Tree.soundTo (depth : Nat) : Tree → Bool
  | .null => true
  | .bool _ => true
  | .number n => n.isFinite
  | .string s => s.isSome
  | .array items => depth != 0 && itemsSoundTo (depth - 1) items
  | .object fields => depth != 0 && fieldsSoundTo (depth - 1) fields

/-- Whether all items are sound. -/
def itemsSoundTo (depth : Nat) : List Tree → Bool
  | [] => true
  | item :: items => item.soundTo depth && itemsSoundTo depth items

/-- Whether all fields are sound. -/
def fieldsSoundTo (depth : Nat) : List (Option String × Tree) → Bool
  | [] => true
  | (name, value) :: fields => name.isSome && value.soundTo depth && fieldsSoundTo depth fields

end

/-- Whether all strings and numbers have a value and the nesting is within the limit. -/
def Tree.isSound (t : Tree) : Bool := t.soundTo depthLimit

end YangTypes.Json
