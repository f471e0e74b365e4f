import YangTypes.Json.Reader

/-!
Reading values of other types out of JSON.

A record is an object whose fields have known names, or a list of the fields in the order of those
names.
-/

namespace YangTypes.Json

namespace Tree

/-- A text. -/
def asString : Tree → Except ReadError String
  | .string (some s) => .ok s
  | .string none => .error .unreadableValue
  | _ => .error .wrongType

/-- A truth value. -/
def asBool : Tree → Except ReadError Bool
  | .bool b => .ok b
  | _ => .error .wrongType

/-- An integer from `low` to `high`. -/
def asInteger (low high : Int) : Tree → Except ReadError Int
  | .number n =>
    match n.toInt? with
    | some value => if low ≤ value ∧ value ≤ high then .ok value else .error .invalidNumber
    | none => .error .invalidNumber
  | _ => .error .wrongType

/-- A value, or nothing. -/
def asOption {α : Type} (read : Tree → Except ReadError α) : Tree → Except ReadError (Option α)
  | .null => .ok none
  | tree => (read tree).map some

/-- A list. -/
def asList {α : Type} (read : Tree → Except ReadError α) : Tree → Except ReadError (List α)
  | .array items => items.mapM read
  | _ => .error .wrongType

/-- A value that is written as a text with rules of its own. -/
def asWritten {α ε : Type} (read : String → Except ε α) (tree : Tree) : Except ReadError α := do
  let text ← tree.asString
  (read text).mapError fun _ => .invalidValue text

/-- One of several names: a text, or an object with one field of that name that holds nothing.
Where `lenient` is set, an empty object counts as nothing. -/
def asChoice {α : Type} (lenient : Bool) (ofName? : String → Option α) (tree : Tree) :
    Except ReadError α := do
  let name ← match tree with
    | .object [(some name, .null)] => pure name
    | .object [(some name, .object [])] => if lenient then pure name else throw .wrongType
    | tree => tree.asString
  match ofName? name with
  | some choice => return choice
  | none => throw (.invalidValue name)

end Tree

/-- The fields of a record that are there. -/
structure Record where
  /-- Whether it was written as a list. -/
  positional : Bool
  fields : List (String × Tree)

namespace Record

/-- Keeps the fields with known names. Each may stand once; the others are errors or are
ignored. -/
def collect (names : List String) (strict : Bool) (found : List (String × Tree)) :
    List (Option String × Tree) → Except ReadError (List (String × Tree))
  | [] => .ok found
  | (none, _) :: _ => .error .unreadableValue
  | (some name, value) :: fields =>
    if names.contains name then
      if found.any fun field => field.1 == name then .error (.repeatedField name)
      else collect names strict (found ++ [(name, value)]) fields
    else if strict then .error (.unknownField name)
    else collect names strict found fields

/-- The record in an object. -/
def ofObject (names : List String) (strict : Bool) : Tree → Except ReadError Record
  | .object fields => (collect names strict [] fields).map fun found => ⟨false, found⟩
  | _ => .error .wrongType

/-- The record in an object or a list. -/
def ofTree (names : List String) (strict : Bool) : Tree → Except ReadError Record
  | .array items =>
    if items.length ≤ names.length then .ok ⟨true, names.zip items⟩ else .error .extraItems
  | tree => ofObject names strict tree

/-- A field, if it is there. -/
def get? (r : Record) (name : String) : Option Tree := r.fields.lookup name

/-- A field that has to be there. -/
def required {α : Type} (r : Record) (name : String) (read : Tree → Except ReadError α) :
    Except ReadError α :=
  match r.get? name with
  | some tree => read tree
  | none => .error (.missingField name)

/-- A field that stands for a default if it is not there. -/
def defaulted {α : Type} (r : Record) (name : String) (default : α)
    (read : Tree → Except ReadError α) : Except ReadError α :=
  match r.get? name with
  | some tree => read tree
  | none => .ok default

/-- A text or nothing, which may be left out. -/
def text? (r : Record) (name : String) : Except ReadError (Option String) :=
  r.defaulted name none (Tree.asOption Tree.asString)

/-- A field that may hold nothing, and that may be left out of an object but not of a list. -/
def optional {α : Type} (r : Record) (name : String) (read : Tree → Except ReadError α) :
    Except ReadError (Option α) :=
  match r.get? name with
  | some tree => tree.asOption read
  | none => if r.positional then .error (.missingField name) else .ok none

end Record

end YangTypes.Json
