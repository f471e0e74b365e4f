import YangTypes.Name.Basic
import YangTypes.Text.Quoted

/-!
Paths in a schema tree.
-/

namespace YangTypes

/-- A path: its steps from the outside in, and whether it starts at the root. -/
structure SchemaPath where
  steps : List QualifiedName
  absolute : Bool
deriving DecidableEq

namespace SchemaPath

/-- The root. -/
def root : SchemaPath := ⟨[], true⟩

/-- A path with one more step. -/
def push (p : SchemaPath) (step : QualifiedName) : SchemaPath :=
  { p with steps := p.steps ++ [step] }

/-- The innermost step. -/
def last? (p : SchemaPath) : Option QualifiedName := p.steps.getLast?

/-- The text of a path: local names with slashes between them, and one before them if the path
starts at the root. -/
def text (p : SchemaPath) : String :=
  let joined := "/".intercalate (p.steps.map fun q => q.name.text)
  if p.absolute then "/" ++ joined else joined

/-- The structural form of a step. -/
def describeStep (q : QualifiedName) : String :=
  let revision := match q.revision with
    | none => "None"
    | some revision => "Some(Revision(" ++ Text.quoted revision.text ++ "))"
  "QName \x7b namespace: XmlNamespace(" ++ Text.quoted q.space.text ++ "), revision: " ++
    revision ++ ", local_name: Identifier(" ++ Text.quoted q.name.text ++ ") \x7d"

/-- The structural form of a path. -/
def describe (p : SchemaPath) : String :=
  "SchemaPath \x7b steps: [" ++ ", ".intercalate (p.steps.map describeStep) ++ "], absolute: " ++
    toString p.absolute ++ " \x7d"

end SchemaPath

end YangTypes
