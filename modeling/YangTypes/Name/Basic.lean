import YangTypes.Text.Blank
import YangTypes.Text.Split
import YangTypes.Unicode.Property
import YangTypes.Violation

/-!
Names: identifiers, revisions, namespaces, and the qualified names made of them.

Each of the three simple kinds is a text with a proof that it has the right form. A schema name is
a qualified name, or one that still has to be resolved to a module.
-/

namespace YangTypes

namespace Name

/-- Whether a character can start an identifier. -/
def isIdentifierStart (c : Char) : Bool := c.isAlpha || c == '_'

/-- Whether a character can continue an identifier. -/
def isIdentifierRest (c : Char) : Bool := c.isAlphanum || c == '_' || c == '.' || c == '-'

/-- Whether characters form an identifier. -/
def isIdentifier : List Char → Bool
  | [] => false
  | c :: cs => isIdentifierStart c && cs.all isIdentifierRest

/-- Whether a character is a decimal digit of some script; those of ASCII need no table. -/
def isDigit (c : Char) : Bool := c.isDigit || Unicode.decimalDigit.contains c

/-- Whether characters form a revision: four, two and two digits with dashes between them. -/
def isRevision : List Char → Bool
  | [a, b, c, d, dash, e, f, dash', g, h] =>
    [a, b, c, d, e, f, g, h].all isDigit && dash == '-' && dash' == '-'
  | _ => false

/-- Whether characters form a namespace: at least one, and none is blank. -/
def isNamespace (cs : List Char) : Bool := !cs.isEmpty && cs.all fun c => !Text.isBlank c

end Name

/-- A name within a module. -/
structure Identifier where
  text : String
  valid : Name.isIdentifier text.toList = true
deriving DecidableEq

/-- The date of a module. -/
structure Revision where
  text : String
  valid : Name.isRevision text.toList = true
deriving DecidableEq

/-- The namespace of a module. -/
structure Namespace where
  text : String
  valid : Name.isNamespace text.toList = true
deriving DecidableEq

/-- Reads an identifier. -/
def Identifier.parse (text : String) : Except ValueError Identifier :=
  if h : Name.isIdentifier text.toList = true then .ok ⟨text, h⟩
  else .error (.patternMismatch "Identifier" text)

/-- Reads a revision. -/
def Revision.parse (text : String) : Except ValueError Revision :=
  if h : Name.isRevision text.toList = true then .ok ⟨text, h⟩
  else .error (.patternMismatch "Revision" text)

/-- Reads a namespace. -/
def Namespace.parse (text : String) : Except ValueError Namespace :=
  if h : Name.isNamespace text.toList = true then .ok ⟨text, h⟩
  else .error (.patternMismatch "XmlNamespace" text)

/-- A name with the namespace and the revision of its module. -/
structure QualifiedName where
  space : Namespace
  revision : Option Revision
  name : Identifier
deriving DecidableEq

namespace QualifiedName

/-- Reads the parts of a qualified name, in the order namespace, revision, local name. -/
def create (space : String) (revision : Option String) (name : String) :
    Except ValueError QualifiedName := do
  let space ← Namespace.parse space
  let revision ← match revision with
    | none => pure none
    | some text => do pure (some (← Revision.parse text))
  return ⟨space, revision, ← Identifier.parse name⟩

/-- Another name of the same module. -/
def bind (q : QualifiedName) (name : Identifier) : QualifiedName := { q with name := name }

/-- The text of a qualified name. -/
def text (q : QualifiedName) : String :=
  match q.revision with
  | some revision => "(" ++ q.space.text ++ "?revision=" ++ revision.text ++ ")" ++ q.name.text
  | none => "(" ++ q.space.text ++ ")" ++ q.name.text

/-- The local name in the text of a qualified name: what follows the last parenthesis. -/
def localText (rendered : String) : String := Text.afterLast ')' rendered

/-- The order of revisions; none comes first. -/
def revisionOrder : Option Revision → Option Revision → Ordering
  | none, none => .eq
  | none, some _ => .lt
  | some _, none => .gt
  | some a, some b => compare a.text b.text

/-- The order by namespace, revision and local name. -/
def order (a b : QualifiedName) : Ordering :=
  ((compare a.space.text b.space.text).then (revisionOrder a.revision b.revision)).then
    (compare a.name.text b.name.text)

/-- Sorts qualified names; equal ones keep their order. -/
def sort (names : List QualifiedName) : List QualifiedName :=
  names.mergeSort fun a b => order a b != .gt

end QualifiedName

/-- A name as it appears in a schema. -/
inductive SchemaName where
  | resolved (name : QualifiedName)
  /-- A name with the prefix of its module. -/
  | qualified (qualifier name : Identifier)
  /-- A name of the enclosing module. -/
  | unqualified (name : Identifier)
deriving DecidableEq

namespace SchemaName

/-- The local name. -/
def localName : SchemaName → Identifier
  | resolved name => name.name
  | qualified _ name => name
  | unqualified name => name

/-- The text of a name. -/
def text : SchemaName → String
  | resolved name => name.text
  | qualified qualifier name => qualifier.text ++ ":" ++ name.text
  | unqualified name => name.text

/-- The module prefix that has to be looked up, empty for the enclosing module; none if nothing
has to be looked up. -/
def asks : SchemaName → Option String
  | resolved _ => none
  | qualified qualifier _ => some qualifier.text
  | unqualified _ => some ""

/-- Resolves a name, given the module of a prefix and the enclosing module. -/
def resolve (lookup : Option Identifier → Option QualifiedName) : SchemaName → Option QualifiedName
  | resolved name => some name
  | qualified qualifier name => (lookup (some qualifier)).map fun q => q.bind name
  | unqualified name => (lookup none).map fun q => q.bind name

/-- Reads a name; the first colon ends the prefix. -/
def parse (text : String) : Except ValueError SchemaName := do
  match Text.splitAtFirst? [':'] text.toList with
  | some (qualifier, name) =>
    return .qualified (← Identifier.parse (String.ofList qualifier))
      (← Identifier.parse (String.ofList name))
  | none => return .unqualified (← Identifier.parse text)

end SchemaName

end YangTypes
