import YangTypes.TypeDef.Statement

/-!
Why a type cannot be derived.
-/

namespace YangTypes

/-- The two kinds of named members. -/
inductive MemberKind where
  | bit
  | enum
deriving DecidableEq, Repr

namespace MemberKind

/-- The word for a member. -/
def noun : MemberKind → String
  | bit => "bit"
  | enum => "enum"

/-- The word for the number of a member. -/
def valueNoun : MemberKind → String
  | bit => "position"
  | enum => "value"

/-- The greatest number of a member. -/
def top : MemberKind → Int
  | bit => 4294967295
  | enum => 2147483647

end MemberKind

/-- What is wrong with a bound or with a number that has to be found. -/
inductive BoundFault where
  /-- The lower end is greater than the upper end. -/
  | reversed (keyword : BoundKeyword) (interval : Interval)
  /-- Two intervals share a number. -/
  | overlap (keyword : BoundKeyword) (a b : Interval)
  /-- The text is not a number of the type. -/
  | literal (text : String) (report : Violation)
  /-- There is no base that `min` or `max` could refer to. -/
  | noBase (bound : BoundEnd)
  /-- All numbers after the highest one are used up. -/
  | noneLeft (kind : MemberKind) (name : String)
  /-- The name of an enum is empty or has blanks around it. -/
  | memberName (name : String)
deriving DecidableEq

/-- The wording of a fault. -/
def BoundFault.message : BoundFault → String
  | reversed keyword interval =>
    keyword.name ++ " lower bound " ++ interval.low.text ++ " exceeds upper bound " ++
      interval.high.text
  | overlap keyword a b =>
    keyword.name ++ " intervals " ++ a.text ++ " and " ++ b.text ++ " overlap"
  | literal text report => "'" ++ text ++ "': " ++ report.text
  | noBase bound => "'" ++ bound.text ++ "' has no base value to refer to"
  | noneLeft kind name =>
    "no " ++ kind.valueNoun ++ " left for " ++ kind.noun ++ " '" ++ name ++ "'"
  | memberName name =>
    "enum name '" ++ name ++ "' must be non-empty without surrounding whitespace"

/-- What is wrong with the members of a derived union. -/
inductive UnionFault where
  | count (declared base : Nat)
  | notDerived (member base : QualifiedName)
deriving DecidableEq

/-- The wording of a fault. -/
def UnionFault.message : UnionFault → String
  | count declared base =>
    toString declared ++ " member types declared, base union has " ++ toString base
  | notDerived member base => member.text ++ " does not derive from " ++ base.text

/-- What is wrong with a derivation. -/
inductive TypeFault where
  /-- An interval does not lie within one interval of the base. -/
  | notNarrower (interval : Interval) (base : List Interval)
  | invalidBound (fault : BoundFault)
  /-- The statement may stand only once. -/
  | repeated (keyword : Keyword)
  | fractionDigitsConflict (base declared : Nat)
  | missingFractionDigits
  | invalidFractionDigits (digits : Nat)
  | unknownMember (kind : MemberKind) (name : String)
  | memberMismatch (kind : MemberKind) (name : String) (base declared : Int)
  | duplicateName (name : String)
  | duplicateValue (kind : MemberKind) (value : Int) (other : String)
  | requireInstanceRelaxed
  | missingPath
  | missingBase
  | emptyUnion
  | noMembers (kind : MemberKind)
  | unionMember (index : Nat) (fault : UnionFault)
  | invalidPattern (regex : String) (reason : Regex.SyntaxError)
  | invalidDefault (value : String) (report : Violation)
  /-- The statement cannot be applied to the type. -/
  | unsupported (keyword : Keyword) (kind : Kind)
deriving DecidableEq

namespace TypeFault

/-- The wording of a fault. -/
def message : TypeFault → String
  | notNarrower interval base =>
    interval.text ++ " is not a subset of the base constraints [" ++
      " | ".intercalate (base.map Interval.text) ++ "]"
  | invalidBound fault => "invalid bound: " ++ fault.message
  | repeated keyword => "multiple " ++ keyword.name ++ " statements"
  | fractionDigitsConflict base declared =>
    s!"fraction-digits {declared} conflicts with base value {base}"
  | missingFractionDigits => "decimal64 type requires fraction-digits"
  | invalidFractionDigits digits => s!"fraction-digits {digits} is outside of [1..18]"
  | unknownMember kind name => kind.noun ++ " '" ++ name ++ "' is not defined in the base type"
  | memberMismatch kind name base declared =>
    kind.noun ++ " '" ++ name ++ "' has " ++ kind.valueNoun ++ " " ++ toString declared ++
      ", base declares " ++ toString base
  | duplicateName name => "duplicate member name '" ++ name ++ "'"
  | duplicateValue kind value other =>
    kind.noun ++ " " ++ kind.valueNoun ++ " " ++ toString value ++ " is already used by '" ++
      other ++ "'"
  | requireInstanceRelaxed => "require-instance cannot be relaxed from true to false"
  | missingPath => "leafref type requires a path"
  | missingBase => "identityref type requires at least one base"
  | emptyUnion => "union type requires at least one member type"
  | noMembers .bit => "bits type requires at least one bit"
  | noMembers .enum => "enumeration type requires at least one enum"
  | unionMember index fault => "union member " ++ toString index ++ ": " ++ fault.message
  | invalidPattern regex reason => "invalid pattern '" ++ regex ++ "': " ++ reason.message
  | invalidDefault value report => "invalid default value '" ++ value ++ "': " ++ report.text
  | unsupported keyword kind => keyword.name ++ " is not allowed on " ++ kind.name ++ " types"

end TypeFault

/-- A fault with the place of the statement that caused it. -/
structure TypeError where
  location : Location
  fault : TypeFault
deriving DecidableEq

/-- The wording of an error. -/
def TypeError.message (e : TypeError) : String := e.location ++ ": " ++ e.fault.message

end YangTypes
