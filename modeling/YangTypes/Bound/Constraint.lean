import YangTypes.Bound.Interval
import YangTypes.Violation

/-!
Constraints on numbers: intervals with what is reported when a value is in none of them.
-/

namespace YangTypes

/-- The statements that restrict numbers. -/
inductive BoundKeyword where
  | range
  | length
deriving DecidableEq, Repr

namespace BoundKeyword

/-- The keyword. -/
def name : BoundKeyword → String
  | range => "range"
  | length => "length"

/-- The tag that is reported unless another is declared. -/
def appTag : BoundKeyword → String
  | range => "range-out-of-specified-bounds"
  | length => "length-out-of-specified-bounds"

end BoundKeyword

/-- What a restriction declares about itself. -/
structure RestrictionDoc where
  description : Option String
  reference : Option String
  errorAppTag : Option String
  errorMessage : Option String
deriving DecidableEq, Repr

/-- A restriction that declares nothing about itself. -/
def RestrictionDoc.none : RestrictionDoc := ⟨.none, .none, .none, .none⟩

/-- What is known and reported about a constraint. -/
structure ConstraintDoc where
  description : Option String
  reference : Option String
  errorAppTag : String
  errorMessage : String
deriving DecidableEq, Repr

namespace ConstraintDoc

/-- What was declared, completed by a tag and a message. -/
def ofDeclared (declared : RestrictionDoc) (appTag message : String) : ConstraintDoc :=
  ⟨declared.description, declared.reference, declared.errorAppTag.getD appTag,
    declared.errorMessage.getD message⟩

/-- The violation that a constraint reports. -/
def violation (doc : ConstraintDoc) : Violation := .tagged doc.errorAppTag doc.errorMessage

end ConstraintDoc

/-- One interval of a restriction. -/
structure Constraint where
  interval : Interval
  doc : ConstraintDoc
deriving DecidableEq

namespace Constraint

/-- The constraint of an interval, with a message that shows its ends. -/
def make (keyword : BoundKeyword) (interval : Interval) (declared : RestrictionDoc) : Constraint :=
  ⟨interval, .ofDeclared declared keyword.appTag
    ("The argument is out of bounds <" ++ interval.low.text ++ ", " ++ interval.high.text ++ ">")⟩

/-- Whether two constraints have equal intervals and report the same. -/
def same (a b : Constraint) : Bool := a.interval.numEq b.interval && a.doc == b.doc

/-- Whether two lists of constraints are the same one by one. -/
def sameList (as bs : List Constraint) : Bool :=
  as.length == bs.length && (as.zip bs).all fun (a, b) => a.same b

/-- Whether a number satisfies a list of constraints: it lies in one of the intervals, or there is
none. -/
def admits (constraints : List Constraint) (n : Number) : Bool :=
  constraints.isEmpty || constraints.any fun c => c.interval.contains n

/-- Checks a number; the first constraint reports. -/
def check (constraints : List Constraint) (n : Number) : Except Violation Unit :=
  match constraints with
  | [] => .ok ()
  | first :: _ => if admits constraints n then .ok () else .error first.doc.violation

end Constraint

end YangTypes
