import YangTypes.Derivation.Narrowing

/-!
The restrictions of a type, and how one derivation step adds to them.
-/

namespace YangTypes

/-- Choices about how strict derivation is. -/
structure DerivationOptions where
  /-- Whether fraction digits that differ from those of the base are an error; otherwise they are
  ignored. -/
  strictFractionDigits : Bool
deriving DecidableEq, Repr

/-- The restrictions of a type. -/
structure Restrictions where
  ranges : List Constraint
  lengths : List Constraint
  patterns : List Pattern
  fractionDigits : Option Nat
deriving DecidableEq

namespace Restrictions

/-- No restrictions. -/
def none : Restrictions := ⟨[], [], [], .none⟩

/-- The ranges or the lengths. -/
def bounds (restrictions : Restrictions) : BoundKeyword → List Constraint
  | .range => restrictions.ranges
  | .length => restrictions.lengths

/-- Whether two lists of restrictions are equal, with bounds compared as numbers. -/
def same (a b : Restrictions) : Bool :=
  Constraint.sameList a.ranges b.ranges && Constraint.sameList a.lengths b.lengths &&
    a.patterns == b.patterns && a.fractionDigits == b.fractionDigits

end Restrictions

/-- The restrictions of a base, with those of one step so far. -/
structure Accumulator where
  base : Restrictions
  options : DerivationOptions
  ranges : Option (List Constraint)
  lengths : Option (List Constraint)
  patterns : List Pattern
  fractionDigits : Option Nat
deriving DecidableEq

namespace Accumulator

/-- A step that has not restricted anything yet. -/
def start (base : Restrictions) (options : DerivationOptions) : Accumulator :=
  ⟨base, options, none, none, [], none⟩

/-- The fraction digits in force: those of the base come first. -/
def effectiveDigits (acc : Accumulator) : Option Nat :=
  acc.base.fractionDigits <|> acc.fractionDigits

/-- The ranges or the lengths of the step so far. -/
def bounds (acc : Accumulator) : BoundKeyword → Option (List Constraint)
  | .range => acc.ranges
  | .length => acc.lengths

/-- Replaces the ranges or the lengths of the step. -/
def withBounds (acc : Accumulator) (bounds : Option (List Constraint)) : BoundKeyword → Accumulator
  | .range => { acc with ranges := bounds }
  | .length => { acc with lengths := bounds }

/-- Takes the range or the length of the step; there is at most one of each. -/
def setBounds (keyword : BoundKeyword) (acc : Accumulator) (candidate : List Constraint) :
    Except TypeFault Accumulator :=
  match acc.bounds keyword with
  | some _ => .error (.repeated keyword.toKeyword)
  | none =>
    (narrow keyword (acc.base.bounds keyword) candidate).map fun bounds =>
      acc.withBounds (some bounds) keyword

/-- Adds a pattern to those of the step and of the base. -/
def addPattern (acc : Accumulator) (pattern : Pattern) : Accumulator :=
  { acc with patterns := acc.patterns ++ [pattern] }

/-- Takes fraction digits. If the base has some, those stay in force. -/
def setFractionDigits (acc : Accumulator) (digits : Nat) : Except TypeFault Accumulator :=
  match acc.base.fractionDigits with
  | some base =>
    if base ≠ digits ∧ acc.options.strictFractionDigits then
      .error (.fractionDigitsConflict base digits)
    else .ok acc
  | none =>
    if ¬ ValidScale digits then .error (.invalidFractionDigits digits)
    else match acc.fractionDigits with
      | some _ => .error (.repeated .fractionDigits)
      | none => .ok { acc with fractionDigits := some digits }

/-- The restrictions after the step. -/
def finish (acc : Accumulator) : Restrictions :=
  ⟨acc.ranges.getD acc.base.ranges, acc.lengths.getD acc.base.lengths,
    acc.base.patterns ++ acc.patterns, acc.effectiveDigits⟩

end Accumulator

end YangTypes
