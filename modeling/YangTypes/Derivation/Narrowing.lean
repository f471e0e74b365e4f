import YangTypes.Derivation.Fault

/-!
Narrowing: when a list of intervals restricts another one.

Every interval has to be in order, no two may share a number, and each has to lie within one
interval of the base. The result is sorted by the lower ends.
-/

namespace YangTypes

/-- Puts a constraint among constraints that are sorted by their lower ends, highest first. -/
def insertByLow (c : Constraint) : List Constraint → List Constraint
  | [] => [c]
  | other :: rest =>
    if c.interval.low.order other.interval.low = .lt then other :: insertByLow c rest
    else c :: other :: rest

/-- Sorts constraints by their lower ends; equal ones keep their order. -/
def sortByLow (constraints : List Constraint) : List Constraint :=
  (constraints.foldl (fun sorted c => insertByLow c sorted) []).reverse

/-- The first two neighbours that share a number. -/
def overlapping? : List Constraint → Option (Interval × Interval)
  | a :: b :: rest =>
    if a.interval.overlaps b.interval then some (a.interval, b.interval)
    else overlapping? (b :: rest)
  | _ => none

/-- The candidate in order, if it narrows the base; an empty base is narrowed by the empty candidate
only. -/
def narrow (keyword : BoundKeyword) (base candidate : List Constraint) :
    Except TypeFault (List Constraint) :=
  match candidate.find? fun c => !c.interval.low.le c.interval.high with
  | some c => .error (.invalidBound (.reversed keyword c.interval))
  | none =>
    let sorted := sortByLow candidate
    match overlapping? sorted with
    | some (a, b) => .error (.invalidBound (.overlap keyword a b))
    | none =>
      match sorted.find? fun c => !base.any fun b => b.interval.encloses c.interval with
      | some c => .error (.notNarrower c.interval (base.map Constraint.interval))
      | none => .ok sorted

end YangTypes
