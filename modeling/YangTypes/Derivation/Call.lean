import YangTypes.Derivation.Accumulator

/-!
Calls on an accumulator that is changed in place.

A call may fail, and whatever it has written before it fails stays written; the next call is carried
out on what this one has left.
-/

namespace YangTypes

/-- A call that adds to the restrictions of a step. -/
inductive AccumulatorCall where
  | setRanges (candidate : List Constraint)
  | setLengths (candidate : List Constraint)
  | addPattern (pattern : Pattern)
  | setFractionDigits (digits : Nat)
deriving DecidableEq

namespace AccumulatorCall

/-- What a call that takes a range or a length does to the accumulator, step by step. -/
def takeBounds (keyword : BoundKeyword) (candidate : List Constraint) :
    ExceptT TypeFault (StateM Accumulator) Unit := do
  if ((← get).bounds keyword).isSome then throw (.repeated keyword.toKeyword)
  let bounds ← liftExcept (narrow keyword ((← get).base.bounds keyword) candidate)
  modify fun acc => acc.withBounds (some bounds) keyword

/-- What a call does to the accumulator, step by step. -/
def procedure : AccumulatorCall → ExceptT TypeFault (StateM Accumulator) Unit
  | setRanges candidate => takeBounds .range candidate
  | setLengths candidate => takeBounds .length candidate
  | addPattern pattern => modify fun acc => { acc with patterns := acc.patterns ++ [pattern] }
  | setFractionDigits digits => do
    match (← get).base.fractionDigits with
    | some base =>
      -- the digits of the base stay in force, so there is nothing to write
      if base ≠ digits ∧ (← get).options.strictFractionDigits then
        throw (.fractionDigitsConflict base digits)
    | none =>
      if ¬ ValidScale digits then throw (.invalidFractionDigits digits)
      if (← get).fractionDigits.isSome then throw (.repeated .fractionDigits)
      modify fun acc => { acc with fractionDigits := some digits }

/-- Carries out a call: whether it fails, and the accumulator that it leaves. -/
def perform (call : AccumulatorCall) (acc : Accumulator) : Except TypeFault Unit × Accumulator :=
  call.procedure.run.run acc

/-- Carries out calls one after the other, whether or not they fail. -/
def performAll : List AccumulatorCall → Accumulator → List (Except TypeFault Unit) × Accumulator
  | [], acc => ([], acc)
  | call :: calls, acc =>
    let (answer, acc) := call.perform acc
    let (answers, acc) := performAll calls acc
    (answer :: answers, acc)

end AccumulatorCall

end YangTypes
