import YangTypes.Bound.Number

/-!
Closed intervals of numbers.
-/

namespace YangTypes

/-- The numbers from `low` to `high`, both included. -/
structure Interval where
  low : Number
  high : Number
deriving DecidableEq

namespace Interval

/-- Whether another interval lies within this one. -/
def encloses (a b : Interval) : Bool := a.low.le b.low && b.high.le a.high

/-- Whether a number lies in the interval. -/
def contains (a : Interval) (n : Number) : Bool := a.low.le n && n.le a.high

/-- Whether two intervals share a number. -/
def overlaps (a b : Interval) : Bool := a.low.le b.high && b.low.le a.high

/-- Whether two intervals have equal ends. -/
def numEq (a b : Interval) : Bool := a.low.numEq b.low && a.high.numEq b.high

/-- The text of an interval: one number if both ends are equal. -/
def text (a : Interval) : String :=
  if a.low.numEq a.high then a.low.text else a.low.text ++ ".." ++ a.high.text

end Interval

end YangTypes
