/-!
Reports on texts and numbers that are not values.

A `Violation` is what a reader of values reports about a text; a `ValueError` is the reason why a
value could not be constructed, of which a violation is one case.
-/

namespace YangTypes

/-- A report that a text is not a value, with an optional tag for the application. -/
structure Violation where
  appTag : Option String
  message : Option String
deriving DecidableEq, Repr

namespace Violation

/-- A violation with a message and no tag. -/
def ofMessage (message : String) : Violation :=
  ⟨none, some message⟩

/-- A violation with a tag and a message. -/
def tagged (appTag message : String) : Violation :=
  ⟨some appTag, some message⟩

/-- The text shown for a violation: its message, or else what is known of it. -/
def text : Violation → String
  | ⟨_, some message⟩ => message
  | ⟨some tag, none⟩ => "violation (" ++ tag ++ ")"
  | ⟨none, none⟩ => "invalid value"

end Violation

/-- Why a value could not be constructed. -/
inductive ValueError where
  /-- The text is not a value. -/
  | violation (report : Violation)
  /-- The number lies outside `low..high`. -/
  | outOfRange (value low high : Int)
  /-- A decimal has between 1 and 18 fraction digits. -/
  | scaleOutOfBounds (scale : Nat)
  /-- A radix lies between 2 and 36. -/
  | invalidRadix (radix : Nat)
  /-- The text does not have the form that the field asks for. -/
  | patternMismatch (field value : String)
deriving DecidableEq, Repr

namespace ValueError

/-- The wording of an error. -/
def message : ValueError → String
  | violation report => report.text
  | outOfRange value low high => s!"Invalid range: {value}, expected: [[{low}..{high}]]."
  | scaleOutOfBounds scale => s!"scale {scale} is outside of allowed range [1..18]"
  | invalidRadix radix => s!"radix {radix} is outside of allowed range [2..36]"
  | patternMismatch field value => field ++ " ('" ++ value ++ "') is not allowed"

/-- An error as a report on a text; a violation is the report itself. -/
def toViolation : ValueError → Violation
  | violation report => report
  | error => .ofMessage error.message

end ValueError

end YangTypes
