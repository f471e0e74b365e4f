import YangTypes.Decimal.Rounding
import YangTypes.Json.Record
import YangTypes.Unsigned.Basic

/-!
Numbers in JSON: they are texts, so that no digit is lost.
-/

namespace YangTypes

open Json (Tree ReadError)

/-- Reads a decimal. -/
def Decimal.ofJson : Tree → Except ReadError Decimal := Tree.asWritten Decimal.parse

/-- Reads an unsigned integer. -/
def Unsigned.ofJson (w : Width) : Tree → Except ReadError (Unsigned w) :=
  Tree.asWritten (Unsigned.parse w)

/-- Reads a rounding mode. -/
def RoundingMode.ofJson : Tree → Except ReadError RoundingMode :=
  Tree.asChoice false RoundingMode.ofName?

end YangTypes
