import YangTypes.Text.Blank
import YangTypes.Unsigned.Basic

/-!
Sharing of small unsigned integers.

The instances of the values below the cache size are made once and shared. A larger value is either
made afresh or taken from a table that shares it while somebody holds it.
-/

namespace YangTypes

/-- The cache size that holds unless a valid one is set. -/
def defaultCacheSize : Nat := 256

/-- Reads a natural number below `2 ^ 64`: at most a plus sign, then digits. -/
def readSize? (text : List Char) : Option Nat :=
  let digits := match text with
    | '+' :: digits => digits
    | digits => digits
  (Text.digitsValue? 10 digits).filter (· < twoPow 64)

/-- The cache size of a setting, at most `maxEntries`. A setting that is missing or no number
counts as the default. -/
def cacheSize (setting : Option String) (maxEntries : Nat) : Nat :=
  let size := (setting.bind fun raw => readSize? (Text.trimChars raw.toList)).getD defaultCacheSize
  min size maxEntries

/-- Where the instance of a value comes from. -/
inductive InstanceOrigin where
  /-- From the cache. -/
  | cache
  /-- From the table of values in use. -/
  | table
  /-- Made for this use. -/
  | fresh
deriving DecidableEq, Repr

namespace InstanceOrigin

/-- Whether two instances of one value, both in use, are the same. -/
def shares (a b : InstanceOrigin) : Bool := a == b && a != fresh

end InstanceOrigin

namespace Unsigned

variable {w : Width}

/-- The number of cached values of a width, unless set otherwise. -/
def cachedCount (w : Width) : Nat := cacheSize none (twoPow w.bits)

/-- Where a value comes from that is looked up in the cache only. -/
def cachedOrigin (u : Unsigned w) : InstanceOrigin :=
  if u.val < cachedCount w then .cache else .fresh

/-- Where a value comes from that is interned. -/
def internedOrigin (u : Unsigned w) : InstanceOrigin :=
  if u.val < cachedCount w then .cache else .table

end Unsigned

end YangTypes
