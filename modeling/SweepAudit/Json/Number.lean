import SweepAudit.Binary64.Text

/-!
JSON numbers. A numeral without point and exponent that fits 64 bits is a whole
number; every other is a double, read by a short method: as many digits as fit 64
bits are kept, converted, and scaled by one power of ten. Each step rounds once, so
the last bit may differ from the nearest double.
-/

namespace SweepAudit.Json

inductive Number where
  | whole (n : Int)
  | float (x : Binary64)
  deriving DecidableEq, Repr

def Number.text : Number → String
  | .whole n => toString n
  | .float x => x.exponentText

/-- A numeral as it was written; the digits are decimal digits. -/
structure Numeral where
  negative : Bool
  whole : List Char
  fraction : List Char
  exponent : Int
  /-- Whether it has neither point nor exponent. -/
  plain : Bool
  deriving DecidableEq, Repr

namespace Numeral

/-- Takes in digits while the value fits 64 bits; the second part is what is left of them. -/
def absorb (value : Nat) : List Char → Nat × List Char
  | [] => (value, [])
  | c :: cs =>
    let next := value * 10 + (c.toNat - '0'.toNat)
    if next < twoTo 64 then absorb next cs else (value, c :: cs)

/-- Scales a double by a power of ten, by at most 308 places at a time. Nothing comes back when
the result is too large. -/
def scale (x : Binary64) (exponent : Int) : Option Binary64 :=
  if exponent < -308 then
    if x.isZero then some x else scale (x.div (.powerOfTen 308)) (exponent + 308)
  else if exponent < 0 then some (x.div (.powerOfTen (-exponent).toNat))
  else if exponent ≤ 308 then
    let y := x.mul (.powerOfTen exponent.toNat)
    if y.isInfinite then none else some y
  else if x.isZero then some x
  else none
termination_by (-exponent).toNat
decreasing_by omega

def toFloat (n : Numeral) : Option Binary64 :=
  let (value, excess) := absorb 0 n.whole
  let (value, unread) := absorb value n.fraction
  let places : Int := (n.fraction.length : Int) - unread.length
  (scale (.ofNat value) (excess.length - places + n.exponent)).map (.withSign n.negative)

def value (n : Numeral) : Option Number :=
  let (magnitude, excess) := absorb 0 n.whole
  if n.plain && excess.isEmpty && !n.negative then some (.whole magnitude)
  else if n.plain && excess.isEmpty && magnitude != 0 && magnitude ≤ twoTo 63 then
    some (.whole (-(magnitude : Int)))
  else n.toFloat.map .float

end Numeral

end SweepAudit.Json
