import SweepAudit.Decimal.Arithmetic

/-!
Arithmetic that must not overflow. Where a computation has no answer for a result that
is too large, the overflow ends it, and this is its only outcome besides a value.
-/

namespace SweepAudit

inductive Overflow where
  | addition
  | subtraction
  | multiplication
  deriving DecidableEq

def Overflow.message : Overflow → String
  | .addition => "Addition overflowed"
  | .subtraction => "Subtraction overflowed"
  | .multiplication => "Multiplication overflowed"

namespace Decimal

def orOverflow (cause : Overflow) : Option Decimal → Except Overflow Decimal
  | some x => .ok x
  | none => .error cause

def add (x y : Decimal) : Except Overflow Decimal := orOverflow .addition (x.add? y)

def sub (x y : Decimal) : Except Overflow Decimal := orOverflow .subtraction (x.sub? y)

def mul (x y : Decimal) : Except Overflow Decimal := orOverflow .multiplication (x.mul? y)

def sum (xs : List Decimal) : Except Overflow Decimal := xs.foldlM add zero

end Decimal

end SweepAudit
