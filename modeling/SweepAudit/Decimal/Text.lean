import SweepAudit.Decimal.Basic

/-!
The two written forms of a decimal: `display` keeps the scale and so the zeros at
the end of the fraction, `canonical` has none and is the same for equal numbers.
Neither uses an exponent.
-/

namespace SweepAudit.Decimal

/-- The digits of a coefficient, with zeros in front so that one digit stands before the point. -/
def paddedDigits (coefficient scale : Nat) : List Char :=
  let digits := Nat.toDigits 10 coefficient
  List.replicate (scale + 1 - digits.length) '0' ++ digits

/-- Cuts the digits at the point; without a fraction there is none. -/
def pointed (digits : List Char) (scale : Nat) : List Char :=
  if scale = 0 then digits
  else digits.take (digits.length - scale) ++ '.' :: digits.drop (digits.length - scale)

def displayChars (x : Decimal) : List Char :=
  let body := pointed (paddedDigits x.coefficient x.scale) x.scale
  if x.negative then '-' :: body else body

def display (x : Decimal) : String := String.ofList x.displayChars

def canonical (x : Decimal) : String := x.normalize.display

end SweepAudit.Decimal
