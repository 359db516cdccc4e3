import SweepAudit.Decimal.Rounding

/-!
Sum, difference, product and quotient of decimals. Each is exact where the result
fits and is rounded to the width of a decimal where it does not; `none` means that
the whole part of the result is too large. The scale of a result is part of its
meaning here, because it shows when the number is printed.
-/

namespace SweepAudit.Decimal

/-- The sum, at the larger of the two scales. Adding to a zero leaves the other operand as
it was written. -/
def add? (x y : Decimal) : Option Decimal :=
  if x.isZero then some y
  else if y.isZero then some x
  else
    let scale := max x.scale y.scale
    let total := x.signed * tenTo (scale - x.scale) + y.signed * tenTo (scale - y.scale)
    fit (total < 0) total.natAbs scale

def sub? (x y : Decimal) : Option Decimal := add? x y.neg

/-- The product. Two coefficients of at most 32 bits whose scales sum to more than 47 give
zero, since their product lies far below the last place. -/
def mul? (x y : Decimal) : Option Decimal :=
  if x.isZero || y.isZero then some zero
  else if x.coefficient < twoTo 32 ∧ y.coefficient < twoTo 32 ∧ 47 < x.scale + y.scale then
    some zero
  else fit (x.negative ^^ y.negative) (x.coefficient * y.coefficient) (x.scale + y.scale)

/-! Long division carries the quotient on by up to nine places at a time. -/

def growth (q : Nat) : (bound : Nat) → Nat
  | 0 => 0
  | bound + 1 => if q * tenTo (bound + 1) < twoTo 96 then bound + 1 else growth q bound

/-- A quotient that has outgrown 96 bits, with its last digit rounded away; `sticky` tells
that something nonzero follows that digit. -/
def unscale (q : Nat) (scale : Int) (sticky : Bool) : Option (Nat × Int) :=
  if scale < 1 then none
  else if 5 < q % 10 ∨ (q % 10 = 5 ∧ (sticky ∨ q / 10 % 2 = 1)) then some (q / 10 + 1, scale - 1)
  else some (q / 10, scale - 1)

def finish (d q r : Nat) (scale : Int) : Option (Nat × Int) :=
  let rounded := if d < 2 * r ∨ (2 * r = d ∧ q % 2 = 1) then q + 1 else q
  if rounded < twoTo 96 then some (rounded, scale) else unscale rounded scale false

def divide (d q r : Nat) (scale : Int) : Option (Nat × Int) :=
  if r = 0 ∧ 0 ≤ scale then some (q, scale)
  else
    let places := if r = 0 then min 9 (-scale).toNat else growth q (min 9 (28 - scale).toNat)
    if _h : 0 < places ∧ scale < 28 then
      if twoTo 96 ≤ q * tenTo places then none
      else
        let q' := q * tenTo places + r * tenTo places / d
        let r' := r * tenTo places % d
        if q' < twoTo 96 then divide d q' r' (scale + places)
        else unscale q' (scale + places) (r' != 0)
    else if scale < 0 then none
    else finish d q r scale
termination_by (28 - scale).toNat
decreasing_by omega

def stripEights (q scale : Nat) : Nat × Nat :=
  if q % twoTo 32 = 0 ∧ 8 ≤ scale ∧ q % tenTo 8 = 0 then stripEights (q / tenTo 8) (scale - 8)
  else (q, scale)
termination_by scale
decreasing_by omega

def stripPlaces (places : Nat) (q : Nat × Nat) : Nat × Nat :=
  if q.1 % twoTo places = 0 ∧ places ≤ q.2 ∧ q.1 % tenTo places = 0 then
    (q.1 / tenTo places, q.2 - places)
  else q

/-- The zeros at the end of an inexact quotient go in strides of eight, then of four, two and
one, each of the last three at most once. -/
def stripInexact (q scale : Nat) : Nat × Nat :=
  stripPlaces 1 (stripPlaces 2 (stripPlaces 4 (stripEights q scale)))

/-- The quotient; `none` also for a zero divisor. A quotient that ends at the scale of the
operands keeps its zeros, one that had to be carried on does not. -/
def div? (x y : Decimal) : Option Decimal :=
  if y.isZero then none
  else if x.isZero then some zero
  else
    let q := x.coefficient / y.coefficient
    let r := x.coefficient % y.coefficient
    match divide y.coefficient q r ((x.scale : Int) - y.scale) with
    | none => none
    | some (q', scale) =>
      let parts := if r = 0 then (q', scale.toNat) else stripInexact q' scale.toNat
      ofParts? ((x.negative ^^ y.negative) && parts.1 != 0) parts.1 parts.2

end SweepAudit.Decimal
