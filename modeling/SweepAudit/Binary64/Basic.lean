import SweepAudit.Power
import SweepAudit.Rounding

/-!
Double-precision numbers as exact integers: a mantissa below 2^53 times a power of
two. Every operation computes its exact ratio and rounds it once, a half to even, so
that nothing here rests on the machine's arithmetic.
-/

namespace SweepAudit

inductive Binary64 where
  /-- The number `± mantissa * 2 ^ exponent`. -/
  | finite (negative : Bool) (mantissa : Nat) (exponent : Int)
  | infinite (negative : Bool)
  | nan
  deriving DecidableEq, Repr

namespace Binary64

def ratio (m : Nat) (e : Int) : Nat × Nat :=
  if 0 ≤ e then (m * twoTo e.toNat, 1) else (m, twoTo (-e).toNat)

def leadingBit (num den : Nat) : Int :=
  let guess := (num.log2 : Int) - den.log2
  let (p, q) := ratio den guess
  if p ≤ num * q then guess else guess - 1

def ofRatio (negative : Bool) (num den : Nat) : Binary64 :=
  if num = 0 then .finite negative 0 (-1074)
  else
    let e := max (leadingBit num den - 52) (-1074)
    let (unit, parts) := ratio den e
    let m := roundHalfEven (num * parts) unit
    let (m, e) := if m = twoTo 53 then (twoTo 52, e + 1) else (m, e)
    if 971 < e then .infinite negative else .finite negative m e

def ofNat (n : Nat) : Binary64 := ofRatio false n 1

def isInfinite : Binary64 → Bool
  | .infinite _ => true
  | _ => false

def isZero : Binary64 → Bool
  | .finite _ m _ => m == 0
  | _ => false

def withSign (negative : Bool) : Binary64 → Binary64
  | .finite _ m e => .finite negative m e
  | .infinite _ => .infinite negative
  | .nan => .nan

def powerOfTen (n : Nat) : Binary64 := ofNat (tenTo n)

def mul (x y : Binary64) : Binary64 :=
  match x, y with
  | .finite _ m e, .finite _ m' e' =>
    let (num, den) := ratio (m * m') (e + e')
    ofRatio false num den
  | _, _ => .nan

def div (x y : Binary64) : Binary64 :=
  match x, y with
  | .finite _ m e, .finite _ m' e' =>
    let (num, den) := ratio m (e - e')
    ofRatio false num (den * m')
  | _, _ => .nan

/-- The nearest whole number, a half away from zero, brought into the range from 0 to `top`.
What is not a number becomes 0. -/
def toNatUpTo (top : Nat) : Binary64 → Nat
  | .finite true _ _ | .infinite true | .nan => 0
  | .infinite false => top
  | .finite false m e =>
    let (num, den) := ratio m e
    min top (roundHalfUp num den)

end Binary64

end SweepAudit
