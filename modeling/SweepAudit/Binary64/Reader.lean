import SweepAudit.Binary64.Basic
import SweepAudit.Text.Digits

/-!
Reading doubles: digits with an optional point and exponent, rounded once to the
nearest double, and the names of infinity and of the number that is none.
-/

namespace SweepAudit.Binary64

/-- The double nearest to `± d * 10 ^ k`. Exponents far outside the range are decided without
computing the power. -/
def ofDecimal (negative : Bool) (d : Nat) (k : Int) : Binary64 :=
  let magnitude := (Nat.toDigits 10 d).length + k
  if d = 0 ∨ magnitude < -330 then .finite negative 0 (-1074)
  else if 330 < magnitude then .infinite negative
  else if 0 ≤ k then ofRatio negative (d * tenTo k.toNat) 1
  else ofRatio negative d (tenTo (-k).toNat)

/-- The exponent of a numeral: a mark, a sign if there is one, and digits. -/
def readExponent? : List Char → Option Int
  | [] => some 0
  | mark :: cs =>
    if mark == 'e' || mark == 'E' then
      match cs with
      | '-' :: d :: ds => (Text.numberFrom? 0 (d :: ds)).map fun n => -(n : Int)
      | '+' :: d :: ds => (Text.numberFrom? 0 (d :: ds)).map fun n => (n : Int)
      | d :: ds => (Text.numberFrom? 0 (d :: ds)).map fun n => (n : Int)
      | [] => none
    else none

/-- A numeral without its sign. At least one digit has to stand before or after the point. -/
def readNumeral? (negative : Bool) (cs : List Char) : Option Binary64 :=
  let whole := cs.takeWhile Text.isDigit
  let (fraction, rest) :=
    match cs.dropWhile Text.isDigit with
    | '.' :: r => (r.takeWhile Text.isDigit, r.dropWhile Text.isDigit)
    | r => ([], r)
  if whole.isEmpty && fraction.isEmpty then none
  else do
    let exponent ← readExponent? rest
    let d ← Text.numberFrom? 0 (whole ++ fraction)
    return ofDecimal negative d (exponent - fraction.length)

def readUnsigned? (negative : Bool) (cs : List Char) : Option Binary64 :=
  let word := String.ofList (cs.map Char.toLower)
  if word = "inf" ∨ word = "infinity" then some (.infinite negative)
  else if word = "nan" then some .nan
  else readNumeral? negative cs

def parse? : List Char → Option Binary64
  | '-' :: cs => readUnsigned? true cs
  | '+' :: cs => readUnsigned? false cs
  | cs => readUnsigned? false cs

end SweepAudit.Binary64
