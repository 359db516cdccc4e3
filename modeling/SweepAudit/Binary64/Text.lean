import SweepAudit.Binary64.Basic

/-!
Doubles in decimal: the fewest digits that read back as the same double, and of
those the nearest. Two layouts use them, a positional one without an exponent and
one that turns to an exponent for very large and very small numbers. Where two
decimals are equally near, the first takes the upper and the second the even one.
-/

namespace SweepAudit.Binary64

def leadingDigit (num den : Nat) : Int :=
  if den ≤ num then ((Nat.toDigits 10 (num / den)).length : Int) - 1
  else
    let places := (Nat.toDigits 10 (den / num)).length
    if num * tenTo (places - 1) < den then -(places : Int) else 1 - (places : Int)

def decimalRatio (d : Nat) (k : Int) : Nat × Nat :=
  if 0 ≤ k then (d * tenTo k.toNat, 1) else (d, tenTo (-k).toNat)

def readsBack (x : Binary64) (d : Nat) (k : Int) : Bool :=
  let (num, den) := decimalRatio d k
  ofRatio false num den == x

/-- How a quotient is brought to the nearest whole number. -/
abbrev Round := Nat → Nat → Nat

/-- Of the two neighbours of `num / den` among the multiples of `10 ^ k`, the one that reads
back as `x`, the nearer one if both do. -/
def neighbour? (round : Round) (x : Binary64) (num den : Nat) (k : Int) : Option Nat :=
  let (p, q) := decimalRatio den k
  let below := num * q / p
  match readsBack x below k, readsBack x (below + 1) k with
  | true, true => some (round (num * q) p)
  | true, false => some below
  | false, true => some (below + 1)
  | false, false => none

def shortestFrom (round : Round) (x : Binary64) (num den : Nat) (k : Int) :
    (tries : Nat) → Nat × Int
  | 0 => (0, 0)
  | tries + 1 =>
    match neighbour? round x num den k with
    | some d => (d, k)
    | none => shortestFrom round x num den (k - 1) tries

def trimZeros (d : Nat) (k : Int) : (tries : Nat) → Nat × Int
  | 0 => (d, k)
  | tries + 1 => if d % 10 = 0 then trimZeros (d / 10) (k + 1) tries else (d, k)

/-- The shortest decimal `d * 10 ^ k` that reads back as the positive double `m * 2 ^ e`;
seventeen digits always suffice. -/
def shortest (round : Round) (m : Nat) (e : Int) : Nat × Int :=
  let (num, den) := ratio m e
  let (d, k) := shortestFrom round (.finite false m e) num den (leadingDigit num den) 17
  trimZeros d k 17

/-- Digits laid out without an exponent; `point` is where the point falls among them. -/
def positional (digits : List Char) (point : Int) (whole : List Char) : List Char :=
  if point ≤ 0 then '0' :: '.' :: (List.replicate (-point).toNat '0' ++ digits)
  else if digits.length ≤ point.toNat then
    digits ++ List.replicate (point.toNat - digits.length) '0' ++ whole
  else digits.take point.toNat ++ '.' :: digits.drop point.toNat

def scientific (digits : List Char) (exponent : Int) : List Char :=
  let mantissa :=
    match digits with
    | [] => []
    | [d] => [d]
    | d :: ds => d :: '.' :: ds
  let sign := if exponent < 0 then '-' else '+'
  mantissa ++ 'e' :: sign :: Nat.toDigits 10 exponent.natAbs

/-- With an exponent below `10 ^ -5` and from `10 ^ 16` on, else with a point and a digit on
either side of it. -/
def exponentText (x : Binary64) : String :=
  match x with
  | .nan | .infinite _ => "null"
  | .finite negative m e =>
    let body :=
      if m = 0 then ['0', '.', '0']
      else
        let (d, k) := shortest roundHalfEven m e
        let digits := Nat.toDigits 10 d
        let point := k + digits.length
        if -5 < point ∧ point ≤ 16 then positional digits point ['.', '0']
        else scientific digits (point - 1)
    String.ofList (if negative then '-' :: body else body)

def plainText (x : Binary64) : String :=
  match x with
  | .nan => "NaN"
  | .infinite negative => if negative then "-inf" else "inf"
  | .finite negative m e =>
    let body :=
      if m = 0 then ['0']
      else
        let (d, k) := shortest roundHalfUp m e
        let digits := Nat.toDigits 10 d
        positional digits (k + digits.length) []
    String.ofList (if negative then '-' :: body else body)

end SweepAudit.Binary64
