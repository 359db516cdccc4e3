/-!
Numerals: reading decimal and hexadecimal digits, and writing hexadecimal ones at a
fixed width.
-/

namespace SweepAudit.Text

def digitValue? (c : Char) : Option Nat :=
  if '0' ≤ c ∧ c ≤ '9' then some (c.toNat - '0'.toNat) else none

def isDigit (c : Char) : Bool := (digitValue? c).isSome

def hexValue? (c : Char) : Option Nat :=
  if '0' ≤ c ∧ c ≤ '9' then some (c.toNat - '0'.toNat)
  else if 'a' ≤ c ∧ c ≤ 'f' then some (c.toNat - 'a'.toNat + 10)
  else if 'A' ≤ c ∧ c ≤ 'F' then some (c.toNat - 'A'.toNat + 10)
  else none

def isHexDigit (c : Char) : Bool := (hexValue? c).isSome

def numberFrom? (value : Nat) : List Char → Option Nat
  | [] => some value
  | c :: cs => (digitValue? c).bind fun d => numberFrom? (value * 10 + d) cs

/-- Why a text is not a whole number of a given width. -/
inductive IntegerError where
  | empty
  | invalidDigit
  | tooLarge
  | tooSmall
  deriving DecidableEq

def IntegerError.message : IntegerError → String
  | .empty => "cannot parse integer from empty string"
  | .invalidDigit => "invalid digit found in string"
  | .tooLarge => "number too large to fit in target type"
  | .tooSmall => "number too small to fit in target type"

/-- Digits read one by one up to a number below `bound`, so that the first fault in the text is
the one reported; `beyond` is the report of a number that is not below it. -/
def magnitudeFrom (beyond : IntegerError) (bound value : Nat) :
    List Char → Except IntegerError Nat
  | [] => .ok value
  | c :: cs =>
    match digitValue? c with
    | none => .error .invalidDigit
    | some d =>
      if value * 10 + d < bound then magnitudeFrom beyond bound (value * 10 + d) cs
      else .error beyond

/-- An unsigned number below `bound`: digits, after one `+` if there is any. -/
def parseUnsigned (bound : Nat) : List Char → Except IntegerError Nat
  | [] => .error .empty
  | ['+'] => .error .invalidDigit
  | '+' :: cs => magnitudeFrom .tooLarge bound 0 cs
  | cs => magnitudeFrom .tooLarge bound 0 cs

/-- A number from `-bound` up to `bound`, itself not included: digits, after a sign if there is
any. -/
def parseSigned (bound : Nat) : List Char → Except IntegerError Int
  | [] => .error .empty
  | ['+'] | ['-'] => .error .invalidDigit
  | '+' :: cs => (magnitudeFrom .tooLarge bound 0 cs).map Int.ofNat
  | '-' :: cs => (magnitudeFrom .tooSmall (bound + 1) 0 cs).map fun n => -(n : Int)
  | cs => (magnitudeFrom .tooLarge bound 0 cs).map Int.ofNat

def hexPlaces (n : Nat) : (width : Nat) → List Char
  | 0 => []
  | width + 1 => hexPlaces (n / 16) width ++ [Nat.digitChar (n % 16)]

/-- A number in hexadecimal with zeros in front up to `width`, and all its digits if it has more. -/
def hexPadded (width n : Nat) : List Char :=
  let digits := Nat.toDigits 16 n
  List.replicate (width - digits.length) '0' ++ digits

end SweepAudit.Text
