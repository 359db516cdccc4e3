import SweepAudit.Power
import SweepAudit.Text.Digits
import SweepAudit.Text.Split

/-!
Addresses of 32 bits. They are written as up to four numbers with points between them,
of which the last fills all places that are left; a number may be octal or hexadecimal.
In their usual form they have four decimal numbers.
-/

namespace SweepAudit.Http.Ipv4

def valueIn? (base : Nat) (cs : List Char) : Option Nat :=
  cs.foldlM
    (fun n c => (Text.hexValue? c).bind fun d => if d < base then some (base * n + d) else none) 0

def number? : List Char → Option Nat
  | [] => none
  | '0' :: 'x' :: cs | '0' :: 'X' :: cs => valueIn? 16 cs
  | '0' :: c :: cs => valueIn? 8 (c :: cs)
  | cs => valueIn? 10 cs

def parts (name : List Char) : List (List Char) :=
  let all := Text.splitBy (· == '.') name
  if all.getLast? = some [] then all.dropLast else all

/-- Whether a name is meant as an address: its last part looks like a number. -/
def isMeant (name : List Char) : Bool :=
  match (parts name).getLast? with
  | none | some [] => false
  | some part => part.all Text.isDigit || (number? part).isSome

def combine? (value places : Nat) : List Nat → Option Nat
  | [] => none
  | [last] => if last < twoTo (8 * places) then some (value * twoTo (8 * places) + last) else none
  | n :: numbers =>
    if n < 256 ∧ 1 < places then combine? (256 * value + n) (places - 1) numbers else none

def read? (name : List Char) : Option (BitVec 32) := do
  let numbers ← (parts name).mapM number?
  return BitVec.ofNat 32 (← combine? 0 4 numbers)

def text (address : BitVec 32) : List Char :=
  let n := address.toNat
  ['.'].intercalate
    ([n / twoTo 24, n / twoTo 16 % 256, n / twoTo 8 % 256, n % 256].map (Nat.toDigits 10))

end SweepAudit.Http.Ipv4
