import SweepAudit.Text.Digits

/-!
Percent escapes: `%` and two hexadecimal digits stand for a byte, and runs of bytes
for the characters of which they are the UTF-8 form. A `%` that no two digits follow
stands for itself.
-/

namespace SweepAudit.Text

/-- What stands at one place of a text with escapes. -/
inductive PercentUnit where
  | char (c : Char)
  | byte (b : UInt8)
  deriving DecidableEq

def PercentUnit.bytes : PercentUnit → List UInt8
  | .char c => String.utf8EncodeChar c
  | .byte b => [b]

def percentUnits : List Char → List PercentUnit
  | '%' :: a :: b :: cs =>
    match hexValue? a, hexValue? b with
    | some high, some low => .byte (UInt8.ofNat (16 * high + low)) :: percentUnits cs
    | _, _ => .char '%' :: percentUnits (a :: b :: cs)
  | c :: cs => .char c :: percentUnits cs
  | [] => []
termination_by cs => cs.length

def percentBytes (cs : List Char) : ByteArray :=
  ⟨((percentUnits cs).flatMap (·.bytes)).toArray⟩

def percentDecode? (cs : List Char) : Option (List Char) :=
  (percentBytes cs).utf8Decode?.map Array.toList

/-- The characters from a position in the bytes on. A byte with which no character begins is
read as U+FFFD. -/
def charsFrom (bytes : ByteArray) (position : Nat) : List Char :=
  if position < bytes.size then
    match bytes.utf8DecodeChar? position with
    | some c => c :: charsFrom bytes (position + c.utf8Size)
    | none => '\ufffd' :: charsFrom bytes (position + 1)
  else []
termination_by bytes.size - position
decreasing_by
  · have := c.utf8Size_pos
    omega
  · omega

def percentDecode (cs : List Char) : List Char := charsFrom (percentBytes cs) 0

def hexDigitUpper (n : Nat) : Char := (Nat.digitChar n).toUpper

def percentEscape (c : Char) : List Char :=
  (String.utf8EncodeChar c).flatMap fun b =>
    ['%', hexDigitUpper (b.toNat / 16), hexDigitUpper (b.toNat % 16)]

def percentEncode (keeps : Char → Bool) (cs : List Char) : List Char :=
  cs.flatMap fun c => if keeps c then [c] else percentEscape c

end SweepAudit.Text
