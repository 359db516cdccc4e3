/-!
Small letters, as far as comparing with ASCII words needs them.
-/

namespace SweepAudit.Text

/-- The small form of a letter of ASCII; any other character is kept. -/
def lowerAscii (c : Char) : Char :=
  if 'A' ≤ c ∧ c ≤ 'Z' then Char.ofNat (c.toNat + 32) else c

/-- The small form of a character, if that is in ASCII. U+212A KELVIN SIGN is the one character
outside ASCII for which this is so. -/
def lowerToAscii (c : Char) : Char := if c = '\u212a' then 'k' else lowerAscii c

def sameLetters (a b : String) : Bool := a.toList.map lowerAscii == b.toList.map lowerAscii

def lowered (s : String) : String := String.ofList (s.toList.map lowerToAscii)

end SweepAudit.Text
