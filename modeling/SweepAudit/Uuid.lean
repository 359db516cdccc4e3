import SweepAudit.Text.Digits

/-!
Identifiers of 128 bits, their usual text in five groups of hexadecimal digits, and
the spellings in which they are accepted.
-/

namespace SweepAudit

structure Uuid where
  bits : BitVec 128
  deriving DecidableEq

namespace Uuid

def hyphenated (digits : List Char) : List Char :=
  digits.take 8 ++ '-' :: ((digits.drop 8).take 4 ++ '-' :: ((digits.drop 12).take 4 ++
    '-' :: ((digits.drop 16).take 4 ++ '-' :: digits.drop 20)))

def text (u : Uuid) : String := String.ofList (hyphenated (Text.hexPlaces u.bits.toNat 32))

def hyphenPositions : List Nat := [8, 13, 18, 23]

/-- Whether the characters are hyphens where they have to be and hexadecimal digits elsewhere. -/
def hyphenatedFrom (position : Nat) : List Char → Bool
  | [] => position == 36
  | c :: cs =>
    (if position ∈ hyphenPositions then c == '-' else Text.isHexDigit c) &&
      hyphenatedFrom (position + 1) cs

def isHyphenated (cs : List Char) : Bool := hyphenatedFrom 0 cs

def isSimple (cs : List Char) : Bool := cs.length == 32 && cs.all Text.isHexDigit

def urn : List Char := "urn:uuid:".toList

/-- Whether a text names an identifier: the digits alone, the usual text, or the usual text in
braces or behind `urn:uuid:`. -/
def isAccepted (s : String) : Bool :=
  let cs := s.toList
  isSimple cs || isHyphenated cs ||
    (cs.head? == some '\x7b' && cs.getLast? == some '\x7d' &&
      isHyphenated ((cs.drop 1).dropLast)) ||
    ((cs.take 9).map Char.toLower == urn && isHyphenated (cs.drop 9))

end Uuid

end SweepAudit
