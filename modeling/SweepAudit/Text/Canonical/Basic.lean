import SweepAudit.Text.Canonical.Order
import SweepAudit.Text.Canonical.Pairs

/-!
The composed form of a text, which is the same for all its spellings: characters are
taken apart, the marks on each are put in order, and what has a character of its own is
put together again.
-/

namespace SweepAudit.Text

/-! Syllables of Hangul. Each of 19 leads with each of 21 vowels has a block of its own, which
begins with the syllable without a tail, and in which those with each of 27 tails follow. -/

namespace Hangul

def firstLead : Nat := 0x1100

def firstVowel : Nat := 0x1161

def noTail : Nat := 0x11A7

def firstSyllable : Nat := 0xAC00

def syllables : Nat := 19 * 21 * 28

def letters? (n : Nat) : Option (List Char) :=
  if firstSyllable ≤ n ∧ n < firstSyllable + syllables then
    let place := n - firstSyllable
    let lead := Char.ofNat (firstLead + place / (21 * 28))
    let vowel := Char.ofNat (firstVowel + place % (21 * 28) / 28)
    let tail := place % 28
    some (if tail = 0 then [lead, vowel] else [lead, vowel, Char.ofNat (noTail + tail)])
  else none

def join? (a b : Nat) : Option Char :=
  if firstLead ≤ a ∧ a < firstLead + 19 ∧ firstVowel ≤ b ∧ b < firstVowel + 21 then
    some (Char.ofNat (firstSyllable + ((a - firstLead) * 21 + (b - firstVowel)) * 28))
  else if firstSyllable ≤ a ∧ a < firstSyllable + syllables ∧ (a - firstSyllable) % 28 = 0 ∧
      noTail < b ∧ b < noTail + 28 then
    some (Char.ofNat (a + (b - noTail)))
  else none

end Hangul

def maxMarks : Nat := 4

def takeApart (c : Char) : (tries : Nat) → List Char
  | 0 => [c]
  | tries + 1 =>
    match Hangul.letters? c.toNat with
    | some letters => letters
    | none =>
      match pairs.target? c with
      | some (base :: marks) => takeApart base tries ++ marks
      | _ => [c]

/-- Puts a character behind others, which are given from the last to the first; a mark goes in
front of marks of a higher class. -/
def settleMark (c : Char) : List Char → List Char
  | [] => [c]
  | d :: before =>
    if orderOf c ≠ 0 ∧ orderOf c < orderOf d then d :: settleMark c before
    else c :: d :: before

def decomposed (cs : List Char) : List Char :=
  let parts := cs.flatMap fun c => takeApart c maxMarks
  (parts.foldl (fun before c => settleMark c before) []).reverse

def join? (a b : Char) : Option Char :=
  match Hangul.join? a.toNat b.toNat with
  | some c => some c
  | none => pairs.source? [a, b]

/-- Whether marks, given from the last to the first, let a character reach the one below them. -/
def reaches (marks : List Char) (c : Char) : Bool :=
  match marks with
  | [] => true
  | mark :: _ => orderOf mark < orderOf c

/-- Puts together a character with the marks on it that are given from the last to the first and
with what follows. -/
def joinFrom (base : Char) (marks : List Char) : List Char → List Char
  | [] => base :: marks.reverse
  | c :: cs =>
    match if reaches marks c then join? base c else none with
    | some joined => joinFrom joined marks cs
    | none =>
      if orderOf c = 0 then base :: (marks.reverse ++ joinFrom c [] cs)
      else joinFrom base (c :: marks) cs

def composed (cs : List Char) : List Char :=
  match decomposed cs with
  | [] => []
  | c :: cs => joinFrom c [] cs

end SweepAudit.Text
