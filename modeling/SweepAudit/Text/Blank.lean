/-!
White space as the Unicode property `White_Space` has it, and trimming by it. The
zero-width characters U+200B and U+FEFF are not in it.
-/

namespace SweepAudit.Text

def blankRanges : List (Nat × Nat) :=
  [(0x9, 0xD), (0x20, 0x20), (0x85, 0x85), (0xA0, 0xA0), (0x1680, 0x1680), (0x2000, 0x200A),
    (0x2028, 0x2029), (0x202F, 0x202F), (0x205F, 0x205F), (0x3000, 0x3000)]

def isBlank (c : Char) : Bool :=
  blankRanges.any fun range => range.1 ≤ c.toNat && c.toNat ≤ range.2

def trimBy (inClass : Char → Bool) (cs : List Char) : List Char :=
  ((cs.dropWhile inClass).reverse.dropWhile inClass).reverse

def trim (s : String) : String := String.ofList (trimBy isBlank s.toList)

def isBlankText (s : String) : Bool := s.toList.all isBlank

def trimEnd (inClass : Char → Bool) (s : String) : String :=
  String.ofList (s.toList.reverse.dropWhile inClass).reverse

end SweepAudit.Text
