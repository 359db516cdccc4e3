import SweepAudit.Json.Node

/-!
Reading JSON text into a tree: blanks, words, numerals and strings first, containers
after them. Reading never fails; what cannot be read is a broken place in the tree,
and nothing behind it is looked at.
-/

namespace SweepAudit.Json

def isSpace (c : Char) : Bool := c == ' ' || c == '\n' || c == '\t' || c == '\r'

def skipSpaces (cs : List Char) : List Char := cs.dropWhile isSpace

/-- A tree and the text behind it; nothing of the text is left once it has broken off. -/
structure Reading where
  node : Node
  rest : Option (List Char)

def Reading.broken (flaw : Flaw) : Reading := ⟨.broken flaw, none⟩

def readWord (node : Node) : List Char → List Char → Reading
  | [], cs => ⟨node, some cs⟩
  | _ :: _, [] => .broken .ended
  | w :: ws, c :: cs => if w == c then readWord node ws cs else .broken .malformed

/-! Numerals -/

/-- A part of a numeral that needs a digit and has none here. A reader that skips does not
tell the end of the text from any other character. -/
def missingDigit : List Char → Flaw
  | [] => ⟨.ended, .malformed⟩
  | _ :: _ => .malformed

def readDigits (cs : List Char) : Except Flaw (List Char × List Char) :=
  match cs.takeWhile Text.isDigit with
  | [] => .error (missingDigit cs)
  | digits => .ok (digits, cs.dropWhile Text.isDigit)

def readWhole (cs : List Char) : Except Flaw (List Char × List Char) :=
  match cs with
  | '0' :: rest =>
    match rest with
    | [] => .ok (['0'], [])
    | c :: _ => if Text.isDigit c then .error .malformed else .ok (['0'], rest)
  | cs => readDigits cs

def readFraction (cs : List Char) : Except Flaw (List Char × List Char) :=
  match cs with
  | '.' :: rest => readDigits rest
  | cs => .ok ([], cs)

def exponentValue (digits : List Char) : Nat := (Text.numberFrom? 0 digits).getD 0

def readExponent (cs : List Char) : Except Flaw (Option Int × List Char) :=
  match cs with
  | mark :: rest =>
    if mark == 'e' || mark == 'E' then
      match rest with
      | '-' :: rest => do
        let (digits, rest) ← readDigits rest
        return (some (-(exponentValue digits : Int)), rest)
      | '+' :: rest => do
        let (digits, rest) ← readDigits rest
        return (some (exponentValue digits : Int), rest)
      | rest => do
        let (digits, rest) ← readDigits rest
        return (some (exponentValue digits : Int), rest)
    else .ok (none, mark :: rest)
  | [] => .ok (none, [])

def readNumeral (negative : Bool) (cs : List Char) : Except Flaw (Numeral × List Char) := do
  let (whole, afterWhole) ← readWhole cs
  let (fraction, afterFraction) ← readFraction afterWhole
  let (exponent, rest) ← readExponent afterFraction
  return (⟨negative, whole, fraction, exponent.getD 0, fraction.isEmpty && exponent.isNone⟩, rest)

def readNumber (negative : Bool) (cs : List Char) : Reading :=
  match readNumeral negative cs with
  | .ok (numeral, rest) => ⟨.number numeral.value, some rest⟩
  | .error flaw => .broken flaw

/-! Strings -/

def codeUnit? (a b c d : Char) : Option Nat := do
  let w ← Text.hexValue? a
  let x ← Text.hexValue? b
  let y ← Text.hexValue? c
  let z ← Text.hexValue? d
  return ((w * 16 + x) * 16 + y) * 16 + z

/-- The first four characters as a code unit. A text of fewer than four bytes has ended,
whatever is in it. -/
def readCodeUnit (cs : List Char) : Except Fault (Nat × List Char) :=
  if (String.ofList (cs.take 4)).utf8ByteSize < 4 then .error .ended
  else
    match cs with
    | a :: b :: c :: d :: rest =>
      match codeUnit? a b c d with
      | some n => .ok (n, rest)
      | none => .error .malformed
    | _ => .error .malformed

/-- What an escape stands for: a character, half of a pair that has no other half here, or
something that can only be told further on. -/
inductive Escape where
  | char (c : Char) (rest : List Char)
  | lone (rest : List Char)
  | fault (f : Fault)

def isLeading (n : Nat) : Bool := 0xD800 ≤ n && n ≤ 0xDBFF

def isTrailing (n : Nat) : Bool := 0xDC00 ≤ n && n ≤ 0xDFFF

def readPair (leading : Nat) (rest : List Char) : Escape :=
  match rest with
  | [] => .fault .ended
  | ['\\'] => .fault .ended
  | '\\' :: 'u' :: second =>
    match readCodeUnit second with
    | .error f => .fault f
    | .ok (trailing, rest') =>
      if isTrailing trailing then
        .char (Char.ofNat ((leading - 0xD800) * 0x400 + (trailing - 0xDC00) + 0x10000)) rest'
      else .lone rest
  | _ => .lone rest

def readEscape : List Char → Escape
  | [] => .fault .ended
  | '"' :: rest => .char '"' rest
  | '\\' :: rest => .char '\\' rest
  | '/' :: rest => .char '/' rest
  | 'b' :: rest => .char '\x08' rest
  | 'f' :: rest => .char '\x0c' rest
  | 'n' :: rest => .char '\x0a' rest
  | 'r' :: rest => .char '\x0d' rest
  | 't' :: rest => .char '\x09' rest
  | 'u' :: rest =>
    match readCodeUnit rest with
    | .error f => .fault f
    | .ok (n, rest) =>
      if isTrailing n then .lone rest
      else if isLeading n then readPair n rest
      else .char (Char.ofNat n) rest
  | _ :: _ => .fault .malformed

/-- A string read up to its closing quote, or broken before it. -/
inductive StringReading where
  | closed (content : Option (List Char)) (rest : List Char)
  | broken (flaw : Flaw)

def StringReading.prepend (c : Char) : StringReading → StringReading
  | .closed content rest => .closed (content.map (c :: ·)) rest
  | .broken flaw => .broken flaw

def StringReading.void : StringReading → StringReading
  | .closed _ rest => .closed none rest
  | .broken flaw => .broken ⟨.malformed, flaw.skipped⟩

/-- The string behind an opening quote. Every step takes at least one character, so that any
`fuel` above the length of the text is enough. -/
def readString : (fuel : Nat) → List Char → StringReading
  | 0, _ => .broken .ended
  | _ + 1, [] => .broken .ended
  | fuel + 1, c :: cs =>
    if c == '"' then .closed (some []) cs
    else if c == '\\' then
      match readEscape cs with
      | .char d rest => (readString fuel rest).prepend d
      | .lone rest => (readString fuel rest).void
      | .fault f => .broken ⟨f, f⟩
    else if c.toNat < 0x20 then .broken .malformed
    else (readString fuel cs).prepend c

/-! Values -/

/-- How the members of a container go on behind one of them. -/
inductive Continuation where
  | another (rest : List Char)
  | closed (rest : List Char)
  | broken (flaw : Flaw)

/-- Behind a member: a comma and whatever follows it, or the closing bracket. -/
def readContinuation (close : Char) (cs : List Char) : Continuation :=
  match skipSpaces cs with
  | [] => .broken .ended
  | c :: rest =>
    if c == ',' then .another (skipSpaces rest)
    else if c == close then .closed rest
    else .broken .malformed

mutual

/-- The value at the front of the text. Each call takes a character or belongs to one that
does, so twice the length of the text is `fuel` enough, and it never falls short of what is
left of the text. -/
def readValue : (fuel : Nat) → List Char → Reading
  | 0, _ => .broken .ended
  | fuel + 1, cs =>
    match skipSpaces cs with
    | [] => .broken .ended
    | 'n' :: rest => readWord .null ['u', 'l', 'l'] rest
    | 't' :: rest => readWord (.bool true) ['r', 'u', 'e'] rest
    | 'f' :: rest => readWord (.bool false) ['a', 'l', 's', 'e'] rest
    | '-' :: rest => readNumber true rest
    | '"' :: rest =>
      match readString fuel rest with
      | .closed content rest => ⟨.string (content.map String.ofList), some rest⟩
      | .broken flaw => .broken flaw
    | '[' :: rest =>
      match skipSpaces rest with
      | [] => ⟨.array [] (some .ended), none⟩
      | ']' :: rest => ⟨.array [] none, some rest⟩
      | rest =>
        let (items, flaw, rest) := readItems fuel rest
        ⟨.array items flaw, rest⟩
    | '\x7b' :: rest =>
      match skipSpaces rest with
      | [] => ⟨.object [] (some .ended), none⟩
      | '\x7d' :: rest => ⟨.object [] none, some rest⟩
      | rest =>
        let (members, flaw, rest) := readMembers fuel rest
        ⟨.object members flaw, rest⟩
    | c :: rest => if Text.isDigit c then readNumber false (c :: rest) else .broken .malformed

def readItems : (fuel : Nat) → List Char → List Node × Option Flaw × Option (List Char)
  | 0, _ => ([], some .ended, none)
  | fuel + 1, cs =>
    match readValue fuel cs with
    | ⟨item, none⟩ => ([item], none, none)
    | ⟨item, some rest⟩ =>
      match readContinuation ']' rest with
      | .broken flaw => ([item], some flaw, none)
      | .closed rest => ([item], none, some rest)
      | .another rest =>
        let (items, flaw, rest) := readItems fuel rest
        (item :: items, flaw, rest)

def readMembers : (fuel : Nat) → List Char →
    List (Option String × Node) × Option Flaw × Option (List Char)
  | 0, _ => ([], some .ended, none)
  | fuel + 1, cs =>
    match cs with
    | [] => ([], some .ended, none)
    | '"' :: rest =>
      match readString fuel rest with
      | .broken flaw => ([], some flaw, none)
      | .closed content rest =>
        let key := content.map String.ofList
        match skipSpaces rest with
        | [] => ([(key, .broken .ended)], none, none)
        | ':' :: rest =>
          match readValue fuel rest with
          | ⟨value, none⟩ => ([(key, value)], none, none)
          | ⟨value, some rest⟩ =>
            match readContinuation '\x7d' rest with
            | .broken flaw => ([(key, value)], some flaw, none)
            | .closed rest => ([(key, value)], none, some rest)
            | .another rest =>
              let (members, flaw, rest) := readMembers fuel rest
              ((key, value) :: members, flaw, rest)
        | _ :: _ => ([(key, .broken .malformed)], none, none)
    | _ :: _ => ([], some .malformed, none)

end

def readFirst (cs : List Char) : Reading := readValue (2 * cs.length + 2) cs

/-- A text read as one value: the tree, and whether nothing but blanks stands behind it. -/
structure Document where
  node : Node
  complete : Bool

def readDocument (text : String) : Document :=
  let reading := readFirst text.toList
  ⟨reading.node, (reading.rest.map fun rest => (skipSpaces rest).isEmpty).getD false⟩

def depthLimit : Nat := 128

def parse (text : String) : Except Fault Json := do
  let document := readDocument text
  let value ← document.node.value depthLimit
  if document.complete then return value else .error .malformed

end SweepAudit.Json
