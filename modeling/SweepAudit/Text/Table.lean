import SweepAudit.Text.Digits
import SweepAudit.Text.Split

/-!
Tables of characters. A table is written as entries with blanks between them, all in
hexadecimal: a code point, or the first and the last of a range with `-` between them;
behind `/` the step from one to the next; and behind `:` or `=` what belongs to the first,
with points between the characters. Behind `:` it moves on with the character, and behind
`=` all have the same.
-/

namespace SweepAudit.Text

structure TableEntry where
  first : Nat
  last : Nat
  step : Nat
  target : List Nat
  /-- Whether the target moves on with the character. -/
  moves : Bool
  deriving DecidableEq

namespace TableEntry

def holds (entry : TableEntry) (n : Nat) : Bool :=
  entry.first ≤ n && n ≤ entry.last && (n - entry.first) % entry.step == 0

def targetOf (entry : TableEntry) (n : Nat) : List Char :=
  let offset := if entry.moves then n - entry.first else 0
  entry.target.map fun t => Char.ofNat (t + offset)

/-- The value of hexadecimal digits; any other character counts as a zero. -/
def value (cs : List Char) : Nat := cs.foldl (fun n c => 16 * n + (hexValue? c).getD 0) 0

def ofChars (cs : List Char) : TableEntry :=
  let (key, target) := cutBy (fun c => c == ':' || c == '=') cs
  let (range, step) := cutBy (· == '/') key
  let (first, last) := cutBy (· == '-') range
  { first := value first
    last := value (last.getD first)
    step := (step.map value).getD 1
    target := (target.map fun cs => (splitBy (· == '.') cs).map value).getD []
    moves := !cs.contains '=' }

end TableEntry

abbrev Table := List TableEntry

namespace Table

/-- Reads a table; its lines are read alike. -/
def ofText (s : String) : Table :=
  (s.splitOn "\n").flatMap fun line =>
    ((splitBy (· == ' ') line.toList).filter fun cs => !cs.isEmpty).map TableEntry.ofChars

def entry? (table : Table) (c : Char) : Option TableEntry :=
  table.find? fun entry => entry.holds c.toNat

def covers (table : Table) (c : Char) : Bool := (table.entry? c).isSome

def target? (table : Table) (c : Char) : Option (List Char) :=
  (table.entry? c).map fun entry => entry.targetOf c.toNat

def source? (table : Table) (cs : List Char) : Option Char :=
  (table.find? fun entry => entry.target == cs.map (·.toNat)).map fun entry =>
    Char.ofNat entry.first

end Table

end SweepAudit.Text
