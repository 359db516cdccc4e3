/-!
Text in the letters and digits of ASCII. The ASCII characters of a text come first, and
behind a last `-` the others in the order of their code points: for each, how many of the
places and code points in between are passed over, written in digits whose base adapts to
the numbers before.
-/

namespace SweepAudit.Http.Domain.Punycode

def digitChar (d : Nat) : Char := Char.ofNat (if d < 26 then 97 + d else 22 + d)

def digitValue? (c : Char) : Option Nat :=
  if 'a' ≤ c ∧ c ≤ 'z' then some (c.toNat - 97)
  else if '0' ≤ c ∧ c ≤ '9' then some (c.toNat - 22)
  else none

/-- The least digit at a place that is not the last of its number. Places are counted in steps
of 36. -/
def threshold (bias place : Nat) : Nat := max 1 (min 26 (place - bias))

theorem threshold_bounds (bias place : Nat) :
    1 ≤ threshold bias place ∧ threshold bias place ≤ 26 := by
  unfold threshold
  omega

def lower (n steps : Nat) : Nat × Nat :=
  if n ≤ 455 then (n, steps) else lower (n / 35) (steps + 1)
termination_by n

/-- The bias behind a number. The first number is likely to be the largest. -/
def nextBias (number count : Nat) (isFirst : Bool) : Nat :=
  let n := number / (if isFirst then 700 else 2)
  let (n, steps) := lower (n + n / count) 0
  36 * steps + 36 * n / (n + 38)

def digits (bias place n : Nat) : List Char :=
  let t := threshold bias place
  if n < t then [digitChar n]
  else digitChar (t + (n - t) % (36 - t)) :: digits bias (place + 36) ((n - t) / (36 - t))
termination_by n
decreasing_by
  have h := threshold_bounds bias place
  have := Nat.div_le_self (n - threshold bias place) (36 - threshold bias place)
  omega

def number? (bias place weight value : Nat) : List Char → Option (Nat × List Char)
  | [] => none
  | c :: cs =>
    match digitValue? c with
    | none => none
    | some d =>
      let t := threshold bias place
      if d < t then some (value + d * weight, cs)
      else number? bias (place + 36) (weight * (36 - t)) (value + d * weight) cs

theorem number?_length {bias place weight value n : Nat} {cs rest : List Char}
    (h : number? bias place weight value cs = some (n, rest)) : rest.length < cs.length := by
  induction cs generalizing place weight value with
  | nil => cases h
  | cons c cs ih =>
    unfold number? at h
    split at h
    · cases h
    · dsimp only at h
      split at h
      · cases h
        exact Nat.lt_succ_self _
      · exact Nat.lt_succ_of_lt (ih h)

/-- Writing in progress: how many characters are written, and what has been passed over since
the last of them. -/
structure Writing where
  count : Nat
  passed : Nat
  bias : Nat

def writeOne (basic point : Nat) (w : Writing) : List Char → Writing × List Char
  | [] => (w, [])
  | c :: cs =>
    if c.toNat < point then writeOne basic point { w with passed := w.passed + 1 } cs
    else if c.toNat = point then
      let next := Writing.mk (w.count + 1) 0 (nextBias w.passed (w.count + 1) (w.count == basic))
      let (behind, written) := writeOne basic point next cs
      (behind, digits w.bias 36 w.passed ++ written)
    else writeOne basic point w cs

/-- Writes the characters of the given code points, which are in ascending order and not below
`point`. -/
def writeAll (basic : Nat) (text : List Char) (w : Writing) (point : Nat) : List Nat → List Char
  | [] => []
  | next :: points =>
    let reached := { w with passed := w.passed + (next - point) * (w.count + 1) }
    let (behind, written) := writeOne basic next reached text
    written ++ writeAll basic text { behind with passed := behind.passed + 1 } (next + 1) points

def insertPoint (n : Nat) : List Nat → List Nat
  | [] => [n]
  | m :: points =>
    if n < m then n :: m :: points
    else if n = m then m :: points
    else m :: insertPoint n points

def isBasic (c : Char) : Bool := c.toNat < 128

def startBias : Nat := 72

def encode (text : List Char) : List Char :=
  let basic := text.filter isBasic
  let others := text.filter fun c => !isBasic c
  let points := others.foldr (fun c => insertPoint c.toNat) []
  (if basic.isEmpty then [] else basic ++ ['-']) ++
    writeAll basic.length text ⟨basic.length, 0, startBias⟩ 128 points

/-- Puts characters into a text as numbers tell; `passed` is how far the last has come from the
code point `point`. -/
def readFrom (bias point passed : Nat) (text : List Char) (cs : List Char) :
    Option (List Char) :=
  match cs with
  | [] => some text
  | cs =>
    match _h : number? bias 36 1 passed cs with
    | none => none
    | some (n, rest) =>
      let count := text.length + 1
      let point := point + n / count
      if point.isValidChar then
        readFrom (nextBias (n - passed) count (passed == 0)) point (n % count + 1)
          (text.insertIdx (n % count) (Char.ofNat point)) rest
      else none
termination_by cs.length
decreasing_by exact number?_length ‹_›

def decode? (cs : List Char) : Option (List Char) :=
  let tail := (cs.reverse.takeWhile (· != '-')).reverse
  let basic := cs.take (cs.length - tail.length - 1)
  if !basic.all isBasic then none
  else readFrom startBias 128 0 basic (if basic.isEmpty then cs else tail)

end SweepAudit.Http.Domain.Punycode
