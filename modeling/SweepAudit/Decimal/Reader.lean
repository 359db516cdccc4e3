import SweepAudit.Decimal.Arithmetic
import SweepAudit.Text.Digits

/-!
Reading decimals. Plain notation is digits with at most one point and with `_` as a
separator after the first digit; a fraction that is too long is rounded on the first
digit that does not fit, a whole part that is too long is refused. Scientific
notation is a plain number with an exponent. `parse` tries the first, then the
second; `parseStrict` reads scientific notation and refuses to round for it.
-/

namespace SweepAudit.Decimal

inductive ParseError where
  | empty
  | noDigits
  | twoPoints
  | leadingSeparator
  | unknownCharacter
  | tooManyDigits
  | carriedTooFar
  | notScientific
  | scaleTooLarge (scale : Nat)
  | aboveMaximum
  deriving DecidableEq

def ParseError.message : ParseError → String
  | .empty => "Invalid decimal: empty"
  | .noDigits => "Invalid decimal: no digits found"
  | .twoPoints => "Invalid decimal: two decimal points"
  | .leadingSeparator => "Invalid decimal: must start lead with a number"
  | .unknownCharacter => "Invalid decimal: unknown character"
  | .tooManyDigits => "Invalid decimal: overflow from too many digits"
  | .carriedTooFar => "Invalid decimal: overflow from mantissa after rounding"
  | .notScientific => "Failed to parse"
  | .scaleTooLarge scale =>
    s!"Scale exceeds the maximum precision allowed: {scale} > 28"
  | .aboveMaximum => "Number exceeds maximum value that can be represented."

/-- A coefficient and a scale, before the sign is put to them. -/
abbrev Magnitude := Nat × Nat

def checkTail : List Char → Except ParseError Unit
  | [] => .ok ()
  | c :: cs =>
    if Text.isDigit c || c == '_' then checkTail cs
    else if c == '.' then .error .twoPoints
    else .error .unknownCharacter

/-- Ends the number at the character `c`, which no longer fits: a digit of five or more rounds
up, and a separator counts as zero. -/
def roundAt (coefficient scale : Nat) (c : Char) (rest : List Char) :
    Except ParseError Magnitude := do
  let digit ←
    match Text.digitValue? c with
    | some d => .ok d
    | none =>
      if c == '_' then .ok 0
      else if c == '.' then .error .twoPoints
      else .error .unknownCharacter
  let rounded ←
    if digit < 5 then .ok (coefficient, scale)
    else if coefficient + 1 < twoTo 96 then .ok (coefficient + 1, scale)
    else if scale = 0 then .error .carriedTooFar
    else .ok ((coefficient + 5) / 10, scale - 1)
  checkTail rest
  return rounded

def longCoefficient : Nat := twoTo 64 / 10 - 1

/-- The character behind 28 places decides the rounding; in a long number the separators in
front of it are passed over. -/
def roundBehindLastPlace (coefficient scale : Nat) (c : Char) (rest : List Char) :
    Except ParseError Magnitude :=
  if longCoefficient ≤ coefficient / 10 then
    match (c :: rest).dropWhile (· == '_') with
    | [] => .ok (coefficient, scale)
    | c' :: rest' => roundAt coefficient scale c' rest'
  else roundAt coefficient scale c rest

/-- The digits of a number; `afterPoint` and `seen` tell whether a point and a digit have been
read. -/
def scanDigits (afterPoint seen : Bool) (coefficient scale : Nat) :
    List Char → Except ParseError Magnitude
  | [] => if seen then .ok (coefficient, scale) else .error .noDigits
  | c :: cs =>
    if afterPoint && scale == 28 then roundBehindLastPlace coefficient scale c cs
    else
      match Text.digitValue? c with
      | some d =>
        if coefficient * 10 + d < twoTo 96 then
          scanDigits afterPoint true (coefficient * 10 + d)
            (if afterPoint then scale + 1 else scale) cs
        else if afterPoint then roundAt coefficient scale c cs
        else .error .tooManyDigits
      | none =>
        if c == '.' then
          if afterPoint then .error .twoPoints else scanDigits true seen coefficient scale cs
        else if c == '_' then
          if seen then scanDigits afterPoint seen coefficient scale cs
          else .error .leadingSeparator
        else .error .unknownCharacter

/-- A decimal from its sign and magnitude; zero is without sign. -/
def ofMagnitude (negative : Bool) (m : Magnitude) : Except ParseError Decimal :=
  match ofParts? (negative && m.1 != 0) m.1 m.2 with
  | some x => .ok x
  | none => .error .aboveMaximum

def parsePlain : List Char → Except ParseError Decimal
  | [] => .error .empty
  | '+' :: cs => do ofMagnitude false (← scanDigits false false 0 0 cs)
  | '-' :: cs => do ofMagnitude true (← scanDigits false false 0 0 cs)
  | cs => do ofMagnitude false (← scanDigits false false 0 0 cs)

/-- Whether a scientific number may lose digits to fit the largest scale. -/
inductive Precision where
  | strict
  | lossy
  deriving DecidableEq

def isExponentMark (c : Char) : Bool := c == 'e' || c == 'E'

def roundHalfUp (x : Decimal) (places : Nat) : Option Decimal :=
  let unit := tenTo (x.scale - places)
  let q := x.coefficient / unit
  ofParts? x.negative (if unit ≤ 2 * (x.coefficient % unit) then q + 1 else q) 28

def lowered (precision : Precision) (base : Decimal) (exponent : Nat) :
    Except ParseError Decimal :=
  if 28 < exponent then .error (.scaleTooLarge exponent)
  else if h : base.scale + exponent ≤ 28 then
    .ok { base with scale := base.scale + exponent, scale_le := h }
  else
    match precision with
    | .strict => .error (.scaleTooLarge (base.scale + exponent))
    | .lossy =>
      match roundHalfUp base (28 - exponent) with
      | some x => .ok x
      | none => .error .aboveMaximum

/-- `10 ^ n` as a factor; the exponents in use are at most 19. -/
def power? (n : Nat) : Option Decimal := ofParts? false (tenTo n) 0

def raised (base : Decimal) (exponent : Nat) : Except ParseError Decimal :=
  if exponent ≤ base.scale then
    .ok { base with
      scale := base.scale - exponent, scale_le := Nat.le_trans (Nat.sub_le _ _) base.scale_le }
  else if 28 < exponent then .error (.scaleTooLarge exponent)
  else
    let first := if 19 ≤ exponent then 19 else 0
    let product := do
      let x ← (← power? first) |> base.mul?
      (← power? (exponent - first)) |> x.mul?
    match product with
    | some x => .ok x.normalize
    | none => .error .aboveMaximum

/-- Scientific notation: the text up to the first exponent mark is a plain number. -/
def parseScientific (precision : Precision) (cs : List Char) : Except ParseError Decimal :=
  match cs.dropWhile (!isExponentMark ·) with
  | [] => .error .notScientific
  | _ :: exponent => do
    let base ← parsePlain (cs.takeWhile (!isExponentMark ·))
    match exponent with
    | '-' :: digits =>
      match Text.parseUnsigned (twoTo 32) digits with
      | .ok n => lowered precision base n
      | .error _ => .error .notScientific
    | digits =>
      match Text.parseUnsigned (twoTo 32) digits with
      | .ok n => raised base n
      | .error _ => .error .notScientific

def parseChars (cs : List Char) : Except ParseError Decimal :=
  match parsePlain cs with
  | .ok x => .ok x
  | .error e => if cs.any isExponentMark then parseScientific .lossy cs else .error e

def parse (s : String) : Except ParseError Decimal := parseChars s.toList

def parseStrict (s : String) : Except ParseError Decimal := parseScientific .strict s.toList

end SweepAudit.Decimal
