import SweepAudit.Http.Ipv4

/-!
Addresses of 128 bits, as eight pieces of 16 bits. They are written in hexadecimal with
colons between the pieces; two colons stand for pieces that are zero, and an address of
32 bits may stand for the last two. In its usual form the longest row of zeros is left
out, the first of several.
-/

namespace SweepAudit.Http.Ipv6

def piece? (cs : List Char) : Option Nat :=
  if cs.isEmpty || 4 < cs.length then none else Ipv4.valueIn? 16 cs

/-- One of the decimal numbers of an address of 32 bits; it has no zeros in front. -/
def byte? : List Char → Option Nat
  | [] => none
  | ['0'] => some 0
  | '0' :: _ => none
  | cs => (Ipv4.valueIn? 10 cs).filter (· < 256)

def lastPieces? (cs : List Char) : Option (List Nat) :=
  if cs.contains '.' then
    match (Text.splitBy (· == '.') cs).mapM byte? with
    | some [a, b, c, d] => some [256 * a + b, 256 * c + d]
    | _ => none
  else (piece? cs).map ([·])

def pieces? (isLast : Bool) (cs : List Char) : Option (List Nat) :=
  if cs.isEmpty then some []
  else do
    let parts := Text.splitBy (· == ':') cs
    let front ← parts.dropLast.mapM piece?
    let last := parts.getLast?.getD []
    return front ++ (← if isLast then lastPieces? last else (piece? last).map ([·]))

def cutGap : List Char → List Char × Option (List Char)
  | ':' :: ':' :: cs => ([], some cs)
  | c :: cs =>
    let (before, behind) := cutGap cs
    (c :: before, behind)
  | [] => ([], none)

def read? (cs : List Char) : Option (List Nat) :=
  match cutGap cs with
  | (_, none) => (pieces? true cs).filter (·.length == 8)
  | (before, some behind) => do
    let front ← pieces? false before
    let back ← pieces? true behind
    let known := front.length + back.length
    if known < 8 then return front ++ List.replicate (8 - known) 0 ++ back else none

def zerosFrom : List Nat → List Nat
  | [] => []
  | n :: pieces => ((n :: pieces).takeWhile (· == 0)).length :: zerosFrom pieces

def join (pieces : List Nat) : List Char := [':'].intercalate (pieces.map (Nat.toDigits 16))

def text (pieces : List Nat) : List Char :=
  let zeros := zerosFrom pieces
  let longest := zeros.foldl max 0
  if longest < 2 then join pieces
  else
    let place := zeros.findIdx (· == longest)
    join (pieces.take place) ++ "::".toList ++ join (pieces.drop (place + longest))

end SweepAudit.Http.Ipv6
