import SweepAudit.Config.Setting

/-!
Names of variables. A name is that of a field in any case of its letters. Steps behind
it lead into the field: `.` and a key to a member of a table, a number in brackets to an
item of a sequence. A name that cannot be read so is that of a field as a whole.
A sequence grows up to the item that is put into it, as far as there is room for it.
-/

namespace SweepAudit.Config

inductive Step where
  | member (key : String)
  | item (index : Int)
  deriving DecidableEq

/-- Why a new sequence has no place for an item. -/
inductive Misplaced where
  | beforeFirst (back : Nat)
  | outOfRoom
  deriving DecidableEq

def Misplaced.room : Nat := twoTo 56

/-- An index below zero counts back from the end of a sequence, which for a new one is around to
the highest indices. -/
def Misplaced.ofIndex? : Int → Option Misplaced
  | .ofNat n => if n < room then none else some .outOfRoom
  | .negSucc n => some (.beforeFirst (n + 1))

def Misplaced.message : Misplaced → String
  | .beforeFirst 1 =>
    s!"index out of bounds: the len is 0 but the index is {Setting.unsignedTop}"
  | .beforeFirst _ | .outOfRoom => "capacity overflow"

def Step.misplaced? : Step → Option Misplaced
  | .member _ => none
  | .item index => Misplaced.ofIndex? index

/-- The characters of fields and keys; the blank is one of them. -/
def isNameChar (c : Char) : Bool := c.isAlphanum || " _-".toList.contains c

def isGap (c : Char) : Bool := c == ' ' || c == '\t'

def index? (cs : List Char) : Option (Int × List Char) :=
  let cs := cs.dropWhile isGap
  let sign := cs.takeWhile (· == '-')
  let cs := cs.dropWhile (· == '-')
  let digits := cs.takeWhile Text.isDigit
  match Text.parseSigned Setting.wholeBound (sign ++ digits),
      (cs.dropWhile Text.isDigit).dropWhile isGap with
  | .ok index, ']' :: rest => some (index, rest)
  | _, _ => none

def step? : List Char → Option (Step × List Char)
  | '.' :: cs =>
    match cs.takeWhile isNameChar with
    | [] => none
    | key => some (.member (String.ofList key), cs.dropWhile isNameChar)
  | '[' :: cs => (index? cs).map fun (index, rest) => (.item index, rest)
  | _ => none

theorem length_dropWhile_le (p : Char → Bool) (cs : List Char) :
    (cs.dropWhile p).length ≤ cs.length :=
  (List.dropWhile_suffix p).length_le

theorem index?_length {cs rest : List Char} {index : Int} (h : index? cs = some (index, rest)) :
    rest.length < cs.length := by
  unfold index? at h
  dsimp only at h
  split at h
  · next heq =>
    have h₁ := length_dropWhile_le isGap
      (((cs.dropWhile isGap).dropWhile (· == '-')).dropWhile Text.isDigit)
    have h₂ := length_dropWhile_le Text.isDigit ((cs.dropWhile isGap).dropWhile (· == '-'))
    have h₃ := length_dropWhile_le (· == '-') (cs.dropWhile isGap)
    have h₄ := length_dropWhile_le isGap cs
    simp only [heq, List.length_cons] at h₁
    cases h
    omega
  · cases h

theorem step?_length {cs rest : List Char} {step : Step} (h : step? cs = some (step, rest)) :
    rest.length < cs.length := by
  unfold step? at h
  split at h
  · next cs =>
    have hle := length_dropWhile_le isNameChar cs
    split at h
    · cases h
    · cases h
      simp only [List.length_cons]
      omega
  · next cs =>
    simp only [Option.map_eq_some_iff, Prod.mk.injEq] at h
    obtain ⟨⟨_, r⟩, hr, _, rfl⟩ := h
    have := index?_length hr
    simp only [List.length_cons]
    omega
  · cases h

def steps? (cs : List Char) : Option (List Step) :=
  match cs with
  | [] => some []
  | cs =>
    match _h : step? cs with
    | none => none
    | some (step, rest) => (steps? rest).map (step :: ·)
termination_by cs.length
decreasing_by exact step?_length ‹_›

structure Name where
  field : String
  steps : List Step
  deriving DecidableEq

def Name.ofText (s : String) : Name :=
  let name := Text.lowered s
  let field := name.toList.takeWhile isNameChar
  match field, steps? (name.toList.dropWhile isNameChar) with
  | [], _ | _, none => ⟨name, []⟩
  | field, some steps => ⟨String.ofList field, steps⟩

def Name.misplaced? (name : Name) : Option Misplaced := name.steps.findSome? Step.misplaced?

end SweepAudit.Config
