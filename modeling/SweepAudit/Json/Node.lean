import SweepAudit.Json.Value

/-!
A JSON text as far as it can be read. Where the text breaks off, the tree has a
broken place instead of a value, and what stands before it is still there. A reader
that makes use of a value is stricter than one that passes over it: only the former
minds the size of numbers and the pairing of surrogates, and it may bound the depth.
So a number or a string that is well formed but cannot be used is a part of the tree.
-/

namespace SweepAudit.Json

/-- Why a text cannot be read on: it ends too soon, or something else stands there. -/
inductive Fault where
  | ended
  | malformed
  deriving DecidableEq, Repr

/-- A break in the text, as seen by a reader that uses the value and by one that skips it. -/
structure Flaw where
  used : Fault
  skipped : Fault
  deriving DecidableEq, Repr

def Flaw.ended : Flaw := ⟨.ended, .ended⟩

def Flaw.malformed : Flaw := ⟨.malformed, .malformed⟩

/-- A value or the beginning of one. A number that is too large and a string with a surrogate
that stands alone have no content. Containers say what broke after their last part, if they
were not closed. -/
inductive Node where
  | null
  | bool (b : Bool)
  | number (content : Option Number)
  | string (content : Option String)
  | array (items : List Node) (flaw : Option Flaw)
  | object (members : List (Option String × Node)) (flaw : Option Flaw)
  | broken (flaw : Flaw)

def skipFlaw : Option Flaw → Except Fault Unit
  | none => .ok ()
  | some flaw => .error flaw.skipped

def useFlaw : Option Flaw → Except Fault Unit
  | none => .ok ()
  | some flaw => .error flaw.used

def useContent {α : Type} : Option α → Except Fault α
  | none => .error .malformed
  | some content => .ok content

namespace Node

mutual

def skip : Node → Except Fault Unit
  | .null | .bool _ | .number _ | .string _ => .ok ()
  | .array items flaw => do
    skipItems items
    skipFlaw flaw
  | .object members flaw => do
    skipMembers members
    skipFlaw flaw
  | .broken flaw => .error flaw.skipped

def skipItems : List Node → Except Fault Unit
  | [] => .ok ()
  | item :: items => do
    skip item
    skipItems items

def skipMembers : List (Option String × Node) → Except Fault Unit
  | [] => .ok ()
  | (_, value) :: members => do
    skip value
    skipMembers members

end

/-- Puts a member into an object whose keys ascend; a key that is there already is replaced. -/
def insertMember (key : String) (value : Json) : List (String × Json) → List (String × Json)
  | [] => [(key, value)]
  | (k, v) :: members =>
    if key < k then (key, value) :: (k, v) :: members
    else if key = k then (key, value) :: members
    else (k, v) :: insertMember key value members

mutual

/-- The value in full, inside containers that leave `room` for more; the last one has no room
for its own content. Objects come out with ascending keys, the last of several equal ones. -/
def value (room : Nat) : Node → Except Fault Json
  | .null => .ok .null
  | .bool b => .ok (.bool b)
  | .number n => (useContent n).map .number
  | .string s => (useContent s).map .string
  | .array items flaw =>
    if room ≤ 1 then .error .malformed
    else do
      let values ← itemValues (room - 1) items
      useFlaw flaw
      return .array values
  | .object members flaw =>
    if room ≤ 1 then .error .malformed
    else do
      let values ← memberValues (room - 1) [] members
      useFlaw flaw
      return .object values
  | .broken flaw => .error flaw.used

def itemValues (room : Nat) : List Node → Except Fault (List Json)
  | [] => .ok []
  | item :: items => do
    let v ← value room item
    let vs ← itemValues room items
    return v :: vs

def memberValues (room : Nat) (sofar : List (String × Json)) :
    List (Option String × Node) → Except Fault (List (String × Json))
  | [] => .ok sofar
  | (key, node) :: members => do
    let k ← useContent key
    let v ← value room node
    memberValues room (insertMember k v sofar) members

end

end Node

mutual

def node : Json → Node
  | .null => .null
  | .bool b => .bool b
  | .number n => .number (some n)
  | .string s => .string (some s)
  | .array items => .array (itemNodes items) none
  | .object members => .object (memberNodes members) none

def itemNodes : List Json → List Node
  | [] => []
  | item :: items => node item :: itemNodes items

def memberNodes : List (String × Json) → List (Option String × Node)
  | [] => []
  | (key, value) :: members => (some key, node value) :: memberNodes members

end

end SweepAudit.Json
