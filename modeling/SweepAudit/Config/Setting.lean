import SweepAudit.Binary64.Reader
import SweepAudit.Binary64.Text
import SweepAudit.Text.Case

/-!
Settings. A variable's text is given a type first: a truth value if it is a word for
one, else a whole number, else a double, else text. A field of text takes any of them
back as text, in the usual form of its type, so that `007` is taken as `7`.
-/

namespace SweepAudit

inductive Setting where
  | flag (b : Bool)
  | whole (n : Int)
  | float (x : Binary64)
  | text (s : String)
  deriving DecidableEq

namespace Setting

def wholeBound : Nat := twoTo 63

def ofText (s : String) : Setting :=
  let word := Text.lowered s
  if word = "true" then .flag true
  else if word = "false" then .flag false
  else
    match Text.parseSigned wholeBound s.toList with
    | .ok n => .whole n
    | .error _ =>
      match Binary64.parse? s.toList with
      | some x => .float x
      | none => .text s

def toText : Setting → String
  | .flag b => toString b
  | .whole n => toString n
  | .float x => x.plainText
  | .text s => s

def wordValue? (s : String) : Option Nat :=
  let word := Text.lowered s
  if word ∈ ["true", "on", "yes"] then some 1
  else if word ∈ ["false", "off", "no"] then some 0
  else none

/-- Why a setting is not an unsigned number of a given width. -/
inductive NumberError where
  | negative (n : Int)
  | tooWide (n : Nat)
  | notANumber (s : String)
  deriving DecidableEq

def unsignedTop : Nat := twoTo 64 - 1

def toNat : Setting → Except NumberError Nat
  | .flag b => .ok b.toNat
  | .whole n => if n < 0 then .error (.negative n) else .ok n.toNat
  | .float x => .ok (x.toNatUpTo unsignedTop)
  | .text s =>
    match wordValue? s with
    | some n => .ok n
    | none => .error (.notANumber s)

def toUnsigned (bits : Nat) (setting : Setting) : Except NumberError Nat := do
  let n ← setting.toNat
  if n < twoTo bits then return n else throw (.tooWide n)

end Setting

end SweepAudit
