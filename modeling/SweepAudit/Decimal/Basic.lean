import SweepAudit.Power

/-!
Fixed-width decimals: a sign, a coefficient of at most 96 bits and a scale of at
most 28. The bounds are part of the type. Numbers are compared by value, so the
same number may be held at several scales, and a zero may carry a sign.
-/

namespace SweepAudit

structure Decimal where
  negative : Bool
  coefficient : Nat
  scale : Nat
  coefficient_lt : coefficient < twoTo 96
  scale_le : scale ≤ 28
  deriving DecidableEq

namespace Decimal

def ofParts? (negative : Bool) (coefficient scale : Nat) : Option Decimal :=
  if h : coefficient < twoTo 96 ∧ scale ≤ 28 then
    some ⟨negative, coefficient, scale, h.1, h.2⟩
  else
    none

theorem ofParts?_eq_some {negative : Bool} {coefficient scale : Nat}
    (hc : coefficient < twoTo 96) (hs : scale ≤ 28) :
    ofParts? negative coefficient scale = some ⟨negative, coefficient, scale, hc, hs⟩ := by
  rw [ofParts?, dif_pos ⟨hc, hs⟩]

def zero : Decimal := ⟨false, 0, 0, by decide, by decide⟩

def one : Decimal := ⟨false, 1, 0, by decide, by decide⟩

def ten : Decimal := ⟨false, 10, 0, by decide, by decide⟩

def greatest : Decimal := ⟨false, twoTo 96 - 1, 0, by decide, by decide⟩

def ofUInt32 (n : UInt32) : Decimal :=
  ⟨false, n.toNat, 0, Nat.lt_trans n.toNat_lt (by decide), by decide⟩

def isZero (x : Decimal) : Bool := x.coefficient == 0

def signed (x : Decimal) : Int :=
  if x.negative then -(x.coefficient : Int) else x.coefficient

def neg (x : Decimal) : Decimal := { x with negative := !x.negative && !x.isZero }

def Le (x y : Decimal) : Prop := x.signed * tenTo y.scale ≤ y.signed * tenTo x.scale

def Lt (x y : Decimal) : Prop := x.signed * tenTo y.scale < y.signed * tenTo x.scale

instance : LE Decimal := ⟨Le⟩

instance : LT Decimal := ⟨Lt⟩

instance (x y : Decimal) : Decidable (x ≤ y) :=
  inferInstanceAs (Decidable (x.signed * tenTo y.scale ≤ y.signed * tenTo x.scale))

instance (x y : Decimal) : Decidable (x < y) :=
  inferInstanceAs (Decidable (x.signed * tenTo y.scale < y.signed * tenTo x.scale))

def Same (x y : Decimal) : Prop := x.signed * tenTo y.scale = y.signed * tenTo x.scale

instance (x y : Decimal) : Decidable (Same x y) :=
  inferInstanceAs (Decidable (x.signed * tenTo y.scale = y.signed * tenTo x.scale))

/-- The smaller of two decimals; of two equal ones the first. -/
def least (x y : Decimal) : Decimal := if y < x then y else x

def IsPositive (x : Decimal) : Prop := 0 < x.signed

instance (x : Decimal) : Decidable x.IsPositive :=
  inferInstanceAs (Decidable (0 < x.signed))

def stripZeros (coefficient : Nat) : (scale : Nat) → Nat × Nat
  | 0 => (coefficient, 0)
  | scale + 1 =>
    if coefficient % 10 = 0 then stripZeros (coefficient / 10) scale
    else (coefficient, scale + 1)

theorem stripZeros_le (coefficient scale : Nat) :
    (stripZeros coefficient scale).1 ≤ coefficient ∧
      (stripZeros coefficient scale).2 ≤ scale := by
  induction scale generalizing coefficient with
  | zero => simp [stripZeros]
  | succ scale ih =>
    unfold stripZeros
    split
    · have := ih (coefficient / 10)
      omega
    · simp

def normalize (x : Decimal) : Decimal :=
  if x.isZero then zero
  else
    ⟨x.negative, (stripZeros x.coefficient x.scale).1, (stripZeros x.coefficient x.scale).2,
      Nat.lt_of_le_of_lt (stripZeros_le _ _).1 x.coefficient_lt,
      Nat.le_trans (stripZeros_le _ _).2 x.scale_le⟩

end Decimal

end SweepAudit
