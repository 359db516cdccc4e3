import SweepAudit.Decimal.Basic
import SweepAudit.Rounding

/-!
Rounding an exact product or sum to the width of a decimal. The fewest low digits
that make it fit are dropped at once, and a half goes to the even neighbour.
-/

namespace SweepAudit.Decimal

def excessDigits (p : Nat) : Nat :=
  if p < twoTo 96 then 0 else excessDigits (p / 10) + 1
termination_by p
decreasing_by
  have := twoTo_pos 96
  omega

/-- A rounded coefficient as a decimal. One that was carried to `2 ^ 96` gives up one digit
more, and a zero has no sign. -/
def settle (negative : Bool) (coefficient scale : Nat) : Option Decimal :=
  if coefficient < twoTo 96 then
    ofParts? (negative && coefficient != 0) coefficient scale
  else if scale = 0 then none
  else ofParts? negative ((coefficient + 5) / 10) (scale - 1)

def fit (negative : Bool) (p s : Nat) : Option Decimal :=
  let dropped := max (excessDigits p) (s - 28)
  if s < dropped then none
  else settle negative (roundHalfEven p (tenTo dropped)) (s - dropped)

theorem excessDigits_of_lt {p : Nat} (h : p < twoTo 96) : excessDigits p = 0 := by
  unfold excessDigits
  exact if_pos h

/-- What is already within the bounds is kept as it is. -/
theorem fit_of_lt {negative : Bool} {p s : Nat} (hp : p < twoTo 96) (hs : s ≤ 28) :
    fit negative p s = some ⟨negative && p != 0, p, s, hp, hs⟩ := by
  have hz : s - 28 = 0 := by omega
  have hd : max (excessDigits p) (s - 28) = 0 := by
    rw [excessDigits_of_lt hp, hz]; rfl
  simp only [fit, hd, tenTo_zero, roundHalfEven_one, settle, hp, if_true, Nat.sub_zero,
    Nat.not_lt_zero, if_false, ofParts?_eq_some hp hs]

end SweepAudit.Decimal
