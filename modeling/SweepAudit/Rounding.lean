/-!
Division rounded to the nearest whole number, a half going to the even neighbour or up.
-/

namespace SweepAudit

def roundHalfEven (p d : Nat) : Nat :=
  if d < 2 * (p % d) ∨ (2 * (p % d) = d ∧ p / d % 2 = 1) then p / d + 1 else p / d

def roundHalfUp (p d : Nat) : Nat := (2 * p + d) / (2 * d)

theorem roundHalfEven_one (p : Nat) : roundHalfEven p 1 = p := by
  simp [roundHalfEven, Nat.mod_one]

theorem roundHalfEven_bounds (p d : Nat) :
    p / d ≤ roundHalfEven p d ∧ roundHalfEven p d ≤ p / d + 1 := by
  unfold roundHalfEven
  split <;> omega

end SweepAudit
