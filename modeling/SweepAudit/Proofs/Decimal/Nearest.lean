import SweepAudit.Proofs.Decimal.Value

/-!
Rounding to a decimal. A result is rounded well if no decimal lies strictly between it
and the exact number. This is weaker than being the nearest decimal, which a product of
two tiny numbers is not, but it makes every exact result come out exactly and keeps
every bound that is a decimal itself.
-/

namespace SweepAudit

theorem roundHalfEven_mul (p d : Nat) {k : Nat} (hk : 0 < k) :
    roundHalfEven (p * k) (d * k) = roundHalfEven p d := by
  have hhalf : d * k < 2 * (p % d * k) ↔ d < 2 * (p % d) := by
    rw [← Nat.mul_assoc, Nat.mul_lt_mul_right hk]
  have htie : 2 * (p % d * k) = d * k ↔ 2 * (p % d) = d := by
    rw [← Nat.mul_assoc, Nat.mul_left_inj hk.ne']
  simp only [roundHalfEven, Nat.mul_mod_mul_right, Nat.mul_div_mul_right _ _ hk, hhalf, htie]

namespace Decimal

/-- No decimal lies strictly between the two. -/
def RoundsTo (q r : ℚ) : Prop :=
  ∀ b : Decimal, (q ≤ b.value → r ≤ b.value) ∧ (b.value ≤ q → b.value ≤ r)

/-- What an operation with the exact result `q` may come to: it is rounded well, and it is given
up only if it lies beyond all decimals. -/
def Rounded (q : ℚ) : Option Decimal → Prop
  | some z => RoundsTo q z.value
  | none => greatest.value < |q|

theorem RoundsTo.eq {q r : ℚ} (h : RoundsTo q r) (hq : Representable q) : r = q := by
  obtain ⟨b, rfl⟩ := hq
  exact le_antisymm ((h b).1 le_rfl) ((h b).2 le_rfl)

theorem RoundsTo.le {q r s : ℚ} (h : RoundsTo q r) (hs : Representable s) (hq : q ≤ s) :
    r ≤ s := by
  obtain ⟨b, rfl⟩ := hs
  exact (h b).1 hq

theorem RoundsTo.ge {q r s : ℚ} (h : RoundsTo q r) (hs : Representable s) (hq : s ≤ q) :
    s ≤ r := by
  obtain ⟨b, rfl⟩ := hs
  exact (h b).2 hq

theorem RoundsTo.nonneg {q r : ℚ} (h : RoundsTo q r) (hq : 0 ≤ q) : 0 ≤ r :=
  h.ge representable_zero hq

theorem RoundsTo.neg {q r : ℚ} (h : RoundsTo q r) : RoundsTo (-q) (-r) := by
  intro b
  have hb := h b.neg
  rw [value_neg] at hb
  exact ⟨fun hq => by linarith [hb.2 (by linarith)], fun hq => by linarith [hb.1 (by linarith)]⟩

theorem RoundsTo.withSign {q r : ℚ} (h : RoundsTo q r) (negative : Bool) :
    RoundsTo (withSign negative q) (withSign negative r) := by
  cases negative
  · exact h
  · exact h.neg

namespace Rounded

variable {q : ℚ} {o : Option Decimal}

/-- What is not beyond the largest decimal has a result. -/
theorem exists_of_le (h : Rounded q o) (hq : |q| ≤ greatest.value) :
    ∃ z, o = some z ∧ RoundsTo q z.value := by
  cases o with
  | none => exact absurd h (not_lt.mpr hq)
  | some z => exact ⟨z, rfl, h⟩

/-- What a decimal can hold is not rounded. -/
theorem exact (h : Rounded q o) (hq : Representable q) : ∃ z, o = some z ∧ z.value = q := by
  obtain ⟨z, rfl, hz⟩ := h.exists_of_le hq.abs_le
  exact ⟨z, rfl, hz.eq hq⟩

end Rounded

/-! Rounding on a grid of whole numbers -/

theorem roundHalfEven_near (p : Nat) {d : Nat} (hd : 0 < d) :
    |(p : ℚ) / d - roundHalfEven p d| ≤ 1 / 2 := by
  have hp := Nat.div_add_mod p d
  have hlt := Nat.mod_lt p hd
  have hd' : (0 : ℚ) < d := by exact_mod_cast hd
  have hb : 2 * p ≤ 2 * (d * roundHalfEven p d) + d ∧
      2 * (d * roundHalfEven p d) ≤ 2 * p + d := by
    rw [roundHalfEven]
    split
    · have hm : d * (p / d + 1) = d * (p / d) + d := Nat.mul_succ d (p / d)
      omega
    · omega
  have h1 : 2 * (p : ℚ) ≤ 2 * (d * roundHalfEven p d) + d := by exact_mod_cast hb.1
  have h2 : 2 * ((d : ℚ) * roundHalfEven p d) ≤ 2 * p + d := by exact_mod_cast hb.2
  rw [abs_le]
  constructor
  · rw [neg_le_sub_iff_le_add, ← sub_le_iff_le_add, le_div_iff₀ hd']
    linarith
  · rw [sub_le_iff_le_add, div_le_iff₀ hd']
    linarith

/-- A half is rounded to an even number. -/
theorem roundHalfEven_even (p : Nat) {d : Nat} (hd : 0 < d)
    (tie : |(p : ℚ) / d - roundHalfEven p d| = 1 / 2) : roundHalfEven p d % 2 = 0 := by
  have hp := Nat.div_add_mod p d
  have hlt := Nat.mod_lt p hd
  have hd' : (0 : ℚ) < d := by exact_mod_cast hd
  have htie : 2 * p = 2 * (d * roundHalfEven p d) + d ∨
      2 * p + d = 2 * (d * roundHalfEven p d) := by
    rw [abs_eq (by norm_num), sub_eq_iff_eq_add, sub_eq_iff_eq_add, div_eq_iff hd'.ne',
      div_eq_iff hd'.ne'] at tie
    refine tie.imp (fun h => ?_) fun h => ?_
    · have : (2 * p : ℚ) = 2 * (d * roundHalfEven p d) + d := by linarith
      exact_mod_cast this
    · have : (2 * p + d : ℚ) = 2 * (d * roundHalfEven p d) := by linarith
      exact_mod_cast this
  rw [roundHalfEven] at htie ⊢
  split at htie
  · rename_i hup
    have hm : d * (p / d + 1) = d * (p / d) + d := Nat.mul_succ d (p / d)
    rw [if_pos hup]
    omega
  · rename_i hdown
    rw [if_neg hdown]
    omega

/-- In units of a scale every decimal of no finer scale is a whole number. -/
theorem exists_units {b : Decimal} {s : Nat} (hb : b.scale ≤ s) :
    ∃ m : Int, b.value * 10 ^ s = m := by
  refine ⟨b.signed * 10 ^ (s - b.scale), ?_⟩
  have hsplit : (10 : ℚ) ^ s = 10 ^ (s - b.scale) * 10 ^ b.scale := by
    rw [← pow_add, Nat.sub_add_cancel hb]
  push_cast
  rw [value, hsplit]
  field_simp

/-- A decimal of a finer scale is small, for its coefficient is bounded. -/
theorem value_mul_le {b : Decimal} {s : Nat} (hb : s ≤ b.scale) :
    b.value * 10 ^ s ≤ greatest.value := by
  have hc : (b.coefficient : ℚ) ≤ greatest.value := by
    have := b.coefficient_lt
    rw [twoTo_ninetySix] at this
    rw [value_greatest]
    exact_mod_cast Nat.le_of_lt_succ this
  have hpow : (10 : ℚ) ^ s ≤ 10 ^ b.scale := pow_le_pow_right₀ (by norm_num) hb
  have hg : (0 : ℚ) ≤ greatest.value := by rw [value_greatest]; norm_num
  calc b.value * 10 ^ s ≤ |b.value| * 10 ^ s := by gcongr; exact le_abs_self _
    _ ≤ greatest.value := by
      rw [abs_value, div_mul_eq_mul_div, div_le_iff₀ (by positivity)]
      exact mul_le_mul hc hpow (by positivity) hg

/-- So many units that the next scale has no room for them round to a multiple of ten at least as
large as what that scale can hold. -/
theorem greatest_le_of_near {u : ℚ} {n : Nat} (near : |u - n| ≤ 1 / 2)
    (hu : greatest.value < u * 10) : greatest.value ≤ n * 10 := by
  rw [abs_le] at near
  rw [value_greatest] at hu ⊢
  have hn : (79228162514264337593543950330 : ℚ) < n * 10 := by linarith
  have hn' : 79228162514264337593543950330 < n * 10 := by exact_mod_cast hn
  have : 79228162514264337593543950335 ≤ n * 10 := by omega
  exact_mod_cast this

/-- The nearest whole number of units of some scale is a good rounding if the unit is the smallest
there is, or if no finer one has room for a number of this size. -/
theorem roundsTo_of_near {q : ℚ} {n s : Nat} (near : |q * 10 ^ s - n| ≤ 1 / 2)
    (full : s = 28 ∨ greatest.value < q * 10 ^ (s + 1)) :
    RoundsTo q (n / 10 ^ s) := by
  have hpos : (0 : ℚ) < 10 ^ s := by positivity
  intro b
  rw [div_le_iff₀ hpos, le_div_iff₀ hpos]
  by_cases hb : b.scale ≤ s
  · obtain ⟨m, hm⟩ := exists_units hb
    rw [abs_le] at near
    rw [hm]
    constructor
    · intro hq
      have h1 : q * 10 ^ s ≤ m := by rw [← hm]; gcongr
      have h2 : (n : ℚ) < m + 1 := by linarith
      have h3 : (n : Int) < m + 1 := by exact_mod_cast h2
      exact_mod_cast Int.lt_add_one_iff.mp h3
    · intro hq
      have h1 : (m : ℚ) ≤ q * 10 ^ s := by rw [← hm]; gcongr
      have h2 : (m : ℚ) < n + 1 := by linarith
      have h3 : m < (n : Int) + 1 := by exact_mod_cast h2
      exact_mod_cast Int.lt_add_one_iff.mp h3
  · have hlt : s < b.scale := not_le.mp hb
    have hq : greatest.value < q * 10 ^ (s + 1) := by
      rcases full with rfl | h
      · exact absurd b.scale_le hb
      · exact h
    have hle := value_mul_le hlt
    have hn := greatest_le_of_near near (by rwa [mul_assoc, ← pow_succ])
    constructor
    · intro h
      exact absurd (hle.trans_lt hq) (not_lt.mpr (by gcongr))
    · intro _
      rw [pow_succ, ← mul_assoc] at hle
      linarith

end Decimal

end SweepAudit
