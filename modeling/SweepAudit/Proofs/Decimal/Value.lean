import SweepAudit.Decimal.Overflow
import Mathlib.Algebra.Order.Field.Rat
import Mathlib.Tactic.FieldSimp
import Mathlib.Tactic.Linarith
import Mathlib.Tactic.Positivity
import Mathlib.Tactic.Ring

/-!
The rational number that a decimal stands for. Order, equality of value, sign and the
smaller of two decimals are what they are for these numbers; scales do not matter from
here on, except for what a decimal can hold at all.
-/

namespace SweepAudit

theorem cast_tenTo (n : Nat) : ((tenTo n : Nat) : ℚ) = 10 ^ n := by
  simp [tenTo]

theorem twoTo_ninetySix : twoTo 96 = 79228162514264337593543950336 := rfl

namespace Decimal

/-- The number itself, at whatever scale it is held. -/
def value (x : Decimal) : ℚ := x.signed / 10 ^ x.scale

/-- Numbers that a decimal holds exactly. -/
def Representable (q : ℚ) : Prop := ∃ x : Decimal, x.value = q

/-- A magnitude with a sign. -/
def withSign (negative : Bool) (q : ℚ) : ℚ := if negative then -q else q

@[simp] theorem withSign_zero (negative : Bool) : withSign negative 0 = 0 := by
  cases negative <;> simp [withSign]

theorem abs_withSign (negative : Bool) (q : ℚ) : |withSign negative q| = |q| := by
  cases negative <;> simp [withSign]

theorem withSign_mul (a b : Bool) (p q : ℚ) :
    withSign a p * withSign b q = withSign (a ^^ b) (p * q) := by
  cases a <;> cases b <;> simp [withSign]

theorem withSign_div (a b : Bool) (p q : ℚ) :
    withSign a p / withSign b q = withSign (a ^^ b) (p / q) := by
  cases a <;> cases b <;> simp [withSign, neg_div, div_neg]

theorem value_eq (x : Decimal) : x.value = withSign x.negative (x.coefficient / 10 ^ x.scale) := by
  unfold value signed withSign
  split <;> simp [neg_div]

theorem value_mk {negative : Bool} {coefficient scale : Nat} (hc : coefficient < twoTo 96)
    (hs : scale ≤ 28) :
    (Decimal.mk negative coefficient scale hc hs).value =
      withSign negative (coefficient / 10 ^ scale) :=
  value_eq _

/-- Taking the sign from a zero does not change the number. -/
theorem withSign_and_ne_zero (negative : Bool) (n : Nat) (d : ℚ) :
    withSign (negative && n != 0) (n / d) = withSign negative (n / d) := by
  by_cases h : n = 0
  · simp [h]
  · simp [bne_iff_ne.mpr h]

theorem abs_value (x : Decimal) : |x.value| = x.coefficient / 10 ^ x.scale := by
  rw [value_eq, abs_withSign, abs_of_nonneg (by positivity)]

theorem le_iff {x y : Decimal} : x ≤ y ↔ x.value ≤ y.value := by
  change x.signed * tenTo y.scale ≤ y.signed * tenTo x.scale ↔ _
  rw [value, value, div_le_div_iff₀ (by positivity) (by positivity), ← cast_tenTo, ← cast_tenTo]
  exact_mod_cast Iff.rfl

theorem lt_iff {x y : Decimal} : x < y ↔ x.value < y.value := by
  change x.signed * tenTo y.scale < y.signed * tenTo x.scale ↔ _
  rw [value, value, div_lt_div_iff₀ (by positivity) (by positivity), ← cast_tenTo, ← cast_tenTo]
  exact_mod_cast Iff.rfl

theorem same_iff {x y : Decimal} : x.Same y ↔ x.value = y.value := by
  rw [Same, value, value, div_eq_div_iff (by positivity) (by positivity), ← cast_tenTo,
    ← cast_tenTo]
  exact_mod_cast Iff.rfl

theorem isPositive_iff {x : Decimal} : x.IsPositive ↔ 0 < x.value := by
  rw [IsPositive, value, lt_div_iff₀ (by positivity), zero_mul]
  exact_mod_cast Iff.rfl

theorem isZero_iff {x : Decimal} : x.isZero = true ↔ x.value = 0 := by
  rw [← abs_eq_zero, abs_value]
  simp [isZero]

@[simp] theorem value_zero : zero.value = 0 := by simp [value, zero, signed]

@[simp] theorem value_one : one.value = 1 := by simp [value, one, signed]

@[simp] theorem value_ten : ten.value = 10 := by simp [value, ten, signed]

theorem value_greatest : greatest.value = 79228162514264337593543950335 := by
  simp [value, greatest, signed, twoTo_ninetySix]

theorem value_ofUInt32 (n : UInt32) : (ofUInt32 n).value = n.toNat := by
  simp [value, ofUInt32, signed]

theorem value_neg (x : Decimal) : x.neg.value = -x.value := by
  by_cases h : x.isZero
  · have hx := isZero_iff.mp h
    have hn : x.neg.isZero = true := h
    rw [isZero_iff.mp hn, hx, neg_zero]
  · rw [value_eq, value_eq]
    cases hx : x.negative <;> simp [neg, h, hx, withSign]

theorem value_least (x y : Decimal) : (x.least y).value = min x.value y.value := by
  rw [least]
  split
  · rename_i h
    exact (min_eq_right (lt_iff.mp h).le).symm
  · rename_i h
    exact (min_eq_left (not_lt.mp fun hlt => h (lt_iff.mpr hlt))).symm

theorem abs_value_le (x : Decimal) : |x.value| ≤ greatest.value := by
  have hc : (x.coefficient : ℚ) ≤ 79228162514264337593543950335 := by
    have := x.coefficient_lt
    rw [twoTo_ninetySix] at this
    exact_mod_cast Nat.le_of_lt_succ this
  have hs : (1 : ℚ) ≤ 10 ^ x.scale := one_le_pow₀ (by norm_num)
  rw [abs_value, value_greatest, div_le_iff₀ (by positivity)]
  calc (x.coefficient : ℚ) ≤ 79228162514264337593543950335 * 1 := by linarith
    _ ≤ 79228162514264337593543950335 * 10 ^ x.scale := by gcongr

/-- There is a gap around zero. -/
theorem le_abs_value {x : Decimal} (h : x.value ≠ 0) : 1 / 10 ^ 28 ≤ |x.value| := by
  have hc : x.coefficient ≠ 0 := fun hc => h (isZero_iff.mp (by simp [isZero, hc]))
  have hc' : (1 : ℚ) ≤ x.coefficient := by exact_mod_cast Nat.one_le_iff_ne_zero.mpr hc
  have hs : (10 : ℚ) ^ x.scale ≤ 10 ^ 28 := pow_le_pow_right₀ (by norm_num) x.scale_le
  rw [abs_value, div_le_div_iff₀ (by positivity) (by positivity)]
  nlinarith [pow_pos (by norm_num : (0 : ℚ) < 10) x.scale]

theorem stripZeros_value (coefficient scale : Nat) :
    ((stripZeros coefficient scale).1 : ℚ) / 10 ^ (stripZeros coefficient scale).2 =
      coefficient / 10 ^ scale := by
  induction scale generalizing coefficient with
  | zero => simp [stripZeros]
  | succ scale ih =>
    rw [stripZeros]
    split
    · rename_i h
      have hd : (coefficient : ℚ) = (coefficient / 10 : Nat) * 10 := by
        exact_mod_cast (Nat.div_mul_cancel (Nat.dvd_of_mod_eq_zero h)).symm
      rw [ih, hd, pow_succ]
      field_simp
    · rfl

theorem value_normalize (x : Decimal) : x.normalize.value = x.value := by
  rw [normalize]
  split
  · rename_i h
    rw [isZero_iff.mp h, value_zero]
  · rw [value_mk, stripZeros_value, ← value_eq]

/-- A fraction of a power of ten up to the 28th is held if its numerator fits. -/
theorem representable_div {n : Int} {s : Nat} (hn : n.natAbs < twoTo 96) (hs : s ≤ 28) :
    Representable (n / 10 ^ s) := by
  refine ⟨⟨n < 0, n.natAbs, s, hn, hs⟩, ?_⟩
  have hsigned : signed ⟨n < 0, n.natAbs, s, hn, hs⟩ = n := by
    by_cases h : n < 0
    · simp [signed, h, abs_of_neg h]
    · simp [signed, h, abs_of_nonneg (not_lt.mp h)]
  rw [value, hsigned]

theorem Representable.neg {q : ℚ} (h : Representable q) : Representable (-q) := by
  obtain ⟨x, rfl⟩ := h
  exact ⟨x.neg, value_neg x⟩

theorem Representable.of_withSign {negative : Bool} {q : ℚ}
    (h : Representable (withSign negative q)) : Representable q := by
  cases negative with
  | false => exact h
  | true => simpa [withSign] using h.neg

theorem representable_zero : Representable 0 := ⟨zero, value_zero⟩

theorem Representable.abs_le {q : ℚ} (h : Representable q) : |q| ≤ greatest.value := by
  obtain ⟨x, rfl⟩ := h
  exact x.abs_value_le

end Decimal

end SweepAudit
