import SweepAudit.Proofs.Decimal.HalfEven

/-!
Sum, difference and product come to the rounding of the exact number, and they give up only on
what there is no room for. So they are exact wherever the exact result is a decimal.
-/

namespace SweepAudit.Decimal

theorem excessDigits_le_iff {p j : Nat} : excessDigits p ≤ j ↔ p / tenTo j < twoTo 96 := by
  induction j generalizing p with
  | zero =>
    rw [excessDigits]
    by_cases hp : p < twoTo 96
    · simp [hp]
    · simp [hp]
  | succ j ih =>
    by_cases hp : p < twoTo 96
    · rw [excessDigits_of_lt hp]
      exact iff_of_true (Nat.zero_le _) ((Nat.div_le_self _ _).trans_lt hp)
    · rw [excessDigits, if_neg hp, Nat.add_le_add_iff_right, ih, Nat.div_div_eq_div_mul, tenTo_succ,
        Nat.mul_comm 10]

/-- A rounded coefficient is settled at its scale, or at the next one if it has been carried to
`2 ^ 96`. -/
theorem settle_settled (negative : Bool) {q : ℚ} {n s : Nat} (hn : n ≤ twoTo 96) (hs : s ≤ 28)
    (h0 : 0 ≤ q) (near : |q * 10 ^ s - n| ≤ 1 / 2)
    (even : |q * 10 ^ s - n| = 1 / 2 → n % 2 = 0)
    (full : s = 28 ∨ 2 ^ 96 - 1 / 2 ≤ q * 10 ^ (s + 1)) :
    Settled (withSign negative q) (settle negative n s) := by
  rw [settle]
  split
  · rename_i hlt
    rw [ofParts?_eq_some hlt hs, Settled, value_mk, withSign_and_ne_zero]
    exact HalfEven.signed ⟨hlt, hs, near, even, full⟩ h0 negative
  · rename_i hge
    obtain rfl : n = 79228162514264337593543950336 := by rw [twoTo_ninetySix] at hn hge; omega
    cases s with
    | zero =>
      have hlow := (abs_le.mp near).1
      rw [if_pos rfl, Settled, Beyond, abs_withSign, abs_of_nonneg h0]
      rw [pow_zero, mul_one] at hlow
      push_cast at hlow
      linarith
    | succ s =>
      have hround := halfEven_carried hs near
      rw [if_neg (Nat.succ_ne_zero s), Nat.add_sub_cancel,
        ofParts?_eq_some hround.fits hround.scale_le, Settled, value_mk]
      exact hround.signed h0 negative

theorem roundHalfEven_le {p d : Nat} (h : p / d < twoTo 96) : roundHalfEven p d ≤ twoTo 96 :=
  (roundHalfEven_bounds p d).2.trans h

theorem fit_settled (negative : Bool) (p s : Nat) :
    Settled (withSign negative (p / 10 ^ s)) (fit negative p s) := by
  by_cases hheld : p < twoTo 96 ∧ s ≤ 28
  · rw [fit_of_lt hheld.1 hheld.2]
    exact Settled.of_value_eq (by rw [value_mk, withSign_and_ne_zero])
  simp only [fit]
  generalize hd : max (excessDigits p) (s - 28) = d
  have hpos : 0 < d := by
    have := @excessDigits_le_iff p 0
    rw [tenTo_zero, Nat.div_one] at this
    omega
  have hexcess : p / tenTo d < twoTo 96 := excessDigits_le_iff.mp (hd ▸ le_max_left _ _)
  split
  · -- More digits would have to go than stand behind the point.
    rename_i hlt
    have hp : ¬p / tenTo s < twoTo 96 := fun h => by
      have := excessDigits_le_iff.mpr h
      omega
    have hq : (79228162514264337593543950336 : ℚ) ≤ p / 10 ^ s := by
      rw [le_div_iff₀ (by positivity), ← cast_tenTo]
      rw [not_lt, Nat.le_div_iff_mul_le (tenTo_pos s), twoTo_ninetySix] at hp
      exact_mod_cast hp
    rw [Settled, Beyond, abs_withSign, abs_of_nonneg (by positivity)]
    linarith
  · rename_i hle
    rw [not_lt] at hle
    have hs : s - d ≤ 28 := by omega
    have hsplit : (10 : ℚ) ^ s = 10 ^ (s - d) * 10 ^ d := by
      rw [← pow_add, Nat.sub_add_cancel hle]
    have hunit : (p : ℚ) / 10 ^ s * 10 ^ (s - d) = p / tenTo d := by
      rw [hsplit, cast_tenTo]
      field_simp
    have near := roundHalfEven_near p (tenTo_pos d)
    have even := roundHalfEven_even p (tenTo_pos d)
    rw [← hunit] at near even
    refine settle_settled negative (roundHalfEven_le hexcess) hs (by positivity) near even ?_
    by_cases h28 : s - d = 28
    · exact .inl h28
    · right
      have hbig : ¬p / tenTo (d - 1) < twoTo 96 := fun h => by
        have := excessDigits_le_iff.mpr h
        omega
      rw [not_lt, Nat.le_div_iff_mul_le (tenTo_pos _), twoTo_ninetySix] at hbig
      have hbig' : (79228162514264337593543950336 : ℚ) * 10 ^ (d - 1) ≤ p := by
        rw [← cast_tenTo]
        exact_mod_cast hbig
      have hdone : (10 : ℚ) ^ d = 10 ^ (d - 1) * 10 := by
        rw [← pow_succ, Nat.sub_add_cancel hpos]
      rw [pow_succ (10 : ℚ), ← mul_assoc, hunit, cast_tenTo, hdone, div_mul_eq_mul_div,
        le_div_iff₀ (by positivity)]
      nlinarith [pow_pos (by norm_num : (0 : ℚ) < 10) (d - 1)]

theorem withSign_natAbs (n : Int) (d : ℚ) :
    (n : ℚ) / d = withSign (n < 0) (n.natAbs / d) := by
  by_cases h : n < 0
  · simp [withSign, h, abs_of_neg h, neg_div]
  · simp [withSign, h, abs_of_nonneg (not_lt.mp h)]

theorem add?_zero_left {x y : Decimal} (hx : x.isZero = true) : x.add? y = some y := if_pos hx

theorem add?_zero_right {x y : Decimal} (hx : x.isZero = false) (hy : y.isZero = true) :
    x.add? y = some x := by
  rw [add?, hx, if_neg Bool.false_ne_true, if_pos hy]

/-- Two numbers that are not zero are added at a common scale, and the sum is fitted once. -/
theorem add?_fit {x y : Decimal} (hx : x.isZero = false) (hy : y.isZero = false) :
    ∃ (total : Int) (scale : Nat), x.add? y = fit (total < 0) total.natAbs scale ∧
      x.value + y.value = total / 10 ^ scale := by
  set scale := max x.scale y.scale with hscale
  set total := x.signed * tenTo (scale - x.scale) + y.signed * tenTo (scale - y.scale) with htotal
  refine ⟨total, scale, ?_, ?_⟩
  · rw [add?, hx, hy]
    rfl
  · have hx : (10 : ℚ) ^ scale = 10 ^ (scale - x.scale) * 10 ^ x.scale := by
      rw [← pow_add, Nat.sub_add_cancel (le_max_left _ _)]
    have hy : (10 : ℚ) ^ scale = 10 ^ (scale - y.scale) * 10 ^ y.scale := by
      rw [← pow_add, Nat.sub_add_cancel (le_max_right _ _)]
    rw [htotal, eq_div_iff (by positivity), add_mul, value, value]
    push_cast
    rw [cast_tenTo, cast_tenTo]
    nth_rewrite 1 [hx]
    rw [hy]
    field_simp

theorem add?_settled (x y : Decimal) : Settled (x.value + y.value) (x.add? y) := by
  cases hx : x.isZero with
  | true =>
    rw [add?_zero_left hx]
    exact Settled.of_value_eq (by rw [isZero_iff.mp hx, zero_add])
  | false =>
    cases hy : y.isZero with
    | true =>
      rw [add?_zero_right hx hy]
      exact Settled.of_value_eq (by rw [isZero_iff.mp hy, add_zero])
    | false =>
      obtain ⟨total, scale, hadd, hsum⟩ := add?_fit hx hy
      rw [hadd, hsum, withSign_natAbs]
      exact fit_settled _ _ _

theorem sub?_settled (x y : Decimal) : Settled (x.value - y.value) (x.sub? y) := by
  rw [sub_eq_add_neg, ← value_neg]
  exact add?_settled x y.neg

theorem mul?_settled (x y : Decimal) : Settled (x.value * y.value) (x.mul? y) := by
  have hprod : x.value * y.value = withSign (x.negative ^^ y.negative)
      ((x.coefficient * y.coefficient : Nat) / 10 ^ (x.scale + y.scale)) := by
    rw [value_eq, value_eq, withSign_mul, div_mul_div_comm, ← pow_add, Nat.cast_mul]
  rw [mul?]
  split
  · rename_i h
    rw [Bool.or_eq_true, isZero_iff, isZero_iff] at h
    exact Settled.of_value_eq (by rcases h with h | h <;> simp [h])
  · split
    · -- Less than half a unit of the last place is left.
      rename_i h
      obtain ⟨hx, hy, hs⟩ := h
      have hx' : (x.coefficient : ℚ) ≤ 4294967296 := by exact_mod_cast hx.le
      have hy' : (y.coefficient : ℚ) ≤ 4294967296 := by exact_mod_cast hy.le
      have hpow : (10 : ℚ) ^ 48 ≤ 10 ^ (x.scale + y.scale) := pow_le_pow_right₀ (by norm_num) hs
      have htiny : ((x.coefficient * y.coefficient : Nat) : ℚ) / 10 ^ (x.scale + y.scale) *
          10 ^ 28 < 1 / 2 := by
        rw [div_mul_eq_mul_div, div_lt_div_iff₀ (by positivity) (by positivity), one_mul,
          Nat.cast_mul]
        calc (x.coefficient * y.coefficient : ℚ) * 10 ^ 28 * 2
            ≤ 4294967296 * 4294967296 * 10 ^ 28 * 2 := by gcongr
          _ < 10 ^ 48 := by norm_num
          _ ≤ 10 ^ (x.scale + y.scale) := hpow
      have hround := (halfEven_zero (by positivity) htiny).signed (by positivity)
        (x.negative ^^ y.negative)
      rw [← hprod, Nat.cast_zero, zero_div, withSign_zero] at hround
      rw [Settled, value_zero]
      exact hround
    · rw [hprod]
      exact fit_settled _ _ _

/-! What follows for each operation -/

/-- A sum is given up exactly if there is no room for its rounding. -/
theorem add?_eq_none_iff {x y : Decimal} : x.add? y = none ↔ Beyond (x.value + y.value) :=
  (add?_settled x y).eq_none_iff

/-- So is a product. -/
theorem mul?_eq_none_iff {x y : Decimal} : x.mul? y = none ↔ Beyond (x.value * y.value) :=
  (mul?_settled x y).eq_none_iff

/-- Rounding changes a sum by less than a unit. -/
theorem add?_near {x y z : Decimal} (h : x.add? y = some z) :
    |z.value - (x.value + y.value)| < 1 := by
  have hround := add?_settled x y
  rw [h] at hround
  exact hround.near.trans_lt (by norm_num)

theorem add?_rounded (x y : Decimal) : Rounded (x.value + y.value) (x.add? y) :=
  (add?_settled x y).rounded

theorem mul?_rounded (x y : Decimal) : Rounded (x.value * y.value) (x.mul? y) :=
  (mul?_settled x y).rounded

end SweepAudit.Decimal
