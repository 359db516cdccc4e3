import SweepAudit.Decimal.Text
import SweepAudit.Proofs.Decimal.Arithmetic

/-!
Decimals of equal value. At whatever scales they are held, their sums and products are equal again,
or too large alike, even where these are rounded; and they have one canonical text.
-/

namespace SweepAudit.Decimal

variable {p s p' s' : Nat} {x y x' y' : Decimal}

/-- Sums of equal numbers are equal, or both too large. -/
theorem add?_congr (hx : x.value = x'.value) (hy : y.value = y'.value) :
    (x.add? y).map value = (x'.add? y').map value := by
  have h := add?_settled x y
  rw [hx, hy] at h
  exact h.unique (add?_settled x' y')

/-- So are products. -/
theorem mul?_congr (hx : x.value = x'.value) (hy : y.value = y'.value) :
    (x.mul? y).map value = (x'.mul? y').map value := by
  have h := mul?_settled x y
  rw [hx, hy] at h
  exact h.unique (mul?_settled x' y')

theorem isZero_congr (h : x.value = x'.value) : x.isZero = x'.isZero := by
  rw [Bool.eq_iff_iff, isZero_iff, isZero_iff, h]

theorem negative_iff (h : x.isZero = false) : x.negative = true ↔ x.value < 0 := by
  have hne : x.coefficient ≠ 0 := by simpa [isZero] using h
  have hpos : (0 : ℚ) < x.coefficient / 10 ^ x.scale := by positivity
  rw [value_eq, withSign]
  cases x.negative with
  | false => simpa using hpos.le
  | true => simpa using hpos

theorem negative_congr (h : x.value = x'.value) (hx : x.isZero = false) :
    x.negative = x'.negative := by
  rw [Bool.eq_iff_iff, negative_iff hx, negative_iff (isZero_congr h ▸ hx), h]

/-! One text for equal numbers -/

theorem scaled_of_eq {j : Nat} (h : (p : ℚ) / 10 ^ s = p' / 10 ^ (s + j)) : p' = p * 10 ^ j := by
  rw [pow_add, div_eq_div_iff (by positivity) (by positivity)] at h
  have hscaled : (p' : ℚ) * 10 ^ s = (p * 10 ^ j : Nat) * 10 ^ s := by
    rw [← h]
    push_cast
    ring
  exact_mod_cast mul_right_cancel₀ (by positivity) hscaled

theorem stripZeros_stripped (coefficient scale : Nat) :
    (stripZeros coefficient scale).2 = 0 ∨ (stripZeros coefficient scale).1 % 10 ≠ 0 := by
  induction scale generalizing coefficient with
  | zero => exact .inl rfl
  | succ scale ih =>
    rw [stripZeros]
    split
    · exact ih _
    · rename_i h
      exact .inr h

/-- A number without zeros at the end of its fraction has one scale only. -/
theorem stripped_unique (h : (p : ℚ) / 10 ^ s = p' / 10 ^ s') (hp : s = 0 ∨ p % 10 ≠ 0)
    (hp' : s' = 0 ∨ p' % 10 ≠ 0) : p = p' ∧ s = s' := by
  wlog hle : s ≤ s' generalizing p s p' s'
  · obtain ⟨hp, hs⟩ := this h.symm hp' hp (not_le.mp hle).le
    exact ⟨hp.symm, hs.symm⟩
  obtain ⟨j, rfl⟩ := Nat.exists_eq_add_of_le hle
  have hscaled := scaled_of_eq h
  cases j with
  | zero => exact ⟨by simpa using hscaled.symm, rfl⟩
  | succ j =>
    rw [hscaled, pow_succ, ← Nat.mul_assoc, Nat.mul_mod_left] at hp'
    simp at hp'

theorem stripZeros_congr (h : (p : ℚ) / 10 ^ s = p' / 10 ^ s') :
    stripZeros p s = stripZeros p' s' := by
  rw [← stripZeros_value, ← stripZeros_value p'] at h
  obtain ⟨hp, hs⟩ := stripped_unique h (stripZeros_stripped p s) (stripZeros_stripped p' s')
  exact Prod.ext hp hs

/-- Equal numbers have one normal form. -/
theorem normalize_congr (h : x.value = x'.value) : x.normalize = x'.normalize := by
  have h0 := isZero_congr h
  cases hzero : x.isZero with
  | true => rw [normalize, normalize, if_pos hzero, if_pos (h0 ▸ hzero)]
  | false =>
    have habs : (x.coefficient : ℚ) / 10 ^ x.scale = x'.coefficient / 10 ^ x'.scale := by
      rw [← abs_value, ← abs_value, h]
    rw [normalize, normalize, if_neg (by simp [hzero]), if_neg (by simp [h0 ▸ hzero])]
    simp only [negative_congr h hzero, stripZeros_congr habs]

theorem canonical_congr (h : x.value = x'.value) : x.canonical = x'.canonical := by
  rw [canonical, canonical, normalize_congr h]

end SweepAudit.Decimal
