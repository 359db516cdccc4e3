import SweepAudit.Proofs.Decimal.Nearest

/-!
The rounding of sums, products and quotients. What a decimal cannot hold goes to the nearest whole
number of units of the finest scale that has room for it, a half to the even neighbour. So a
result depends on the exact number alone, it keeps the order of the exact numbers, and it is off by
no more than half a unit; and it is given up exactly if not even the unit has room for it.
-/

namespace SweepAudit.Decimal

variable {q q' r r' : ℚ} {n n' s s' : Nat} {o o' : Option Decimal}

/-- A magnitude is rounded to so many units of a scale, which is the last one or the last that has
room for it. -/
structure HalfEven (q : ℚ) (n s : Nat) : Prop where
  fits : n < twoTo 96
  scale_le : s ≤ 28
  near : |q * 10 ^ s - n| ≤ 1 / 2
  even : |q * 10 ^ s - n| = 1 / 2 → n % 2 = 0
  full : s = 28 ∨ 2 ^ 96 - 1 / 2 ≤ q * 10 ^ (s + 1)

/-- So large that it is not even rounded to the greatest decimal. -/
def Beyond (q : ℚ) : Prop := 2 ^ 96 - 1 / 2 ≤ |q|

theorem Beyond.mono (h0 : 0 ≤ q) (hq : q ≤ q') (h : Beyond q) : Beyond q' :=
  h.trans (abs_le_abs_of_nonneg h0 hq)

theorem not_beyond_of_le (h : |q| ≤ greatest.value) : ¬Beyond q := by
  rw [value_greatest] at h
  rw [Beyond, not_le]
  linarith

namespace HalfEven

/-- The greatest coefficient is odd, so a half above it is not rounded to it. -/
theorem room (h : HalfEven q n s) : q * 10 ^ s < 2 ^ 96 - 1 / 2 := by
  have hfits := h.fits
  rw [twoTo_ninetySix] at hfits
  have hnear := (abs_le.mp h.near).2
  rcases Nat.lt_or_ge n 79228162514264337593543950335 with hlt | hge
  · have : (n : ℚ) + 1 ≤ 79228162514264337593543950335 := by exact_mod_cast hlt
    linarith
  · obtain rfl : n = 79228162514264337593543950335 := by omega
    have hodd : |q * 10 ^ s - (79228162514264337593543950335 : Nat)| ≠ 1 / 2 := fun htie => by
      have := h.even htie
      omega
    have hlt := lt_of_le_of_ne h.near hodd
    have := (abs_lt.mp hlt).2
    push_cast at this
    linarith

theorem mono_units (h : HalfEven q n s) (h' : HalfEven q' n' s) (hq : q ≤ q') : n ≤ n' := by
  have hpos : (0 : ℚ) < 10 ^ s := by positivity
  have hunits : q * 10 ^ s ≤ q' * 10 ^ s := by gcongr
  have hlow := (abs_le.mp h.near).1
  have hhigh := (abs_le.mp h'.near).2
  by_contra hlt
  have hsucc : (n' : ℚ) + 1 ≤ n := by exact_mod_cast not_le.mp hlt
  -- Both are halves between the same two neighbours, of which only one is even.
  have htie : |q * 10 ^ s - n| = 1 / 2 := by
    rw [abs_of_nonpos (by linarith)]
    linarith
  have htie' : |q' * 10 ^ s - n'| = 1 / 2 := by
    rw [abs_of_nonneg (by linarith)]
    linarith
  have heven := h.even htie
  have heven' := h'.even htie'
  have hn : n = n' + 1 := by
    have : (n : ℚ) = n' + 1 := by linarith
    exact_mod_cast this
  omega

/-- Rounding keeps the order, across scales as well. -/
theorem mono (h : HalfEven q n s) (h' : HalfEven q' n' s') (h0 : 0 ≤ q) (hq : q ≤ q') :
    (n : ℚ) / 10 ^ s ≤ n' / 10 ^ s' := by
  rcases lt_trichotomy s s' with hlt | rfl | hgt
  · -- The smaller number had room at the finer scale as well.
    have hfull := h.full.resolve_left (by have := h'.scale_le; omega)
    have hpow : (10 : ℚ) ^ (s + 1) ≤ 10 ^ s' := pow_le_pow_right₀ (by norm_num) hlt
    have hroom := h'.room
    have hq' := h0.trans hq
    have : q * 10 ^ (s + 1) ≤ q' * 10 ^ s' := by gcongr
    linarith
  · have hle : (n : ℚ) ≤ n' := by exact_mod_cast h.mono_units h' hq
    gcongr
  · have hfull := h'.full.resolve_left (by have := h.scale_le; omega)
    have hcarried := greatest_le_of_near h'.near (by
      rw [mul_assoc, ← pow_succ, value_greatest]
      linarith)
    have hfits : (n : ℚ) ≤ greatest.value := by
      have := h.fits
      rw [twoTo_ninetySix] at this
      rw [value_greatest]
      exact_mod_cast Nat.le_of_lt_succ this
    have hpow : (10 : ℚ) ^ (s' + 1) ≤ 10 ^ s := pow_le_pow_right₀ (by norm_num) hgt
    calc (n : ℚ) / 10 ^ s ≤ n' * 10 / 10 ^ (s' + 1) := by
          gcongr
          exact hfits.trans hcarried
      _ = n' / 10 ^ s' := by rw [pow_succ]; field_simp

theorem roundsTo (h : HalfEven q n s) : RoundsTo q (n / 10 ^ s) :=
  roundsTo_of_near h.near (h.full.imp id fun hfull => by rw [value_greatest]; linarith)

/-- In units of the scale the error is at most a half. -/
theorem error_le (h : HalfEven q n s) : |(n : ℚ) / 10 ^ s - q| ≤ 1 / 2 / 10 ^ s := by
  have hpos : (0 : ℚ) < 10 ^ s := by positivity
  rw [le_div_iff₀ hpos, ← abs_of_pos hpos, ← abs_mul, abs_of_pos hpos, sub_mul,
    div_mul_cancel₀ _ hpos.ne', abs_sub_comm]
  exact h.near

end HalfEven

/-- So many units of a scale are rounded to themselves if they fill it. -/
theorem halfEven_units (hn : n < twoTo 96) (hs : s ≤ 28) (full : s = 28 ∨ twoTo 96 ≤ n * 10) :
    HalfEven (n / 10 ^ s) n s := by
  have hpos : (0 : ℚ) < 10 ^ s := by positivity
  have hexact : |(n : ℚ) / 10 ^ s * 10 ^ s - n| = 0 := by
    rw [div_mul_cancel₀ _ hpos.ne', sub_self, abs_zero]
  refine ⟨hn, hs, by rw [hexact]; norm_num, fun htie => ?_, full.imp id fun hfull => ?_⟩
  · rw [hexact] at htie
    norm_num at htie
  · have hbig : (79228162514264337593543950336 : ℚ) ≤ n * 10 := by
      rw [twoTo_ninetySix] at hfull
      exact_mod_cast hfull
    have hunits : (n : ℚ) / 10 ^ s * 10 ^ (s + 1) = n * 10 := by
      rw [pow_succ]
      field_simp
    linarith

/-- What a scale has room for has the same value at one that it fills. -/
theorem exists_halfEven (hn : n < twoTo 96) (hs : s ≤ 28) :
    ∃ n' s', HalfEven (n / 10 ^ s) n' s' ∧ (n' : ℚ) / 10 ^ s' = n / 10 ^ s := by
  induction h : 28 - s generalizing n s with
  | zero => exact ⟨n, s, halfEven_units hn hs (.inl (by omega)), rfl⟩
  | succ k ih =>
    by_cases hfits : n * 10 < twoTo 96
    · have hunits : ((n * 10 : Nat) : ℚ) / 10 ^ (s + 1) = n / 10 ^ s := by
        push_cast
        rw [pow_succ]
        field_simp
      have hnext := ih hfits (by omega : s + 1 ≤ 28) (by omega)
      rwa [hunits] at hnext
    · exact ⟨n, s, halfEven_units hn hs (.inr (not_lt.mp hfits)), rfl⟩

/-- What is less than half a unit of the last place is rounded to nothing. -/
theorem halfEven_zero (h0 : 0 ≤ q) (hq : q * 10 ^ 28 < 1 / 2) : HalfEven q 0 28 := by
  have hnear : |q * 10 ^ 28 - (0 : Nat)| < 1 / 2 := by
    rw [Nat.cast_zero, sub_zero, abs_of_nonneg (by positivity)]
    exact hq
  exact ⟨twoTo_pos 96, le_rfl, hnear.le, fun htie => absurd htie hnear.ne, .inl rfl⟩

/-- Units that have been carried to `2 ^ 96` are rounded up at the next scale. -/
theorem halfEven_carried (hs : s + 1 ≤ 28)
    (near : |q * 10 ^ (s + 1) - (79228162514264337593543950336 : Nat)| ≤ 1 / 2) :
    HalfEven q ((79228162514264337593543950336 + 5) / 10) s := by
  rw [abs_le] at near
  push_cast at near
  have hup : (79228162514264337593543950336 + 5) / 10 = 7922816251426433759354395034 := by decide
  have hnear : |q * 10 ^ s - (7922816251426433759354395034 : Nat)| < 1 / 2 := by
    rw [pow_succ (10 : ℚ), ← mul_assoc] at near
    rw [abs_lt]
    push_cast
    constructor <;> linarith
  rw [hup]
  refine ⟨by decide, by omega, hnear.le, fun htie => absurd htie hnear.ne, .inr ?_⟩
  linarith

/-- `r` is what decimal arithmetic makes of the exact number `q`. -/
def RoundsHalfEven (q r : ℚ) : Prop :=
  ∃ n s, HalfEven |q| n s ∧ r = withSign (q < 0) (n / 10 ^ s)

theorem withSign_abs (q : ℚ) : withSign (q < 0) |q| = q := by
  by_cases h : q < 0
  · simp [withSign, h, abs_of_neg h]
  · simp [withSign, h, abs_of_nonneg (not_lt.mp h)]

theorem withSign_not (negative : Bool) (q : ℚ) :
    withSign (!negative) q = withSign true (withSign negative q) := by
  cases negative <;> simp [withSign]

theorem HalfEven.signed (h : HalfEven q n s) (h0 : 0 ≤ q) (negative : Bool) :
    RoundsHalfEven (withSign negative q) (withSign negative (n / 10 ^ s)) := by
  refine ⟨n, s, by rwa [abs_withSign, abs_of_nonneg h0], ?_⟩
  cases negative with
  | false => simp [withSign, not_lt.mpr h0]
  | true =>
    rcases h0.eq_or_lt with rfl | hpos
    · -- Nothing but zero is rounded to zero units here, so the sign does not matter.
      have hnear := (abs_le.mp h.near).1
      have hzero : n = 0 := by
        have : (n : ℚ) < 1 := by linarith
        exact_mod_cast Nat.lt_one_iff.mp (by exact_mod_cast this)
      simp [hzero]
    · simp [withSign, hpos]

theorem HalfEven.roundsHalfEven (h : HalfEven q n s) (h0 : 0 ≤ q) :
    RoundsHalfEven q (n / 10 ^ s) :=
  h.signed h0 false

namespace RoundsHalfEven

/-- The sign of a result has no part in its rounding. -/
theorem signed (h : RoundsHalfEven q r) (negative : Bool) :
    RoundsHalfEven (withSign negative q) (withSign negative r) := by
  cases negative with
  | false => exact h
  | true =>
    obtain ⟨n, s, hround, rfl⟩ := h
    have hopposite := hround.signed (abs_nonneg q) (!decide (q < 0))
    rwa [withSign_not, withSign_not, withSign_abs] at hopposite

theorem roundsTo (h : RoundsHalfEven q r) : RoundsTo q r := by
  obtain ⟨n, s, hround, rfl⟩ := h
  have := hround.roundsTo.withSign (q < 0)
  rwa [withSign_abs] at this

theorem representable (h : RoundsHalfEven q r) : Representable r := by
  obtain ⟨n, s, hround, rfl⟩ := h
  exact ⟨⟨q < 0, n, s, hround.fits, hround.scale_le⟩, value_mk hround.fits hround.scale_le⟩

theorem mono (h : RoundsHalfEven q r) (h' : RoundsHalfEven q' r') (hq : q ≤ q') : r ≤ r' := by
  rcases le_or_gt 0 q with h0 | h0
  · obtain ⟨n, s, hround, rfl⟩ := h
    obtain ⟨n', s', hround', rfl⟩ := h'
    have hle := hround.mono hround' (abs_nonneg q) (by
      rwa [abs_of_nonneg h0, abs_of_nonneg (h0.trans hq)])
    simpa [withSign, not_lt.mpr h0, not_lt.mpr (h0.trans hq)] using hle
  · rcases le_or_gt 0 q' with h0' | h0'
    · exact (h.roundsTo.le representable_zero h0.le).trans (h'.roundsTo.nonneg h0')
    · obtain ⟨n, s, hround, rfl⟩ := h
      obtain ⟨n', s', hround', rfl⟩ := h'
      have hle := hround'.mono hround (abs_nonneg q') (by
        rwa [abs_of_neg h0, abs_of_neg h0', neg_le_neg_iff])
      simpa [withSign, h0, h0'] using hle

theorem unique (h : RoundsHalfEven q r) (h' : RoundsHalfEven q r') : r = r' :=
  le_antisymm (h.mono h' le_rfl) (h'.mono h le_rfl)

theorem not_beyond (h : RoundsHalfEven q r) : ¬Beyond q := by
  obtain ⟨n, s, hround, -⟩ := h
  have hroom := hround.room
  have hpow : (1 : ℚ) ≤ 10 ^ s := one_le_pow₀ (by norm_num)
  have : |q| * 1 ≤ |q| * 10 ^ s := by gcongr
  rw [Beyond, not_le]
  linarith

/-- The error is half a unit of the last place, or next to nothing against the number. -/
theorem error_le (h : RoundsHalfEven q r) :
    |r - q| ≤ 1 / 2 / 10 ^ 28 ∨ |r - q| ≤ 1 / 2 ∧ |r - q| * (2 ^ 96 - 1 / 2) ≤ 5 * |q| := by
  obtain ⟨n, s, hround, rfl⟩ := h
  have hsplit : |withSign (q < 0) ((n : ℚ) / 10 ^ s) - q| = |(n : ℚ) / 10 ^ s - (|q|)| := by
    by_cases h0 : q < 0
    · rw [abs_of_neg h0, ← abs_neg]
      simp [withSign, h0]
      ring_nf
    · simp [withSign, h0, abs_of_nonneg (not_lt.mp h0)]
  rw [hsplit]
  have herror := hround.error_le
  rcases hround.full with rfl | hfull
  · exact .inl herror
  · have hpos : (0 : ℚ) < 10 ^ s := by positivity
    refine .inr ⟨herror.trans ?_, ?_⟩
    · rw [div_le_iff₀ hpos]
      nlinarith [one_le_pow₀ (by norm_num : (1 : ℚ) ≤ 10) (n := s)]
    · calc |(n : ℚ) / 10 ^ s - (|q|)| * (2 ^ 96 - 1 / 2)
          ≤ 1 / 2 / 10 ^ s * (|q| * 10 ^ (s + 1)) := by gcongr
        _ = 5 * |q| := by rw [pow_succ]; field_simp; ring

theorem near (h : RoundsHalfEven q r) : |r - q| ≤ 1 / 2 := by
  rcases h.error_le with hle | ⟨hle, -⟩
  · exact hle.trans (by norm_num)
  · exact hle

end RoundsHalfEven

/-- Nothing is made of a number that a decimal holds. -/
theorem roundsHalfEven_value (x : Decimal) : RoundsHalfEven x.value x.value := by
  obtain ⟨n, s, hround, hvalue⟩ := exists_halfEven x.coefficient_lt x.scale_le
  have hsigned := hround.signed (by positivity) x.negative
  rwa [hvalue, ← value_eq] at hsigned

/-! Operations -/

/-- An operation with the exact result `q` comes to its rounding, or is given up if there is no
room for that. -/
def Settled (q : ℚ) : Option Decimal → Prop
  | some z => RoundsHalfEven q z.value
  | none => Beyond q

namespace Settled

theorem of_value_eq {x : Decimal} (h : x.value = q) : Settled q (some x) := by
  rw [← h]
  exact roundsHalfEven_value x

theorem rounded (h : Settled q o) : Rounded q o := by
  cases o with
  | none =>
    rw [Settled, Beyond] at h
    rw [Rounded, value_greatest]
    linarith
  | some z => exact h.roundsTo

theorem eq_none_iff (h : Settled q o) : o = none ↔ Beyond q := by
  cases o with
  | none => exact iff_of_true rfl h
  | some z => exact iff_of_false (Option.some_ne_none z) h.not_beyond

theorem unique (h : Settled q o) (h' : Settled q o') : o.map value = o'.map value := by
  cases o with
  | none => rw [h'.eq_none_iff.mpr h]
  | some z =>
    cases o' with
    | none => exact absurd h' h.not_beyond
    | some z' => exact congrArg some (RoundsHalfEven.unique h h')

end Settled

end SweepAudit.Decimal
