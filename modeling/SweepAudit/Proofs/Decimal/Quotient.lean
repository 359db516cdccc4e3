import SweepAudit.Proofs.Decimal.Arithmetic

/-!
The quotient comes to the rounding of the exact number. What a division has found so far,
quotient and remainder at their scale, always stands for the exact quotient; it ends with no
remainder, or at a scale behind which no further place could be held.
-/

namespace SweepAudit.Decimal

/-- The number for which a division stands that has come to the quotient `q` and the remainder `r`
at a scale, which may be below zero. -/
def dividend (d q r : Nat) (scale : Int) : ℚ := (q + r / d) / 10 ^ scale

/-- What a division may come to if the exact quotient is `v`. -/
def Divided (v : ℚ) : Option (Nat × Int) → Prop
  | some (n, scale) =>
    n < twoTo 96 ∧ 0 ≤ scale ∧ scale ≤ 28 ∧ RoundsHalfEven v (n / 10 ^ scale.toNat)
  | none => Beyond v

theorem growth_le (q bound : Nat) : growth q bound ≤ bound := by
  induction bound with
  | zero => exact Nat.le_refl 0
  | succ bound ih =>
    rw [growth]
    split <;> omega

theorem growth_fits {q : Nat} (hq : q < twoTo 96) (bound : Nat) :
    q * tenTo (growth q bound) < twoTo 96 := by
  induction bound with
  | zero => simpa [growth] using hq
  | succ bound ih =>
    rw [growth]
    split
    · assumption
    · exact ih

theorem growth_full {q bound : Nat} (h : growth q bound < bound) :
    twoTo 96 ≤ q * tenTo (growth q bound + 1) := by
  induction bound with
  | zero => exact absurd h (Nat.not_lt_zero _)
  | succ bound ih =>
    unfold growth at h ⊢
    split at h
    · omega
    · rename_i hfull
      rw [if_neg hfull]
      by_cases hb : growth q bound < bound
      · exact ih hb
      · have : growth q bound = bound := by have := growth_le q bound; omega
        rw [this]
        exact not_lt.mp hfull

/-- A quotient that cannot grow by a single place is full. -/
theorem full_of_growth {q bound : Nat} (h : growth q bound = 0) (hbound : 0 < bound) :
    twoTo 96 ≤ q * 10 := by
  have hfull := @growth_full q bound (by omega)
  rwa [h] at hfull

/-- The places of a round neither go behind the last place of a decimal nor are more than nine. -/
theorem places_le (q r : Nat) {scale : Int} (hs : scale ≤ 28) :
    scale + ((if r = 0 then min 9 (-scale).toNat else growth q (min 9 (28 - scale).toNat) : Nat) :
      Int) ≤ 28 ∧
      (if r = 0 then min 9 (-scale).toNat else growth q (min 9 (28 - scale).toNat)) ≤ 9 := by
  split
  · omega
  · have := growth_le q (min 9 (28 - scale).toNat)
    omega

theorem zpow_toNat {scale : Int} (h : 0 ≤ scale) : (10 : ℚ) ^ scale = 10 ^ scale.toNat := by
  conv_lhs => rw [← Int.toNat_of_nonneg h]
  exact zpow_natCast 10 scale.toNat

theorem dividend_nonneg (d q r : Nat) (scale : Int) : 0 ≤ dividend d q r scale :=
  div_nonneg (by positivity) (zpow_nonneg (by norm_num) scale)

theorem dividend_mul (d q r : Nat) (scale : Int) :
    dividend d q r scale * 10 ^ scale = q + r / d := by
  rw [dividend]
  field_simp

/-- Carrying a division on by some places changes nothing about the number. -/
theorem dividend_carry {d : Nat} (hd : 0 < d) (q r places : Nat) (scale : Int) :
    dividend d (q * tenTo places + r * tenTo places / d) (r * tenTo places % d) (scale + places) =
      dividend d q r scale := by
  have hd' : (d : ℚ) ≠ 0 := by exact_mod_cast hd.ne'
  have h : ((r * tenTo places / d : Nat) : ℚ) + (r * tenTo places % d : Nat) / d =
      r * tenTo places / d := by
    rw [eq_div_iff hd', add_mul, div_mul_cancel₀ _ hd']
    exact_mod_cast Nat.div_add_mod' (r * tenTo places) d
  rw [dividend, dividend, zpow_add₀ (by norm_num), zpow_natCast, Nat.cast_add, Nat.cast_mul,
    add_assoc, h, cast_tenTo]
  field_simp

/-- A quotient that is full before its scale has come to zero is too large. -/
theorem beyond_dividend (d r : Nat) {q places : Nat} {scale : Int}
    (hfull : twoTo 96 ≤ q * tenTo places) (hs : scale + places ≤ 0) :
    Beyond (dividend d q r scale) := by
  rw [twoTo_ninetySix] at hfull
  have hfull' : (79228162514264337593543950336 : ℚ) ≤ q * 10 ^ places := by
    rw [← cast_tenTo]
    exact_mod_cast hfull
  have hpow : (10 : ℚ) ^ places ≤ 10 ^ (-scale) := by
    rw [← zpow_natCast]
    exact zpow_le_zpow_right₀ (by norm_num) (by omega)
  have hρ : (0 : ℚ) ≤ r / d := by positivity
  rw [Beyond, abs_of_nonneg (dividend_nonneg d q r scale)]
  calc (2 : ℚ) ^ 96 - 1 / 2 ≤ q * 10 ^ places := by linarith
    _ ≤ q * 10 ^ (-scale) := by gcongr
    _ ≤ (q + r / d) * 10 ^ (-scale) :=
      mul_le_mul_of_nonneg_right (le_add_of_nonneg_right hρ) (zpow_nonneg (by norm_num) _)
    _ = dividend d q r scale := by rw [zpow_neg]; exact (div_eq_mul_inv _ _).symm

theorem unscale_divided {v : ℚ} {q : Nat} {scale : Int} {sticky : Bool} {ρ : ℚ} (hv0 : 0 ≤ v)
    (hv : v * 10 ^ scale = q + ρ) (h0 : 0 ≤ ρ) (h1 : ρ < 1) (hsticky : sticky = false ↔ ρ = 0)
    (hq : twoTo 96 ≤ q) (hlt : q < 2 * twoTo 96) (hs : scale ≤ 28) :
    Divided v (unscale q scale sticky) := by
  rw [twoTo_ninetySix] at hq hlt
  have hq' : (79228162514264337593543950336 : ℚ) ≤ q := by exact_mod_cast hq
  rw [unscale]
  split
  · -- All that is left of the scale is the whole part, which is too large.
    have hpow : (10 : ℚ) ^ scale ≤ 1 := zpow_le_one_of_nonpos₀ (by norm_num) (by omega)
    rw [Divided, Beyond, abs_of_nonneg hv0]
    have : v * 10 ^ scale ≤ v * 1 := by gcongr
    linarith
  · rename_i hscale
    have hten : (10 : ℚ) ^ scale = 10 ^ (scale - 1).toNat * 10 := by
      rw [← zpow_toNat (by omega), ← zpow_add_one₀ (by norm_num), sub_add_cancel]
    have hfull : (2 : ℚ) ^ 96 - 1 / 2 ≤ v * 10 ^ ((scale - 1).toNat + 1) := by
      rw [pow_succ (10 : ℚ), ← hten, hv]
      linarith
    rw [hten, ← mul_assoc] at hv
    have hmod : (q : ℚ) = 10 * (q / 10 : Nat) + (q % 10 : Nat) := by
      exact_mod_cast (Nat.div_add_mod q 10).symm
    have hlast : q % 10 < 10 := Nat.mod_lt q (by decide)
    split
    · rename_i hup
      have hdigit : (5 : ℚ) ≤ (q % 10 : Nat) := by
        have : 5 ≤ q % 10 := by omega
        exact_mod_cast this
      have hdigit' : ((q % 10 : Nat) : ℚ) ≤ 9 := by exact_mod_cast Nat.le_of_lt_succ hlast
      have hround : HalfEven v (q / 10 + 1) (scale - 1).toNat := by
        refine ⟨by rw [twoTo_ninetySix]; omega, by omega, ?_, fun htie => ?_, .inr hfull⟩
        · push_cast
          rw [abs_le]
          constructor <;> linarith
        · -- In a tie the last digit is a five with nothing behind it.
          push_cast at htie
          rw [abs_of_nonpos (by linarith)] at htie
          have hfive : ((q % 10 : Nat) : ℚ) = 5 := by linarith
          have hfive' : q % 10 = 5 := by exact_mod_cast hfive
          have hst := hsticky.mpr (by linarith)
          have hodd : q / 10 % 2 = 1 := by simpa [hfive', hst] using hup
          omega
      exact ⟨hround.fits, by omega, by omega, hround.roundsHalfEven hv0⟩
    · rename_i hdown
      have hdigit : ((q % 10 : Nat) : ℚ) + ρ ≤ 5 ∧
          (((q % 10 : Nat) : ℚ) + ρ = 5 → q % 10 = 5) := by
        by_cases h5 : q % 10 = 5
        · have hst : sticky = false := by
            cases sticky with
            | false => rfl
            | true => exact absurd (Or.inr ⟨h5, Or.inl rfl⟩) hdown
          rw [h5, hsticky.mp hst]
          norm_num
        · have : q % 10 ≤ 4 := by omega
          have : ((q % 10 : Nat) : ℚ) ≤ 4 := by exact_mod_cast this
          exact ⟨by linarith, fun h => by linarith⟩
      have hdigit' : (0 : ℚ) ≤ (q % 10 : Nat) := by positivity
      have hround : HalfEven v (q / 10) (scale - 1).toNat := by
        refine ⟨by rw [twoTo_ninetySix]; omega, by omega, ?_, fun htie => ?_, .inr hfull⟩
        · rw [abs_le]
          constructor <;> linarith
        · rw [abs_of_nonneg (by linarith)] at htie
          have hfive := hdigit.2 (by linarith)
          omega
      exact ⟨hround.fits, by omega, by omega, hround.roundsHalfEven hv0⟩

/-- The remainder decides on the last place as rounding to the even neighbour has it. -/
theorem finish_rounded {d q r : Nat} (hr : r < d) :
    (if d < 2 * r ∨ (2 * r = d ∧ q % 2 = 1) then q + 1 else q) = roundHalfEven (d * q + r) d := by
  have hdiv : (d * q + r) / d = q := by
    rw [Nat.mul_add_div (Nat.zero_lt_of_lt hr), Nat.div_eq_of_lt hr, Nat.add_zero]
  have hmod : (d * q + r) % d = r := by
    rw [Nat.mul_add_mod, Nat.mod_eq_of_lt hr]
  rw [roundHalfEven, hdiv, hmod]

theorem finish_divided {d q r : Nat} {scale : Int} (hd : 0 < d) (hr : r < d) (hq : q < twoTo 96)
    (h0 : 0 ≤ scale) (h28 : scale ≤ 28) (full : scale = 28 ∨ twoTo 96 ≤ q * 10) :
    Divided (dividend d q r scale) (finish d q r scale) := by
  have hv0 := dividend_nonneg d q r scale
  have hd' : (d : ℚ) ≠ 0 := by exact_mod_cast hd.ne'
  have hunits : dividend d q r scale * 10 ^ scale.toNat = ((d * q + r : Nat) : ℚ) / d := by
    rw [← zpow_toNat h0, dividend_mul]
    push_cast
    field_simp
  have near := roundHalfEven_near (d * q + r) hd
  have even := roundHalfEven_even (d * q + r) hd
  have hle : roundHalfEven (d * q + r) d ≤ twoTo 96 := by
    rw [← finish_rounded hr]
    split <;> omega
  rw [← hunits] at near even
  simp only [finish, finish_rounded hr]
  generalize roundHalfEven (d * q + r) d = n at near even hle ⊢
  split
  · rename_i hlt
    have hround : HalfEven (dividend d q r scale) n scale.toNat := by
      refine ⟨hlt, by omega, near, even, full.imp (fun h => by omega) fun h => ?_⟩
      rw [twoTo_ninetySix] at h
      have h' : (79228162514264337593543950336 : ℚ) ≤ q * 10 := by exact_mod_cast h
      have hρ : (0 : ℚ) ≤ r / d := by positivity
      rw [pow_succ (10 : ℚ), ← mul_assoc, ← zpow_toNat h0, dividend_mul]
      linarith
    exact ⟨hlt, h0, h28, hround.roundsHalfEven hv0⟩
  · -- The last place has been carried to `2 ^ 96`.
    obtain rfl : n = 79228162514264337593543950336 := by rw [twoTo_ninetySix] at *; omega
    rw [unscale]
    split
    · have hz : scale.toNat = 0 := by omega
      have hlow := (abs_le.mp near).1
      rw [hz, pow_zero, mul_one] at hlow
      push_cast at hlow
      rw [Divided, Beyond, abs_of_nonneg hv0]
      linarith
    · have hsucc : scale.toNat = (scale - 1).toNat + 1 := by omega
      rw [hsucc] at near
      have hround := halfEven_carried (by omega) near
      rw [if_pos (by decide)]
      exact ⟨hround.fits, by omega, by omega, hround.roundsHalfEven hv0⟩

/-- The rounds of a long division, which goes on from any quotient that still fits. -/
theorem divide_divided {d q r : Nat} {scale : Int} (hd : 0 < d) (hr : r < d) (hq : q < twoTo 96)
    (hs : scale ≤ 28) : Divided (dividend d q r scale) (divide d q r scale) := by
  fun_induction divide d q r scale with
  | case1 q r scale h =>
    obtain ⟨rfl, h0⟩ := h
    refine ⟨hq, h0, hs, ?_⟩
    rw [dividend, zpow_toNat h0, Nat.cast_zero, zero_div, add_zero]
    obtain ⟨n, s, hround, hvalue⟩ := exists_halfEven hq (by omega : scale.toNat ≤ 28)
    have hexact := hround.roundsHalfEven (by positivity)
    rwa [hvalue] at hexact
  | case2 q r scale h places hp hbig =>
    by_cases hr0 : r = 0
    · have hplaces : places = min 9 (-scale).toNat := dif_pos hr0
      exact beyond_dividend d r hbig (by omega)
    · have := growth_fits hq (min 9 (28 - scale).toNat)
      have hplaces : places = growth q (min 9 (28 - scale).toNat) := dif_neg hr0
      rw [hplaces] at hbig
      omega
  | case3 q r scale h places hp hfits q' r' hq' ih =>
    rw [← dividend_carry hd q r places scale]
    exact ih (Nat.mod_lt _ hd) hq' (places_le q r hs).1
  | case4 q r scale h places hp hfits q' r' hq' =>
    have hle : scale + places ≤ 28 ∧ places ≤ 9 := places_le q r hs
    have hd' : (0 : ℚ) < d := by exact_mod_cast hd
    have hr' : r' < d := Nat.mod_lt _ hd
    have hgain : r * tenTo places / d < tenTo places := by
      rw [Nat.div_lt_iff_lt_mul hd, Nat.mul_comm]
      exact Nat.mul_lt_mul_of_pos_left hr (tenTo_pos places)
    have hten : tenTo places ≤ tenTo 9 := Nat.pow_le_pow_right (by decide) hle.2
    rw [← dividend_carry hd q r places scale]
    refine unscale_divided (dividend_nonneg d q' r' _) (dividend_mul d q' r' _) (by positivity)
      ?_ ?_ (not_lt.mp hq') ?_ hle.1
    · rw [div_lt_one hd']
      exact_mod_cast hr'
    · rw [bne_eq_false_iff_eq, div_eq_zero_iff, Nat.cast_eq_zero, or_iff_left hd'.ne']
    · -- The quotient was not zero, or its new places would fit.
      have hq0 : q ≠ 0 := by
        rintro rfl
        have : twoTo 96 ≤ r * tenTo places / d := by simpa [q'] using hq'
        have : tenTo 9 < twoTo 96 := by decide
        omega
      have : tenTo places ≤ q * tenTo places := Nat.le_mul_of_pos_left _ (Nat.pos_of_ne_zero hq0)
      simp only [q']
      omega
  | case5 q r scale h places hp hneg =>
    have hr0 : r ≠ 0 := by
      intro hr0
      have : places = min 9 (-scale).toNat := dif_pos hr0
      omega
    have hplaces : places = growth q (min 9 (28 - scale).toNat) := dif_neg hr0
    have hzero : growth q (min 9 (28 - scale).toNat) = 0 := by omega
    have hfull : twoTo 96 ≤ q * tenTo 1 := full_of_growth hzero (by omega)
    exact beyond_dividend d r hfull (by omega)
  | case6 q r scale h places hp h0 =>
    have hr0 : r ≠ 0 := fun hr0 => h ⟨hr0, not_lt.mp h0⟩
    have hplaces : places = growth q (min 9 (28 - scale).toNat) := dif_neg hr0
    refine finish_divided hd hr hq (not_lt.mp h0) hs ?_
    by_cases h28 : scale = 28
    · exact .inl h28
    · have hzero : growth q (min 9 (28 - scale).toNat) = 0 := by omega
      exact .inr (full_of_growth hzero (by omega))

/-! Zeros at the end of an inexact quotient -/

/-- The same number with no more places and a coefficient that is no larger. -/
def Shortened (q : Nat × Nat) (n scale : Nat) : Prop :=
  q.1 ≤ n ∧ q.2 ≤ scale ∧ (q.1 : ℚ) / 10 ^ q.2 = n / 10 ^ scale

theorem shortened_div {n scale places : Nat} (hp : places ≤ scale) (h : n % tenTo places = 0) :
    Shortened (n / tenTo places, scale - places) n scale := by
  refine ⟨Nat.div_le_self _ _, Nat.sub_le _ _, ?_⟩
  have hn : (n : ℚ) = (n / tenTo places : Nat) * 10 ^ places := by
    rw [← cast_tenTo]
    exact_mod_cast (Nat.div_mul_cancel (Nat.dvd_of_mod_eq_zero h)).symm
  have hs : (10 : ℚ) ^ scale = 10 ^ (scale - places) * 10 ^ places := by
    rw [← pow_add, Nat.sub_add_cancel hp]
  dsimp only
  rw [hs, hn]
  field_simp

theorem Shortened.trans {p q : Nat × Nat} {n scale : Nat} (h : Shortened p q.1 q.2)
    (h' : Shortened q n scale) : Shortened p n scale :=
  ⟨h.1.trans h'.1, h.2.1.trans h'.2.1, h.2.2.trans h'.2.2⟩

theorem stripEights_shortened (n scale : Nat) : Shortened (stripEights n scale) n scale := by
  fun_induction stripEights n scale with
  | case1 n scale h ih => exact ih.trans (shortened_div h.2.1 h.2.2)
  | case2 n scale h => exact ⟨le_rfl, le_rfl, rfl⟩

theorem stripPlaces_shortened (places : Nat) (q : Nat × Nat) :
    Shortened (stripPlaces places q) q.1 q.2 := by
  rw [stripPlaces]
  split
  · rename_i h
    exact shortened_div h.2.1 h.2.2
  · exact ⟨le_rfl, le_rfl, rfl⟩

theorem stripInexact_shortened (n scale : Nat) : Shortened (stripInexact n scale) n scale :=
  (stripPlaces_shortened 1 _).trans ((stripPlaces_shortened 2 _).trans
    ((stripPlaces_shortened 4 _).trans (stripEights_shortened n scale)))

/-- Where the long division of two coefficients starts it stands for the quotient. -/
theorem value_div {x y : Decimal} (hd : 0 < y.coefficient) :
    x.value / y.value = withSign (x.negative ^^ y.negative)
      (dividend y.coefficient (x.coefficient / y.coefficient) (x.coefficient % y.coefficient)
        (x.scale - y.scale)) := by
  have hd' : (y.coefficient : ℚ) ≠ 0 := by exact_mod_cast hd.ne'
  have hdm : ((x.coefficient / y.coefficient : Nat) : ℚ) +
      (x.coefficient % y.coefficient : Nat) / y.coefficient = x.coefficient / y.coefficient := by
    rw [eq_div_iff hd', add_mul, div_mul_cancel₀ _ hd']
    exact_mod_cast Nat.div_add_mod' x.coefficient y.coefficient
  rw [value_eq, value_eq, withSign_div, dividend, hdm, zpow_sub₀ (by norm_num), zpow_natCast,
    zpow_natCast]
  congr 1
  field_simp

theorem div?_settled {x y : Decimal} (hy : y.value ≠ 0) :
    Settled (x.value / y.value) (x.div? y) := by
  rw [div?]
  split
  · rename_i h
    exact absurd (isZero_iff.mp h) hy
  · rename_i hy0
    have hd : 0 < y.coefficient := Nat.pos_of_ne_zero fun h => hy0 (by simp [isZero, h])
    split
    · rename_i hx
      exact Settled.of_value_eq (by rw [isZero_iff.mp hx, value_zero, zero_div])
    · have hx := x.scale_le
      have hdiv := divide_divided hd (Nat.mod_lt x.coefficient hd)
        (lt_of_le_of_lt (Nat.div_le_self x.coefficient y.coefficient) x.coefficient_lt)
        (show (x.scale : Int) - y.scale ≤ 28 by omega)
      rw [value_div hd]
      dsimp only
      split
      · rename_i hnone
        rw [hnone] at hdiv
        rw [Settled, Beyond, abs_withSign]
        exact hdiv
      · rename_i n scale hsome
        rw [hsome] at hdiv
        obtain ⟨hn, h0, h28, hround⟩ := hdiv
        generalize hparts : (if x.coefficient % y.coefficient = 0 then (n, scale.toNat)
          else stripInexact n scale.toNat) = parts
        have hshort : Shortened parts n scale.toNat := by
          rw [← hparts]
          split
          · exact ⟨le_rfl, le_rfl, rfl⟩
          · exact stripInexact_shortened n scale.toNat
        rw [ofParts?_eq_some (hshort.1.trans_lt hn) (hshort.2.1.trans (by omega)), Settled,
          value_mk, withSign_and_ne_zero, hshort.2.2]
        exact hround.signed _

end SweepAudit.Decimal
