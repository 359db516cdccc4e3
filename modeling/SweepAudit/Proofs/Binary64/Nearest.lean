import Mathlib.Algebra.Order.Field.Power
import Mathlib.Data.Int.Log
import Mathlib.Data.Rat.Floor
import SweepAudit.Binary64.Basic
import SweepAudit.Proofs.Decimal.Nearest

/-!
Doubles as rational numbers. What a ratio is rounded to depends on the number alone, is within half
a unit of it in the last place, and is the number itself where a double holds it. The bounds are
for numbers in the normal range; nothing is said of those below it.
-/

namespace SweepAudit

theorem cast_twoTo (n : Nat) : ((twoTo n : Nat) : ℚ) = 2 ^ n := by
  simp [twoTo]

/-- Equal ratios are rounded alike. -/
theorem roundHalfEven_congr {p d p' d' : Nat} (hd : 0 < d) (hd' : 0 < d') (h : p * d' = p' * d) :
    roundHalfEven p d = roundHalfEven p' d' := by
  rw [← roundHalfEven_mul p d hd', ← roundHalfEven_mul p' d' hd, h, Nat.mul_comm d]

namespace Binary64

variable {num den num' den' m : Nat} {e : Int} {negative : Bool}

theorem ratio_spec (m : Nat) (e : Int) :
    0 < (ratio m e).2 ∧ ((ratio m e).1 : ℚ) / (ratio m e).2 = m * 2 ^ e := by
  rw [ratio]
  split
  · rename_i h
    obtain ⟨n, rfl⟩ := Int.eq_ofNat_of_zero_le h
    refine ⟨Nat.one_pos, ?_⟩
    push_cast
    rw [cast_twoTo]
    simp
  · rename_i h
    obtain ⟨n, rfl⟩ : ∃ n : Nat, e = -n := ⟨(-e).toNat, by omega⟩
    refine ⟨twoTo_pos _, ?_⟩
    rw [cast_twoTo, zpow_neg, div_eq_mul_inv]
    simp

theorem log2_bounds {n : Nat} (h : 0 < n) : (2 : ℚ) ^ n.log2 ≤ n ∧ (n : ℚ) < 2 ^ (n.log2 + 1) :=
  ⟨by exact_mod_cast Nat.log2_self_le h.ne', by exact_mod_cast Nat.lt_log2_self⟩

theorem leadingBit_eq (hnum : 0 < num) (hden : 0 < den) :
    leadingBit num den = Int.log 2 ((num : ℚ) / den) := by
  have hpos : (0 : ℚ) < num / den := by positivity
  obtain ⟨hnum1, hnum2⟩ := log2_bounds hnum
  obtain ⟨hden1, hden2⟩ := log2_bounds hden
  set guess : Int := (num.log2 : Int) - den.log2 with hguess
  have hbelow : (2 : ℚ) ^ (guess - 1) ≤ num / den := by
    rw [le_div_iff₀ (by positivity)]
    calc (2 : ℚ) ^ (guess - 1) * den ≤ 2 ^ (guess - 1) * 2 ^ (den.log2 + 1) := by gcongr
      _ = 2 ^ num.log2 := by
        rw [← zpow_natCast, ← zpow_natCast, ← zpow_add₀ (by norm_num)]
        congr 1
        omega
      _ ≤ num := hnum1
  have habove : (num : ℚ) / den < 2 ^ (guess + 1) := by
    rw [div_lt_iff₀ (by positivity)]
    calc (num : ℚ) < 2 ^ (num.log2 + 1) := hnum2
      _ = 2 ^ (guess + 1) * 2 ^ den.log2 := by
        rw [← zpow_natCast, ← zpow_natCast, ← zpow_add₀ (by norm_num)]
        congr 1
        omega
      _ ≤ 2 ^ (guess + 1) * den := by gcongr
  have hlog : guess - 1 ≤ Int.log 2 ((num : ℚ) / den) :=
    (Int.zpow_le_iff_le_log (by decide) hpos).mp (by exact_mod_cast hbelow)
  have hlog' : Int.log 2 ((num : ℚ) / den) < guess + 1 :=
    (Int.lt_zpow_iff_log_lt (by decide) hpos).mp (by exact_mod_cast habove)
  obtain ⟨hq, hratio⟩ := ratio_spec den guess
  have htest : (ratio den guess).1 ≤ num * (ratio den guess).2 ↔
      guess ≤ Int.log 2 ((num : ℚ) / den) := by
    rw [← Int.zpow_le_iff_le_log (by decide) hpos, Nat.cast_ofNat, le_div_iff₀ (by positivity),
      mul_comm ((2 : ℚ) ^ guess), ← hratio, div_le_iff₀ (by positivity)]
    exact_mod_cast Iff.rfl
  simp only [leadingBit, ← hguess, htest]
  split <;> omega

/-- The exponent of the unit in which a number is rounded. -/
def place (q : ℚ) : Int := max (Int.log 2 q - 52) (-1074)

/-- A ratio in units of `2 ^ e`, rounded. -/
def units (num den : Nat) (e : Int) : Nat :=
  roundHalfEven (num * (ratio den e).2) (ratio den e).1

theorem ratio_pos (hden : 0 < den) (e : Int) : 0 < (ratio den e).1 := by
  rw [ratio]
  split
  · exact Nat.mul_pos hden (twoTo_pos _)
  · exact hden

theorem units_near (num : Nat) (hden : 0 < den) (e : Int) :
    |(num : ℚ) / den / 2 ^ e - units num den e| ≤ 1 / 2 := by
  obtain ⟨hparts, hratio⟩ := ratio_spec den e
  have hnear := Decimal.roundHalfEven_near (num * (ratio den e).2) (ratio_pos hden e)
  have hunits : (num : ℚ) / den / 2 ^ e = (num * (ratio den e).2 : Nat) / (ratio den e).1 := by
    rw [div_div, ← hratio, div_div_eq_mul_div]
    push_cast
    rfl
  rwa [hunits]

theorem units_congr (hden : 0 < den) (hden' : 0 < den') (h : num * den' = num' * den) (e : Int) :
    units num den e = units num' den' e := by
  refine roundHalfEven_congr (ratio_pos hden e) (ratio_pos hden' e) ?_
  rw [ratio, ratio]
  split
  · rw [Nat.mul_one, Nat.mul_one, ← Nat.mul_assoc, ← Nat.mul_assoc, h]
  · rw [Nat.mul_right_comm, h, Nat.mul_right_comm]

theorem ofRatio_eq (negative : Bool) (hnum : 0 < num) (hden : 0 < den) :
    ofRatio negative num den =
      let e := place (num / den)
      let m := units num den e
      let (m, e) := if m = twoTo 53 then (twoTo 52, e + 1) else (m, e)
      if 971 < e then .infinite negative else .finite negative m e := by
  rw [ofRatio, if_neg hnum.ne', leadingBit_eq hnum hden]
  rfl

/-- Equal ratios are rounded to one double. -/
theorem ofRatio_congr (hden : 0 < den) (hden' : 0 < den') (h : num * den' = num' * den) :
    ofRatio negative num den = ofRatio negative num' den' := by
  rcases Nat.eq_zero_or_pos num with rfl | hnum
  · obtain rfl : num' = 0 := by
      rw [Nat.zero_mul] at h
      exact (Nat.mul_eq_zero.mp h.symm).resolve_right hden.ne'
    rfl
  · have hnum' : 0 < num' := Nat.pos_of_mul_pos_right (h ▸ Nat.mul_pos hnum hden')
    have hq : (num : ℚ) / den = num' / den' := by
      rw [div_eq_div_iff (by positivity) (by positivity)]
      exact_mod_cast h
    rw [ofRatio_eq negative hnum hden, ofRatio_eq negative hnum' hden', hq]
    simp only [units_congr hden hden' h]

/-- The normal range, but for its upper half. -/
structure Normal (q : ℚ) : Prop where
  least_le : 2 ^ (-1022 : Int) ≤ q
  lt_top : q < 2 ^ (1023 : Int)

theorem lt_top {q : ℚ} (h : q ≤ 10 ^ 40) : q < 2 ^ (1023 : Int) := by
  refine (h.trans_lt (by norm_num : (10 : ℚ) ^ 40 < 2 ^ (133 : Int))).trans_le ?_
  exact zpow_le_zpow_right₀ (by norm_num) (by decide)

theorem normal_of_bounds {q : ℚ} (hlower : (10 ^ 40)⁻¹ ≤ q) (hupper : q ≤ 10 ^ 40) :
    Normal q where
  least_le :=
    calc (2 : ℚ) ^ (-1022 : Int) ≤ 2 ^ (-133 : Int) :=
          zpow_le_zpow_right₀ (by norm_num) (by decide)
      _ ≤ (10 ^ 40)⁻¹ := by norm_num
      _ ≤ q := hlower
  lt_top := lt_top hupper

/-- A double is this number, which has no sign. -/
def Holds (x : Binary64) (q : ℚ) : Prop :=
  ∃ m e, x = .finite false m e ∧ (m : ℚ) * 2 ^ e = q

/-- A double is what a number is rounded to. -/
def Nearest (q : ℚ) (x : Binary64) : Prop :=
  ∃ num den : Nat, 0 < den ∧ (num : ℚ) / den = q ∧ ofRatio false num den = x

namespace Nearest

variable {q : ℚ} {x y : Binary64}

theorem unique (hx : Nearest q x) (hy : Nearest q y) : x = y := by
  obtain ⟨num, den, hden, rfl, rfl⟩ := hx
  obtain ⟨num', den', hden', hq, rfl⟩ := hy
  refine ofRatio_congr hden hden' ?_
  rw [div_eq_div_iff (by positivity) (by positivity)] at hq
  exact_mod_cast hq.symm

/-- A number that is not too large is rounded to so many units. -/
theorem finite (h : Nearest q x) (hq : 0 < q) (hlt : q < 2 ^ (1023 : Int)) :
    ∃ m e n, x = .finite false m e ∧ (m : ℚ) * 2 ^ e = (n : Nat) * 2 ^ place q ∧
      |q / 2 ^ place q - n| ≤ 1 / 2 := by
  obtain ⟨num, den, hden, rfl, rfl⟩ := h
  have hnum : 0 < num := by
    rcases Nat.eq_zero_or_pos num with rfl | hnum
    · simp at hq
    · exact hnum
  have hplace : place (num / den) < 971 := by
    have hlog : Int.log 2 ((num : ℚ) / den) < 1023 :=
      (Int.lt_zpow_iff_log_lt (by decide) hq).mp hlt
    rw [place]
    omega
  rw [ofRatio_eq false hnum hden]
  dsimp only
  split
  · rename_i hcarry
    rw [if_neg (by omega)]
    refine ⟨_, _, _, rfl, ?_, units_near num hden _⟩
    rw [hcarry, cast_twoTo, cast_twoTo, zpow_add₀ (by norm_num)]
    ring
  · rw [if_neg (by omega)]
    exact ⟨_, _, _, rfl, rfl, units_near num hden _⟩

theorem isInfinite_eq_false (h : Nearest q x) (h0 : 0 ≤ q) (hlt : q < 2 ^ (1023 : Int)) :
    x.isInfinite = false := by
  rcases h0.eq_or_lt with rfl | hq
  · rw [h.unique ⟨0, 1, Nat.one_pos, by simp, rfl⟩]
    rfl
  · obtain ⟨m, e, n, rfl, -⟩ := h.finite hq hlt
    rfl

/-- In the normal range the error is small against the number itself. -/
theorem near (h : Nearest q x) (hq : Normal q) : ∃ r, x.Holds r ∧ |q - r| ≤ q / 2 ^ 53 := by
  have hpos : 0 < q := lt_of_lt_of_le (by positivity) hq.least_le
  obtain ⟨m, e, n, rfl, hvalue, hn⟩ := h.finite hpos hq.lt_top
  refine ⟨_, ⟨m, e, rfl, rfl⟩, ?_⟩
  have hlog : -1022 ≤ Int.log 2 q := (Int.zpow_le_iff_le_log (by decide) hpos).mp hq.least_le
  have hplace : place q = Int.log 2 q - 52 := max_eq_left (by omega)
  have hunit : (2 : ℚ) ^ place q / 2 ≤ q / 2 ^ 53 := by
    have hle : (2 : ℚ) ^ Int.log 2 q ≤ q := Int.zpow_log_le_self (by decide) hpos
    rw [hplace, zpow_sub₀ (by norm_num)]
    norm_num
    linarith
  calc |q - m * 2 ^ e| = |q / 2 ^ place q - n| * 2 ^ place q := by
        rw [hvalue, ← abs_of_pos (zpow_pos two_pos (place q) : (0 : ℚ) < _), ← abs_mul,
          abs_of_pos (zpow_pos two_pos (place q) : (0 : ℚ) < _), sub_mul,
          div_mul_cancel₀ _ (zpow_ne_zero _ two_ne_zero)]
    _ ≤ 1 / 2 * 2 ^ place q := by gcongr
    _ ≤ q / 2 ^ 53 := by linarith

/-- Numbers of 53 bits that are not too small are held by a double. -/
theorem exact {a : Nat} {c : Int} (h : Nearest (a * 2 ^ c) x) (ha : a < 2 ^ 53)
    (hc : -1074 ≤ c) (hlt : (a : ℚ) * 2 ^ c < 2 ^ (1023 : Int)) :
    x.Holds (a * 2 ^ c) := by
  rcases Nat.eq_zero_or_pos a with rfl | hpos
  · refine ⟨0, -1074, h.unique ⟨0, 1, Nat.one_pos, by simp, rfl⟩, by simp⟩
  have hq : (0 : ℚ) < a * 2 ^ c := by positivity
  obtain ⟨m, e, n, rfl, hvalue, hn⟩ := h.finite hq hlt
  refine ⟨m, e, rfl, ?_⟩
  have hplace : place (a * 2 ^ c) ≤ c := by
    refine max_le ?_ hc
    have hsize : (a : ℚ) * 2 ^ c < 2 ^ (c + 53) := by
      rw [zpow_add₀ (by norm_num), mul_comm]
      gcongr
      exact_mod_cast ha
    have hlog : Int.log 2 ((a : ℚ) * 2 ^ c) < c + 53 :=
      (Int.lt_zpow_iff_log_lt (by decide) hq).mp hsize
    omega
  obtain ⟨k, hk⟩ := Int.le.dest hplace
  have hwhole : (a : ℚ) * 2 ^ c / 2 ^ place (a * 2 ^ c) = (a * 2 ^ k : Nat) := by
    nth_rewrite 1 [← hk]
    rw [zpow_add₀ (by norm_num), ← mul_assoc, mul_div_right_comm,
      mul_div_cancel_right₀ _ (zpow_ne_zero _ two_ne_zero)]
    push_cast
    rfl
  have hunits : a * 2 ^ k = n := by
    rw [hwhole, abs_le] at hn
    have h1 : ((a * 2 ^ k : Nat) : ℚ) < n + 1 := by linarith
    have h2 : (n : ℚ) < (a * 2 ^ k : Nat) + 1 := by linarith
    have h1' : a * 2 ^ k < n + 1 := by exact_mod_cast h1
    have h2' : n < a * 2 ^ k + 1 := by exact_mod_cast h2
    omega
  rw [hvalue, ← hunits, ← hwhole, div_mul_cancel₀ _ (zpow_ne_zero _ two_ne_zero)]

end Nearest

theorem holds_ofNat {n : Nat} (h : n < 2 ^ 53) : (ofNat n).Holds n := by
  have hnearest : Nearest (n * 2 ^ (0 : Int)) (ofNat n) := ⟨n, 1, Nat.one_pos, by simp, rfl⟩
  have hsize : (n : ℚ) < 2 ^ 53 := by exact_mod_cast h
  have hheld := hnearest.exact h (by decide) (by
    rw [zpow_zero, mul_one]
    exact lt_top (hsize.le.trans (by norm_num)))
  rwa [zpow_zero, mul_one] at hheld

/-- The powers of ten up to the 22nd are doubles, for the powers of five in them are below
`2 ^ 53`. -/
theorem holds_powerOfTen {k : Nat} (h : k ≤ 22) : (powerOfTen k).Holds (10 ^ k) := by
  have hten : ((5 ^ k : Nat) : ℚ) * 2 ^ (k : Int) = 10 ^ k := by
    rw [zpow_natCast, Nat.cast_pow, ← mul_pow]
    norm_num
  have hnearest : Nearest ((5 ^ k : Nat) * 2 ^ (k : Int)) (powerOfTen k) :=
    ⟨tenTo k, 1, Nat.one_pos, by rw [hten, cast_tenTo]; simp, rfl⟩
  have hfive : 5 ^ k < 2 ^ 53 := (Nat.pow_le_pow_right (by decide) h).trans_lt (by decide)
  have hsize : (10 : ℚ) ^ k ≤ 10 ^ 22 := pow_le_pow_right₀ (by norm_num) h
  have hheld := hnearest.exact hfive (by omega) (by
    rw [hten]
    exact lt_top (hsize.trans (by norm_num)))
  rwa [hten] at hheld

namespace Holds

variable {p q : ℚ} {x y : Binary64}

theorem unique (hp : x.Holds p) (hq : x.Holds q) : p = q := by
  obtain ⟨m, e, rfl, rfl⟩ := hp
  obtain ⟨m', e', hx, rfl⟩ := hq
  cases hx
  rfl

/-- A product is rounded once. -/
theorem mul (hx : x.Holds p) (hy : y.Holds q) : Nearest (p * q) (x.mul y) := by
  obtain ⟨m, e, rfl, rfl⟩ := hx
  obtain ⟨m', e', rfl, rfl⟩ := hy
  obtain ⟨hden, hratio⟩ := ratio_spec (m * m') (e + e')
  refine ⟨(ratio (m * m') (e + e')).1, (ratio (m * m') (e + e')).2, hden, ?_, rfl⟩
  rw [hratio, zpow_add₀ (by norm_num)]
  push_cast
  ring

/-- A quotient is rounded once. -/
theorem div (hx : x.Holds p) (hy : y.Holds q) (hq : 0 < q) : Nearest (p / q) (x.div y) := by
  obtain ⟨m, e, rfl, rfl⟩ := hx
  obtain ⟨m', e', rfl, rfl⟩ := hy
  obtain ⟨hden, hratio⟩ := ratio_spec m (e - e')
  have hm' : 0 < m' := by
    rcases Nat.eq_zero_or_pos m' with rfl | hm'
    · simp at hq
    · exact hm'
  refine ⟨(ratio m (e - e')).1, (ratio m (e - e')).2 * m', Nat.mul_pos hden hm', ?_, rfl⟩
  rw [Nat.cast_mul, ← div_div, hratio, zpow_sub₀ (by norm_num)]
  field_simp

end Holds

end Binary64

end SweepAudit
