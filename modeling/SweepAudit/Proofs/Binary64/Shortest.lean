import SweepAudit.Binary64.Text
import SweepAudit.Proofs.Binary64.Nearest

/-!
The shortest decimal of a double. A number of at most fifteen digits, neither too large nor too
small, is found again from the double to which it is rounded, since two such decimals are too far
apart to be rounded to the same one. Nothing is said of numbers with more digits: from sixteen on
there are decimals that share a double.
-/

namespace SweepAudit.Binary64

variable {num den a b d m tries : Nat} {e j k : Int} {x : Binary64} {r : ℚ}

theorem decimalRatio_spec (d : Nat) (k : Int) :
    0 < (decimalRatio d k).2 ∧
      ((decimalRatio d k).1 : ℚ) / (decimalRatio d k).2 = d * 10 ^ k := by
  rw [decimalRatio]
  split
  · rename_i h
    obtain ⟨n, rfl⟩ := Int.eq_ofNat_of_zero_le h
    refine ⟨Nat.one_pos, ?_⟩
    push_cast
    rw [cast_tenTo]
    simp
  · rename_i h
    obtain ⟨n, rfl⟩ : ∃ n : Nat, k = -n := ⟨(-k).toNat, by omega⟩
    refine ⟨tenTo_pos _, ?_⟩
    rw [cast_tenTo, zpow_neg, div_eq_mul_inv]
    simp

theorem readsBack_iff : readsBack x d k = true ↔ Nearest (d * 10 ^ k) x := by
  obtain ⟨hden, hratio⟩ := decimalRatio_spec d k
  have hrounded : Nearest (d * 10 ^ k) (ofRatio false (decimalRatio d k).1 (decimalRatio d k).2) :=
    ⟨_, _, hden, hratio, rfl⟩
  change (ofRatio false (decimalRatio d k).1 (decimalRatio d k).2 == x) = true ↔ _
  rw [beq_iff_eq]
  exact ⟨fun h => h ▸ hrounded, fun h => hrounded.unique h⟩

/-! Where the digits begin -/

theorem length_toDigits_bounds {n : Nat} (h : 0 < n) :
    10 ^ ((Nat.toDigits 10 n).length - 1) ≤ n ∧ n < 10 ^ (Nat.toDigits 10 n).length := by
  have hlength : 0 < (Nat.toDigits 10 n).length := Nat.length_toDigits_pos
  refine ⟨?_, (Nat.length_toDigits_le_iff (by decide) hlength).mp le_rfl⟩
  by_contra hlt
  rcases Nat.eq_zero_or_pos ((Nat.toDigits 10 n).length - 1) with hzero | hpos
  · rw [hzero] at hlt
    omega
  · have := (Nat.length_toDigits_le_iff (by decide) hpos).mpr (not_le.mp hlt)
    omega

theorem leadingDigit_of_le (hden : 0 < den) (hle : den ≤ num) :
    (10 : ℚ) ^ leadingDigit num den * den ≤ num ∧
      (num : ℚ) < 10 ^ (leadingDigit num den + 1) * den := by
  obtain ⟨hlower, hupper⟩ := length_toDigits_bounds (Nat.div_pos hle hden)
  have hlength : 0 < (Nat.toDigits 10 (num / den)).length := Nat.length_toDigits_pos
  rw [Nat.le_div_iff_mul_le hden] at hlower
  rw [Nat.div_lt_iff_lt_mul hden] at hupper
  rw [leadingDigit, if_pos hle]
  obtain ⟨n, hn⟩ := Nat.exists_eq_add_one_of_ne_zero hlength.ne'
  rw [hn] at hlower hupper ⊢
  push_cast
  rw [sub_add_cancel, add_sub_cancel_right]
  constructor
  · exact_mod_cast hlower
  · exact_mod_cast hupper

theorem leadingDigit_of_lt (hnum : 0 < num) (hlt : num < den) :
    (10 : ℚ) ^ leadingDigit num den * den ≤ num ∧
      (num : ℚ) < 10 ^ (leadingDigit num den + 1) * den := by
  obtain ⟨hlower, hupper⟩ := length_toDigits_bounds (Nat.div_pos hlt.le hnum)
  have hlength : 0 < (Nat.toDigits 10 (den / num)).length := Nat.length_toDigits_pos
  rw [Nat.le_div_iff_mul_le hnum] at hlower
  rw [Nat.div_lt_iff_lt_mul hnum] at hupper
  rw [leadingDigit, if_neg (not_le.mpr hlt)]
  obtain ⟨n, hn⟩ := Nat.exists_eq_add_one_of_ne_zero hlength.ne'
  rw [hn, Nat.add_sub_cancel] at hlower
  rw [hn] at hupper
  simp only [hn, Nat.add_sub_cancel]
  have hden : (0 : ℚ) < den := by exact_mod_cast hnum.trans hlt
  have hlower' : (10 : ℚ) ^ n * num ≤ den := by exact_mod_cast hlower
  have hupper' : (den : ℚ) < 10 ^ (n + 1) * num := by exact_mod_cast hupper
  have hshift (i : Nat) (p : ℚ) : 10 ^ (-(i : Int)) * p = p / 10 ^ i := by
    rw [zpow_neg, zpow_natCast, inv_mul_eq_div]
  split
  · rename_i hgap
    have hgap' : (num : ℚ) * 10 ^ n < den := by
      rw [← cast_tenTo]
      exact_mod_cast hgap
    have hexponent : -((n + 1 : Nat) : Int) + 1 = -(n : Int) := by omega
    rw [hexponent, hshift, hshift, div_le_iff₀ (by positivity), lt_div_iff₀ (by positivity)]
    exact ⟨by linarith, hgap'⟩
  · rename_i hgap
    have hgap' : (den : ℚ) ≤ num * 10 ^ n := by
      rw [← cast_tenTo]
      exact_mod_cast not_lt.mp hgap
    have hexponent : 1 - ((n + 1 : Nat) : Int) = -(n : Int) := by omega
    have hnext : (10 : ℚ) ^ (-(n : Int) + 1) * den = 10 * (den / 10 ^ n) := by
      rw [zpow_add_one₀ (by norm_num), mul_comm _ (10 : ℚ), mul_assoc, hshift]
    rw [hexponent, hnext, hshift, div_le_iff₀ (by positivity), ← mul_div_assoc,
      lt_div_iff₀ (by positivity)]
    exact ⟨hgap', by linarith⟩

/-- The leading digit of a number is the one that its logarithm tells. -/
theorem leadingDigit_bounds (hnum : 0 < num) (hden : 0 < den) :
    (10 : ℚ) ^ leadingDigit num den ≤ num / den ∧
      (num : ℚ) / den < 10 ^ (leadingDigit num den + 1) := by
  have hden' : (0 : ℚ) < den := by exact_mod_cast hden
  rw [le_div_iff₀ hden', div_lt_iff₀ hden']
  rcases le_or_gt den num with hle | hlt
  · exact leadingDigit_of_le hden hle
  · exact leadingDigit_of_lt hnum hlt

/-! The search -/

/-- How many whole units of a decimal place are in a ratio. -/
def below (num den : Nat) (k : Int) : Nat :=
  num * (decimalRatio den k).2 / (decimalRatio den k).1

theorem below_bounds (num : Nat) (hden : 0 < den) (k : Int) :
    below num den k * 10 ^ k ≤ (num : ℚ) / den ∧
      (num : ℚ) / den < (below num den k + 1) * 10 ^ k := by
  obtain ⟨hparts, hratio⟩ := decimalRatio_spec den k
  rw [below]
  generalize decimalRatio den k = parts at hparts hratio ⊢
  obtain ⟨p, q⟩ := parts
  have hunit : (0 : ℚ) < 10 ^ k := by positivity
  have hden' : (0 : ℚ) < den := by exact_mod_cast hden
  have hq : (0 : ℚ) < q := by exact_mod_cast hparts
  have hp : (p : ℚ) = den * 10 ^ k * q := (div_eq_iff hq.ne').mp hratio
  have hp' : 0 < p := by
    have : (0 : ℚ) < p := hp ▸ by positivity
    exact_mod_cast this
  have hunits : (num : ℚ) / den = (num * q : Nat) / p * 10 ^ k := by
    rw [hp]
    push_cast
    field_simp
  rw [hunits, mul_le_mul_iff_left₀ hunit, mul_lt_mul_iff_left₀ hunit,
    le_div_iff₀ (by exact_mod_cast hp'), div_lt_iff₀ (by exact_mod_cast hp')]
  constructor
  · exact_mod_cast Nat.div_mul_le_self (num * q) p
  · exact_mod_cast Nat.lt_div_mul_add hp' |>.trans_eq (Nat.succ_mul _ _).symm

theorem neighbour?_eq (round : Round) (x : Binary64) (num den : Nat) (k : Int) :
    neighbour? round x num den k =
      match readsBack x (below num den k) k, readsBack x (below num den k + 1) k with
      | true, true => some (round (num * (decimalRatio den k).2) (decimalRatio den k).1)
      | true, false => some (below num den k)
      | false, true => some (below num den k + 1)
      | false, false => none := rfl

/-- What is found is one of the two neighbours, and it reads back. -/
theorem neighbour?_eq_some (h : neighbour? roundHalfEven x num den k = some d) :
    (d = below num den k ∨ d = below num den k + 1) ∧ Nearest (d * 10 ^ k) x := by
  have hround : roundHalfEven (num * (decimalRatio den k).2) (decimalRatio den k).1 =
      below num den k ∨ roundHalfEven (num * (decimalRatio den k).2) (decimalRatio den k).1 =
        below num den k + 1 := by
    have := roundHalfEven_bounds (num * (decimalRatio den k).2) (decimalRatio den k).1
    rw [below]
    omega
  rw [← readsBack_iff]
  rw [neighbour?_eq] at h
  split at h
  · rename_i hbelow habove
    cases h
    refine ⟨hround, ?_⟩
    rcases hround with hround | hround
    · rwa [hround]
    · rwa [hround]
  · rename_i hbelow _
    cases h
    exact ⟨.inl rfl, hbelow⟩
  · rename_i _ habove
    cases h
    exact ⟨.inr rfl, habove⟩
  · cases h

/-- Nothing is found only if no number that is closer than a unit reads back. -/
theorem not_nearest_of_none (hden : 0 < den)
    (h : neighbour? roundHalfEven x num den k = none)
    (hd : |d * 10 ^ k - (num : ℚ) / den| < 10 ^ k) : ¬Nearest (d * 10 ^ k) x := by
  obtain ⟨hlower, hupper⟩ := below_bounds num hden k
  have hunit : (0 : ℚ) < 10 ^ k := by positivity
  obtain ⟨hd1, hd2⟩ := abs_lt.mp hd
  have h1 : (d : ℚ) < below num den k + 2 := by
    rw [← mul_lt_mul_iff_left₀ hunit]
    linarith
  have h2 : (below num den k : ℚ) < d + 1 := by
    rw [← mul_lt_mul_iff_left₀ hunit]
    linarith
  have h1' : d < below num den k + 2 := by exact_mod_cast h1
  have h2' : below num den k < d + 1 := by exact_mod_cast h2
  rw [← readsBack_iff]
  rw [neighbour?_eq] at h
  split at h
  · cases h
  · cases h
  · cases h
  · rename_i hbelow habove
    obtain rfl | rfl : d = below num den k ∨ d = below num den k + 1 := by omega
    · simp [hbelow]
    · simp [habove]

/-- Two decimals of the same places that are close to one number are the same, if one has few
digits. -/
theorem eq_of_near (ha : |a * 10 ^ k - r| ≤ a * 10 ^ k / 2 ^ 53)
    (hb : |b * 10 ^ k - r| ≤ b * 10 ^ k / 2 ^ 53) (hsmall : a < 10 ^ 15) : a = b := by
  have hunit : (0 : ℚ) < 10 ^ k := by positivity
  obtain ⟨s, rfl⟩ : ∃ s, r = s * 10 ^ k := ⟨r / 10 ^ k, by field_simp⟩
  have hscale (c : Nat) (h : |c * 10 ^ k - s * 10 ^ k| ≤ c * 10 ^ k / 2 ^ 53) :
      |(c : ℚ) - s| ≤ c / 2 ^ 53 := by
    rw [← sub_mul, abs_mul, abs_of_pos hunit, mul_div_right_comm] at h
    exact le_of_mul_le_mul_right h hunit
  have ha' := abs_le.mp (hscale a ha)
  have hb' := abs_le.mp (hscale b hb)
  have hsmall' : (a : ℚ) < 10 ^ 15 := by exact_mod_cast hsmall
  have h1 : (a : ℚ) < b + 1 := by linarith
  have h2 : (b : ℚ) < a + 1 := by linarith
  have h1' : a < b + 1 := by exact_mod_cast h1
  have h2' : b < a + 1 := by exact_mod_cast h2
  omega

theorem shift_place (d i : Nat) (j : Int) :
    (d : ℚ) * 10 ^ (j + i) = (d * 10 ^ i : Nat) * 10 ^ j := by
  rw [zpow_add₀ (by norm_num), zpow_natCast]
  push_cast
  ring

/-- What is found at a place that is not behind the last one of a number of few digits is this
number. -/
theorem eq_of_found (hden : 0 < den) (hx : x.Holds (num / den))
    (hnear : |a * 10 ^ j - (num : ℚ) / den| ≤ a * 10 ^ j / 2 ^ 53) (hsmall : a < 10 ^ 15)
    (hlower : (10 ^ 39)⁻¹ ≤ (a : ℚ) * 10 ^ j) (hupper : (a : ℚ) * 10 ^ j ≤ 10 ^ 39)
    (hk : (10 : ℚ) ^ k ≤ num / den) (hjk : j ≤ k)
    (hfound : neighbour? roundHalfEven x num den k = some d) :
    (d : ℚ) * 10 ^ k = a * 10 ^ j := by
  have hbounds := abs_le.mp hnear
  obtain ⟨hfloor, hceil⟩ := below_bounds num hden k
  have hunit : (0 : ℚ) < 10 ^ k := by positivity
  obtain ⟨hd, hreads⟩ := neighbour?_eq_some hfound
  have hone : 1 ≤ (below num den k : ℚ) := by
    have hpos : (0 : ℚ) < below num den k := by
      by_contra hzero
      nlinarith
    exact_mod_cast hpos
  have hnormal : Normal (d * 10 ^ k) := by
    rcases hd with rfl | rfl
    · exact normal_of_bounds (by nlinarith) (by nlinarith)
    · push_cast
      exact normal_of_bounds (by nlinarith) (by nlinarith)
  obtain ⟨r, hr, hnear'⟩ := hreads.near hnormal
  rw [hr.unique hx] at hnear'
  obtain ⟨i, rfl⟩ := Int.le.dest hjk
  rw [shift_place] at hnear' ⊢
  rw [eq_of_near hnear hnear' hsmall]

/-- A number of few digits is found before its last place, or at the place of its leading digit
if that stands behind it. -/
theorem shortestFrom_spec (hden : 0 < den) (hx : x.Holds (num / den))
    (ha : Nearest (a * 10 ^ j) x) (hsmall : a < 10 ^ 15)
    (hlower : (10 ^ 39)⁻¹ ≤ (a : ℚ) * 10 ^ j) (hupper : (a : ℚ) * 10 ^ j ≤ 10 ^ 39)
    (hk : (10 : ℚ) ^ k ≤ num / den) (hjk : j ≤ k) (htries : k < j + tries) :
    ((shortestFrom roundHalfEven x num den k tries).1 : ℚ) *
        10 ^ (shortestFrom roundHalfEven x num den k tries).2 = a * 10 ^ j ∧
      j ≤ (shortestFrom roundHalfEven x num den k tries).2 := by
  have hnear : |a * 10 ^ j - (num : ℚ) / den| ≤ a * 10 ^ j / 2 ^ 53 := by
    obtain ⟨r, hr, hnear⟩ := ha.near (normal_of_bounds (by linarith) (by linarith))
    rwa [hr.unique hx] at hnear
  induction tries generalizing k with
  | zero => omega
  | succ tries ih =>
    rw [shortestFrom]
    split
    · rename_i d hfound
      exact ⟨eq_of_found hden hx hnear hsmall hlower hupper hk hjk hfound, hjk⟩
    · rename_i hnone
      have hne : j ≠ k := by
        rintro rfl
        refine not_nearest_of_none hden hnone (hnear.trans_lt ?_) ha
        have hunit : (0 : ℚ) < 10 ^ j := by positivity
        have : (a : ℚ) < 10 ^ 15 := by exact_mod_cast hsmall
        nlinarith
      have hnext : (10 : ℚ) ^ (k - 1) ≤ num / den :=
        (zpow_le_zpow_right₀ (by norm_num) (by omega)).trans hk
      exact ih hnext (by omega) (by omega)

theorem trimZeros_spec (d : Nat) (k : Int) (tries : Nat) :
    ((trimZeros d k tries).1 : ℚ) * 10 ^ (trimZeros d k tries).2 = d * 10 ^ k ∧
      k ≤ (trimZeros d k tries).2 := by
  induction tries generalizing d k with
  | zero => exact ⟨rfl, le_rfl⟩
  | succ tries ih =>
    rw [trimZeros]
    split
    · rename_i hzero
      obtain ⟨hvalue, hle⟩ := ih (d / 10) (k + 1)
      refine ⟨?_, by omega⟩
      have hd : (d : ℚ) = (d / 10 : Nat) * 10 := by
        exact_mod_cast (Nat.div_mul_cancel (Nat.dvd_of_mod_eq_zero hzero)).symm
      rw [hvalue, hd, zpow_add_one₀ (by norm_num)]
      ring
    · exact ⟨rfl, le_rfl⟩

/-- Where the leading digit can be of a number that is close to one of few digits. -/
theorem leadingDigit_near (hden : 0 < den) (hd : 0 < d) (hsmall : d < 10 ^ 15)
    (h : |d * 10 ^ k - (num : ℚ) / den| ≤ d * 10 ^ k / 2 ^ 53) :
    (10 : ℚ) ^ leadingDigit num den ≤ num / den ∧ leadingDigit num den ≤ k + 15 ∧
      (k ≤ leadingDigit num den ∨ k = leadingDigit num den + 1 ∧ d = 1) := by
  have hd' : (1 : ℚ) ≤ d := by exact_mod_cast hd
  have hsmall' : (d : ℚ) < 10 ^ 15 := by exact_mod_cast hsmall
  have hunit : (0 : ℚ) < 10 ^ k := by positivity
  have hbounds := abs_le.mp h
  have hnum : 0 < num := by
    by_contra hzero
    rw [Nat.eq_zero_of_not_pos hzero] at hbounds
    norm_num at hbounds
    nlinarith
  obtain ⟨hfirst, hnext⟩ := leadingDigit_bounds hnum hden
  refine ⟨hfirst, ?_, ?_⟩
  · have hpowers : (10 : ℚ) ^ leadingDigit num den < 10 ^ (k + 16) := by
      rw [zpow_add₀ (by norm_num)]
      norm_num
      nlinarith
    have := (zpow_lt_zpow_iff_right₀ (by norm_num)).mp hpowers
    omega
  · rcases le_or_gt k (leadingDigit num den) with hle | hlt
    · exact .inl hle
    -- The number is at least the power of ten below which the ratio next to it is.
    right
    have hpowers : (10 : ℚ) ^ (leadingDigit num den + 1) ≤ 10 ^ k :=
      zpow_le_zpow_right₀ (by norm_num) hlt
    have hone : d = 1 := by
      have : (d : ℚ) < 2 := by nlinarith
      have : d < 2 := by exact_mod_cast this
      omega
    refine ⟨?_, hone⟩
    have hpowers' : (10 : ℚ) ^ k < 10 ^ (leadingDigit num den + 1 + 1) := by
      rw [zpow_add_one₀ (by norm_num)]
      nlinarith
    have := (zpow_lt_zpow_iff_right₀ (by norm_num)).mp hpowers'
    omega

theorem decimal_bounds (hd : 0 < d) (hsmall : d < 10 ^ 15) (hk : -22 ≤ k ∧ k ≤ 22) :
    (10 ^ 39)⁻¹ ≤ (d : ℚ) * 10 ^ k ∧ (d : ℚ) * 10 ^ k ≤ 10 ^ 39 := by
  have hd' : (1 : ℚ) ≤ d := by exact_mod_cast hd
  have hsmall' : (d : ℚ) < 10 ^ 15 := by exact_mod_cast hsmall
  constructor
  · have hunit : (10 : ℚ) ^ (-22 : Int) ≤ 10 ^ k := zpow_le_zpow_right₀ (by norm_num) hk.1
    norm_num at hunit ⊢
    nlinarith
  · have hunit : (10 : ℚ) ^ k ≤ 10 ^ (22 : Int) := zpow_le_zpow_right₀ (by norm_num) hk.2
    norm_num at hunit ⊢
    nlinarith

/-- A number of at most fifteen digits is the shortest decimal of the double to which it is
rounded. -/
theorem shortest_spec (hd : 0 < d) (hsmall : d < 10 ^ 15) (hk : -22 ≤ k ∧ k ≤ 22)
    (h : Nearest (d * 10 ^ k) (.finite false m e)) :
    ((shortest roundHalfEven m e).1 : ℚ) * 10 ^ (shortest roundHalfEven m e).2 = d * 10 ^ k ∧
      k ≤ (shortest roundHalfEven m e).2 + 1 := by
  obtain ⟨hlower, hupper⟩ := decimal_bounds hd hsmall hk
  obtain ⟨hden, hratio⟩ := ratio_spec m e
  obtain ⟨r, hr, hnear⟩ := h.near (normal_of_bounds (by linarith) (by linarith))
  rw [hr.unique ⟨m, e, rfl, hratio.symm⟩] at hnear
  rw [shortest]
  generalize ratio m e = parts at hden hratio hnear ⊢
  obtain ⟨num, den⟩ := parts
  dsimp only at hden hratio hnear ⊢
  obtain ⟨hfirst, hwithin, hbehind⟩ := leadingDigit_near hden hd hsmall hnear
  -- The number is a whole one at the place of its last digit, and at that of its leading digit.
  set j := min k (leadingDigit num den) with hj
  obtain ⟨i, hi⟩ := Int.le.dest (min_le_left k (leadingDigit num den))
  have hshift : (d : ℚ) * 10 ^ k = (d * 10 ^ i : Nat) * 10 ^ j := by rw [← hi, shift_place]
  have hfew : d * 10 ^ i < 10 ^ 15 := by
    rcases hbehind with hle | ⟨hnext, rfl⟩
    · obtain rfl : i = 0 := by omega
      rwa [pow_zero, mul_one]
    · obtain rfl : i = 1 := by omega
      decide
  rw [hshift] at h hlower hupper ⊢
  obtain ⟨hvalue, hplace⟩ := shortestFrom_spec hden ⟨m, e, rfl, hratio.symm⟩ h hfew hlower hupper
    hfirst (min_le_right _ _) (by omega : leadingDigit num den < j + (17 : Nat))
  generalize shortestFrom roundHalfEven (.finite false m e) num den (leadingDigit num den) 17 =
    found at hvalue hplace ⊢
  obtain ⟨w, place⟩ := found
  dsimp only at hvalue hplace ⊢
  obtain ⟨htrimmed, hle⟩ := trimZeros_spec w place 17
  exact ⟨htrimmed.trans hvalue, by omega⟩

end SweepAudit.Binary64
