import Mathlib.Data.List.TakeWhile
import SweepAudit.Proofs.Decimal.Written

/-!
Scientific notation. Moving the point is exact as far as decimals reach, so a number that is
written with an exponent is read as what it is, if a decimal holds it and its mantissa.
-/

namespace SweepAudit.Decimal

open Text

variable {base x : Decimal} {n : Nat} {cs : List Char}

theorem withSign_mul_right (negative : Bool) (q r : ℚ) :
    withSign negative (q * r) = withSign negative q * r := by
  cases negative <;> simp [withSign]

/-- Fewer places make a number larger. -/
theorem value_scale {negative : Bool} {coefficient scale k : Nat} (h : k ≤ scale) :
    withSign negative (coefficient / 10 ^ (scale - k)) =
      withSign negative (coefficient / 10 ^ scale) * 10 ^ k := by
  have hsplit : (10 : ℚ) ^ scale = 10 ^ (scale - k) * 10 ^ k := by
    rw [← pow_add, Nat.sub_add_cancel h]
  rw [← withSign_mul_right, hsplit]
  field_simp

/-- A decimal times a power of ten is a decimal, unless it is too large. -/
theorem representable_shift {k : Nat} (h : |base.value * 10 ^ k| ≤ greatest.value) :
    Representable (base.value * 10 ^ k) := by
  by_cases hk : k ≤ base.scale
  · refine ⟨⟨base.negative, base.coefficient, base.scale - k, base.coefficient_lt,
      (Nat.sub_le _ _).trans base.scale_le⟩, ?_⟩
    rw [value_mk, value_scale hk, value_eq]
  · obtain ⟨m, hm⟩ := @exists_units base k (not_le.mp hk).le
    rw [hm] at h ⊢
    have hint : (m.natAbs : ℚ) ≤ greatest.value := by
      rwa [← Int.cast_natCast, Int.natCast_natAbs, Int.cast_abs]
    have hlt : m.natAbs < twoTo 96 := by
      rw [value_greatest] at hint
      rw [twoTo_ninetySix]
      have : m.natAbs ≤ 79228162514264337593543950335 := by exact_mod_cast hint
      omega
    simpa using representable_div hlt (Nat.zero_le 28)

theorem power?_eq_some (h : n ≤ 19) : ∃ p, power? n = some p ∧ p.value = 10 ^ n := by
  have hlt : tenTo n < twoTo 96 :=
    (Nat.pow_le_pow_right (by decide) h).trans_lt (show 10 ^ 19 < twoTo 96 by decide +kernel)
  refine ⟨_, ofParts?_eq_some hlt (Nat.zero_le 28), ?_⟩
  rw [value_mk, cast_tenTo]
  simp [withSign]

theorem mul_power (hn : n ≤ 19) (hq : |base.value * 10 ^ n| ≤ greatest.value) :
    ∃ p y, power? n = some p ∧ base.mul? p = some y ∧ y.value = base.value * 10 ^ n := by
  obtain ⟨p, hp, hvalue⟩ := power?_eq_some hn
  obtain ⟨y, hmul, hy⟩ := (mul?_rounded base p).exact (by
    rw [hvalue]
    exact representable_shift hq)
  exact ⟨p, y, hp, hmul, by rw [hy, hvalue]⟩

/-- Within the reach of decimals a number is raised to what it is. -/
theorem raised_ok (hn : n ≤ 28) (hq : Representable (base.value * 10 ^ n)) :
    ∃ x, raised base n = .ok x ∧ x.value = base.value * 10 ^ n := by
  rw [raised]
  split
  · rename_i hle
    exact ⟨_, rfl, by rw [value_mk, value_scale hle, value_eq]⟩
  · rw [if_neg (not_lt.mpr hn)]
    dsimp only
    generalize hfirst : (if 19 ≤ n then 19 else 0) = first
    have hbounds : first ≤ 19 ∧ n - first ≤ 19 ∧ first ≤ n := by
      split at hfirst <;> omega
    obtain ⟨hfirst19, hrest19, hfirstn⟩ := hbounds
    have hsplit : (10 : ℚ) ^ n = 10 ^ first * 10 ^ (n - first) := by
      rw [← pow_add, Nat.add_sub_cancel' hfirstn]
    rw [hsplit, ← mul_assoc] at hq ⊢
    have hone : (1 : ℚ) ≤ 10 ^ (n - first) := one_le_pow₀ (by norm_num)
    have hpart : |base.value * 10 ^ first| ≤ greatest.value := by
      refine le_trans ?_ hq.abs_le
      rw [abs_mul _ ((10 : ℚ) ^ (n - first)),
        abs_of_pos (by positivity : (0 : ℚ) < 10 ^ (n - first))]
      exact le_mul_of_one_le_right (abs_nonneg _) hone
    obtain ⟨p, y, hp, hmul, hy⟩ := mul_power hfirst19 hpart
    obtain ⟨p', z, hp', hmul', hz⟩ := @mul_power y _ hrest19 (hy ▸ hq.abs_le)
    simp only [hp, hp', hmul, hmul', bind, Option.bind]
    exact ⟨_, rfl, by rw [value_normalize, hz, hy]⟩

theorem raised_exact (h : raised base n = .ok x) (hq : Representable (base.value * 10 ^ n)) :
    x.value = base.value * 10 ^ n := by
  have hn : n ≤ 28 := by
    rw [raised] at h
    split at h
    · rename_i hle
      exact hle.trans base.scale_le
    · split at h
      · cases h
      · rename_i hlast
        exact not_lt.mp hlast
  obtain ⟨y, hy, hvalue⟩ := raised_ok hn hq
  rw [h] at hy
  cases hy
  exact hvalue

theorem value_div_pow (x : Decimal) (n : Nat) :
    x.value / 10 ^ n = withSign x.negative (x.coefficient / 10 ^ (x.scale + n)) := by
  rw [value_eq, div_eq_mul_inv, ← withSign_mul_right, pow_add]
  field_simp

theorem lowered_ok (precision : Precision) (h : base.scale + n ≤ 28) :
    ∃ x, lowered precision base n = .ok x ∧ x.value = base.value / 10 ^ n := by
  rw [lowered.eq_def, if_neg (by omega), dif_pos h]
  exact ⟨_, rfl, by rw [value_mk, value_div_pow]⟩

theorem lowered_exact {precision : Precision} (h : lowered precision base n = .ok x)
    (hq : Representable (base.value / 10 ^ n)) : x.value = base.value / 10 ^ n := by
  rw [value_div_pow] at hq ⊢
  rw [lowered.eq_def] at h
  split at h
  · cases h
  · rename_i hlast
    split at h
    · cases h
      rw [value_mk]
    · rename_i hscale
      cases precision with
      | strict => cases h
      | lossy =>
        obtain ⟨k, hk⟩ := Nat.exists_eq_add_of_le (not_le.mp hscale).le
        rw [hk] at hq ⊢
        obtain ⟨b, hb⟩ := hq.of_withSign
        obtain ⟨q, hcoefficient⟩ := dvd_of_scale_le b.scale_le hb
        have hplaces : base.scale - (28 - n) = k := by omega
        have hround : roundHalfUp base (28 - n) = ofParts? base.negative q 28 := by
          have hpos := tenTo_pos k
          have hdiv : base.coefficient / tenTo k = q := by
            rw [hcoefficient]
            exact Nat.mul_div_cancel_left q hpos
          have hmod : base.coefficient % tenTo k = 0 := by
            rw [hcoefficient]
            exact Nat.mul_mod_right _ _
          simp only [roundHalfUp, hplaces, hdiv, hmod, Nat.mul_zero, Nat.not_le.mpr hpos, if_false]
        dsimp only at h
        rw [hround] at h
        split at h
        · rename_i hparts
          cases h
          rw [value_ofParts? hparts, hcoefficient, pow_add]
          push_cast
          field_simp
        · cases h

/-! Texts with an exponent -/

theorem digitsIn_digits (h : ∀ c ∈ cs, c.isDigit) : digitsIn cs = cs :=
  List.filter_eq_self.mpr fun c hc => isDigit_of_isDigit (h c hc)

theorem wholeNumber_digits (h : ∀ c ∈ cs, c.isDigit) :
    wholeNumber cs = Nat.ofDigitChars 10 cs 0 := by
  rw [wholeNumber, digitsIn_digits h]

theorem wholeNumber_other {c : Char} (h : digitValue? c = none) (cs : List Char) :
    wholeNumber (c :: cs) = wholeNumber cs :=
  congrArg (Nat.ofDigitChars 10 · 0) (digitsIn_other h cs)

theorem parseUnsigned_eq_ok {bound : Nat} (h : parseUnsigned bound cs = .ok n) :
    wholeNumber cs = n := by
  unfold parseUnsigned at h
  split at h
  · cases h
  · cases h
  · obtain ⟨hdigits, rfl⟩ := magnitudeFrom_eq_ok h
    rw [wholeNumber_other (by decide), wholeNumber_digits hdigits]
  · obtain ⟨hdigits, rfl⟩ := magnitudeFrom_eq_ok h
    exact wholeNumber_digits hdigits

theorem parseScientific_exact {precision : Precision}
    (h : parseScientific precision cs = .ok x) (fits : (numeral cs).Fits) :
    x.value = (numeral cs).value := by
  obtain ⟨hmantissa, hq⟩ := fits
  rw [parseScientific] at h
  split at h
  · cases h
  · rename_i mark exponent hdrop
    replace ⟨base, hbase, h⟩ := bind_eq_ok h
    have hvalue : base.value = (numeral cs).mantissa := (parsePlain_exact hbase).2 hmantissa
    rw [Numeral.value, ← hvalue] at hq ⊢
    simp only [numeral, hdrop, List.drop_one, List.tail_cons] at hq ⊢
    split at h
    · rename_i digits
      split at h
      · rename_i n hn
        have hexponent : wholeNumber ('-' :: digits) = n := by
          rw [wholeNumber_other (by decide), parseUnsigned_eq_ok hn]
        simp only [hasMinus, List.head?_cons, beq_self_eq_true, if_true, hexponent, zpow_neg,
          zpow_natCast, ← div_eq_mul_inv] at hq ⊢
        exact lowered_exact h hq
      · cases h
    · rename_i hunsigned
      split at h
      · rename_i n hn
        simp only [hasMinus_of_not_cons hunsigned, Bool.false_eq_true, if_false,
          parseUnsigned_eq_ok hn, zpow_natCast] at hq ⊢
        exact raised_exact h hq
      · cases h

/-- A number in scientific notation is its mantissa moved by the exponent, up or down. -/
theorem parseScientific_ok {mantissa : List Char} {mark : Char} {n : Int}
    (hmantissa : ∀ c ∈ mantissa, isExponentMark c = false) (hmark : isExponentMark mark = true)
    (hbase : parsePlain mantissa = .ok base) (h : Whole cs n) (hle : n ≤ 28)
    (hge : -28 ≤ n - base.scale) (hq : Representable (base.value * 10 ^ n)) :
    ∃ x, parseScientific .lossy (mantissa ++ mark :: cs) = .ok x ∧
      x.value = base.value * 10 ^ n := by
  have hkeep : ∀ c ∈ mantissa, (!isExponentMark c) = true := fun c hc => by
    rw [hmantissa c hc]
    rfl
  have htake : (mantissa ++ mark :: cs).takeWhile (!isExponentMark ·) = mantissa := by
    rw [List.takeWhile_append_of_pos hkeep, List.takeWhile_cons_of_neg (by simp [hmark]),
      List.append_nil]
  have hdrop : (mantissa ++ mark :: cs).dropWhile (!isExponentMark ·) = mark :: cs := by
    rw [List.dropWhile_append_of_pos hkeep, List.dropWhile_cons_of_neg (by simp [hmark])]
  rw [parseScientific, hdrop, htake, hbase]
  simp only [bind, Except.bind]
  have hbound : 28 < twoTo 32 := by decide
  cases h with
  | @unsigned digits hne hdigits =>
    have hread := (parseUnsigned_digits hne hdigits (lt_of_le_of_lt (by omega) hbound)).1
    rw [zpow_natCast] at hq ⊢
    split
    · exact absurd (hdigits '-' List.mem_cons_self) (by decide)
    · simp only [hread]
      exact raised_ok (by omega) hq
  | @plus digits hne hdigits =>
    have hread := (parseUnsigned_digits hne hdigits (lt_of_le_of_lt (by omega) hbound)).2
    rw [zpow_natCast] at hq ⊢
    split
    · rename_i heq
      cases heq
    · simp only [hread]
      exact raised_ok (by omega) hq
  | @minus digits hne hdigits =>
    have hread := (parseUnsigned_digits hne hdigits (lt_of_le_of_lt (by omega) hbound)).1
    simp only [hread, zpow_neg, zpow_natCast, ← div_eq_mul_inv]
    exact lowered_ok .lossy (by omega)

theorem numeral_plain (h : ∀ c ∈ cs, isExponentMark c = false) :
    numeral cs = ⟨hasMinus cs, wholeNumber cs, places cs, 0⟩ := by
  have hkeep : ∀ c ∈ cs, (!isExponentMark c) = true := fun c hc => by rw [h c hc]; rfl
  rw [numeral, List.takeWhile_eq_self_iff.mpr hkeep, List.dropWhile_eq_nil_iff.mpr hkeep]
  rfl

/-- A decimal is read as the number that its text writes, if a decimal holds that. -/
theorem parse_exact {s : String} (h : parse s = .ok x) (fits : (numeral s.toList).Fits) :
    x.value = (numeral s.toList).value := by
  rw [parse, parseChars] at h
  split at h
  · rename_i y hplain
    cases h
    obtain ⟨hmarks, hvalue⟩ := parsePlain_exact hplain
    rw [numeral_plain hmarks] at fits ⊢
    rw [Numeral.value, zpow_zero, mul_one]
    exact hvalue fits.1
  · split at h
    · exact parseScientific_exact h fits
    · cases h

namespace Numeral

theorem value_of_exponent {number : Numeral} {k : Nat} (h : number.exponent = -k) :
    number.value = withSign number.negative (number.digits / 10 ^ (number.places + k)) := by
  rw [value, mantissa, h, zpow_neg, zpow_natCast, ← withSign_mul_right, pow_add]
  field_simp

theorem value_unsigned (digits places k : Nat) :
    value ⟨false, digits, places, -k⟩ = digits / 10 ^ (places + k) :=
  value_of_exponent rfl

/-- Decimals hold a number of not too many digits, of which not too many are behind the point. -/
theorem fits_of_places {number : Numeral} {k : Nat} (hexponent : number.exponent = -k)
    (hdigits : number.digits < twoTo 96) (hplaces : number.places + k ≤ 28) : number.Fits := by
  have hholds (places : Nat) (h : places ≤ 28) :
      Representable (withSign number.negative (number.digits / 10 ^ places)) :=
    ⟨⟨number.negative, number.digits, places, hdigits, h⟩, value_mk hdigits h⟩
  refine ⟨hholds _ (by omega), ?_⟩
  rw [value_of_exponent hexponent]
  exact hholds _ hplaces

end Numeral

end SweepAudit.Decimal
