import SweepAudit.Binary64.Text
import SweepAudit.Proofs.Binary64.Shortest
import SweepAudit.Proofs.Decimal.Literal

/-!
The text of a double is a literal of its shortest decimal, in whichever layout. So a number that
is rounded to a double and printed is read as a decimal again, as long as the digits that are
printed are its own.
-/

namespace SweepAudit.Binary64

open Text Decimal

variable {m d : Nat} {e k point exponent : Int} {negative : Bool} {digits : List Char} {q : ℚ}

/-- A text is that of a literal which decimals can hold, behind a sign if there is one. -/
def Writes (negative : Bool) (body : List Char) (q : ℚ) : Prop :=
  ∃ l : Literal, l.Fits ∧ l.negative = negative ∧ l.mantissa ++ l.exponentChars = body ∧
    l.value = Decimal.withSign negative q

theorem writes_literal {body : List Char} (l : Literal) (hnegative : l.negative = negative)
    (hbody : l.mantissa ++ l.exponentChars = body) (hvalue : l.coefficient * 10 ^ l.power = q)
    (hcoefficient : l.coefficient < 10 ^ 17) (hplaces : l.fraction.length ≤ 28)
    (hscaling : l.scaling ≤ 28) (hpower : -28 ≤ l.power)
    (hq : Representable (Decimal.withSign negative q)) : Writes negative body q := by
  have hl : l.value = Decimal.withSign negative q := by rw [Literal.value, hnegative, hvalue]
  have hwide : 10 ^ 17 < twoTo 96 := by decide
  exact ⟨l, ⟨hcoefficient.trans hwide, hplaces, hscaling, hpower, hl ▸ hq⟩, hnegative, hbody, hl⟩

/-- The digits of a number, not too many. -/
structure DigitsOf (d : Nat) (digits : List Char) : Prop where
  ne_nil : digits ≠ []
  isDigit : ∀ c ∈ digits, c.isDigit
  head_ne : digits.head? ≠ some '0'
  value : Nat.ofDigitChars 10 digits 0 = d
  lt_pow : d < 10 ^ digits.length
  length_le : digits.length ≤ 16

theorem digitsOf_toDigits (hd : d ≠ 0) (hlt : d < 10 ^ 16) : DigitsOf d (Nat.toDigits 10 d) where
  ne_nil := Nat.toDigits_ne_nil
  isDigit := isDigit_toDigits
  head_ne := by
    obtain ⟨c, cs, hcons, hc⟩ := toDigits_eq_cons hd
    rw [hcons]
    simpa using hc
  value := Nat.ofDigitChars_ten_toDigits
  lt_pow := (Nat.length_toDigits_le_iff (by decide) Nat.length_toDigits_pos).mp le_rfl
  length_le := (Nat.length_toDigits_le_iff (by decide) (by decide)).mpr hlt

theorem ofDigitChars_zeros (n value : Nat) :
    Nat.ofDigitChars 10 (List.replicate n '0') value = value * 10 ^ n := by
  induction n generalizing value with
  | zero => simp
  | succ n ih =>
    rw [List.replicate_succ, Nat.ofDigitChars_cons, ih, Nat.pow_succ']
    simp only [Nat.sub_self, Nat.add_zero]
    rw [Nat.mul_comm 10, Nat.mul_assoc]

theorem isDigit_zeros (n : Nat) : ∀ c ∈ List.replicate n '0', c.isDigit := by
  intro c hc
  rw [List.eq_of_mem_replicate hc]
  decide

/-- An exponent with its sign. -/
def signedExponent (e : Int) : Exponent where
  mark := 'e'
  chars := (if e < 0 then '-' else '+') :: Nat.toDigits 10 e.natAbs
  value := e
  mark_eq := .inl rfl
  whole := by
    have hdigits := isDigit_toDigits (n := e.natAbs)
    split
    · have hwhole := Whole.minus Nat.toDigits_ne_nil hdigits
      rw [Nat.ofDigitChars_ten_toDigits] at hwhole
      rwa [show e = -(e.natAbs : Int) by omega, Int.natAbs_neg, Int.natAbs_natCast]
    · have hwhole := Whole.plus Nat.toDigits_ne_nil hdigits
      rw [Nat.ofDigitChars_ten_toDigits] at hwhole
      rwa [show e = (e.natAbs : Int) by omega, Int.natAbs_natCast]

theorem scientific_eq (h : digits ≠ []) (exponent : Int) :
    scientific digits exponent = digits.take 1 ++ fractionChars (digits.drop 1) ++
      (signedExponent exponent).mark :: (signedExponent exponent).chars := by
  match digits with
  | [_] => rfl
  | _ :: _ :: _ => rfl

namespace DigitsOf

variable (h : DigitsOf d digits)

/-- The digits behind zeros behind the point. -/
def small (negative : Bool) (zeros : Nat) : Literal where
  negative
  whole := ['0']
  fraction := List.replicate zeros '0' ++ digits
  exponent := none
  whole_ne_nil := List.cons_ne_nil _ _
  isDigit_whole := isDigit_zeros 1
  leading_zero _ := rfl
  isDigit_fraction c hc := (List.mem_append.mp hc).elim (isDigit_zeros zeros c) (h.isDigit c)

/-- The digits and zeros in front of the point. -/
def large (negative : Bool) (zeros : Nat) : Literal where
  negative
  whole := digits ++ List.replicate zeros '0'
  fraction := ['0']
  exponent := none
  whole_ne_nil := List.append_ne_nil_of_left_ne_nil h.ne_nil _
  isDigit_whole c hc := (List.mem_append.mp hc).elim (h.isDigit c) (isDigit_zeros zeros c)
  leading_zero hzero := by
    rw [List.head?_append_of_ne_nil _ h.ne_nil] at hzero
    exact absurd hzero h.head_ne
  isDigit_fraction := isDigit_zeros 1

/-- The digits with the point among them. -/
def cut (negative : Bool) {n : Nat} (hn : n ≠ 0) (exponent : Option Exponent) : Literal where
  negative
  whole := digits.take n
  fraction := digits.drop n
  exponent
  whole_ne_nil := by simp [hn, h.ne_nil]
  isDigit_whole c hc := h.isDigit c (List.mem_of_mem_take hc)
  leading_zero hzero := by
    rw [List.head?_take, if_neg hn] at hzero
    exact absurd hzero h.head_ne
  isDigit_fraction c hc := h.isDigit c (List.mem_of_mem_drop hc)

include h

theorem lt : d < 10 ^ 16 :=
  h.lt_pow.trans_le (Nat.pow_le_pow_right (by decide) h.length_le)

theorem coefficient_small (zeros : Nat) : (h.small negative zeros).coefficient = d := by
  have hzero : Nat.ofDigitChars 10 ['0'] 0 = 0 := by decide
  rw [Literal.coefficient, small, Nat.ofDigitChars_append, Nat.ofDigitChars_append,
    ofDigitChars_zeros, hzero, Nat.zero_mul, h.value]

theorem coefficient_large (zeros : Nat) :
    (h.large negative zeros).coefficient = d * 10 ^ (zeros + 1) := by
  rw [Literal.coefficient, large, Nat.ofDigitChars_append, Nat.ofDigitChars_append, h.value,
    ofDigitChars_zeros, pow_succ]
  simp [Nat.ofDigitChars_cons]
  ring

theorem coefficient_cut {n : Nat} (hn : n ≠ 0) (exponent : Option Exponent) :
    (h.cut negative hn exponent).coefficient = d := by
  rw [Literal.coefficient, cut, List.take_append_drop, h.value]

/-- Zeros between the point and the digits. -/
theorem writes_small {zeros : Nat} (hzeros : zeros ≤ 12)
    (hq : Representable (Decimal.withSign negative (d * 10 ^ (-(zeros : Int) - digits.length)))) :
    Writes negative ('0' :: '.' :: (List.replicate zeros '0' ++ digits))
      (d * 10 ^ (-(zeros : Int) - digits.length)) := by
  have hlength := h.length_le
  have hlt := h.lt
  have hpower : (h.small negative zeros).power = -(zeros : Int) - digits.length := by
    simp only [Literal.power, Literal.scaling, small, List.length_append, List.length_replicate]
    omega
  refine writes_literal (h.small negative zeros) rfl ?_
    (by rw [h.coefficient_small, hpower]) (by rw [h.coefficient_small]; omega) ?_ ?_ (by omega) hq
  · rw [Literal.mantissa, small, fractionChars_eq_cons (by simp [h.ne_nil])]
    exact List.append_nil _
  · simp only [small, List.length_append, List.length_replicate]
    omega
  · simp [Literal.scaling, small]

/-- Zeros between the digits and the point. -/
theorem writes_large {zeros : Nat} (hzeros : digits.length + zeros ≤ 16)
    (hq : Representable (Decimal.withSign negative (d * 10 ^ (zeros : Int)))) :
    Writes negative (digits ++ List.replicate zeros '0' ++ ['.', '0'])
      (d * 10 ^ (zeros : Int)) := by
  have hpower : (h.large negative zeros).power = -1 := rfl
  have hvalue : ((d * 10 ^ (zeros + 1) : Nat) : ℚ) * 10 ^ (-1 : Int) = d * 10 ^ (zeros : Int) := by
    rw [zpow_natCast, pow_succ]
    push_cast
    field_simp
  have hlt : d * 10 ^ (zeros + 1) < 10 ^ 17 :=
    calc d * 10 ^ (zeros + 1) < 10 ^ digits.length * 10 ^ (zeros + 1) :=
          Nat.mul_lt_mul_of_pos_right h.lt_pow (Nat.pow_pos (by decide))
      _ = 10 ^ (digits.length + (zeros + 1)) := (pow_add ..).symm
      _ ≤ 10 ^ 17 := Nat.pow_le_pow_right (by decide) (by omega)
  refine writes_literal (h.large negative zeros) rfl ?_
    (by rw [h.coefficient_large, hpower, hvalue]) (by rwa [h.coefficient_large]) (by simp [large])
    (by simp [Literal.scaling, large]) (by rw [hpower]; decide) hq
  rw [Literal.mantissa, large, Literal.exponentChars, List.append_nil]
  rfl

/-- The point among the digits. -/
theorem writes_cut {n : Nat} (hn : n ≠ 0) (hcut : n < digits.length)
    (hq : Representable (Decimal.withSign negative (d * 10 ^ ((n : Int) - digits.length)))) :
    Writes negative (digits.take n ++ '.' :: digits.drop n)
      (d * 10 ^ ((n : Int) - digits.length)) := by
  have hlength := h.length_le
  have hlt := h.lt
  have hpower : (h.cut negative hn none).power = n - digits.length := by
    simp only [Literal.power, Literal.scaling, cut, List.length_drop]
    omega
  refine writes_literal (h.cut negative hn none) rfl ?_
    (by rw [h.coefficient_cut, hpower]) (by rw [h.coefficient_cut]; omega) ?_
    (by simp [Literal.scaling, cut]) (by omega) hq
  · rw [Literal.mantissa, cut, Literal.exponentChars, List.append_nil,
      fractionChars_eq_cons (by simpa using hcut)]
  · simp only [cut, List.length_drop]
    omega

/-- Without an exponent a number is written as it is. -/
theorem writes_positional (hpoint : -5 < point ∧ point ≤ 16)
    (hq : Representable (Decimal.withSign negative (d * 10 ^ (point - digits.length)))) :
    Writes negative (positional digits point ['.', '0']) (d * 10 ^ (point - digits.length)) := by
  rw [positional]
  split
  · obtain ⟨zeros, rfl⟩ : ∃ zeros : Nat, point = -zeros := ⟨(-point).toNat, by omega⟩
    rw [neg_neg, Int.toNat_natCast]
    exact h.writes_small (by omega) hq
  · obtain ⟨n, rfl⟩ : ∃ n : Nat, point = n := ⟨point.toNat, by omega⟩
    rw [Int.toNat_natCast]
    split
    · rename_i hlarge
      obtain ⟨zeros, rfl⟩ := Nat.exists_eq_add_of_le hlarge
      rw [Nat.cast_add, add_sub_cancel_left] at hq ⊢
      rw [Nat.add_sub_cancel_left]
      exact h.writes_large (by omega) hq
    · exact h.writes_cut (by omega) (by omega) hq

theorem writes_scientific (hexponent : exponent ≤ 28)
    (hpower : -28 ≤ exponent + 1 - digits.length)
    (hq : Representable (Decimal.withSign negative (d * 10 ^ (exponent + 1 - digits.length)))) :
    Writes negative (scientific digits exponent) (d * 10 ^ (exponent + 1 - digits.length)) := by
  have hlength := h.length_le
  have hlt := h.lt
  have hpower' : (h.cut negative Nat.one_ne_zero (some (signedExponent exponent))).power =
      exponent + 1 - digits.length := by
    have := List.length_pos_iff.mpr h.ne_nil
    simp only [Literal.power, Literal.scaling, cut, signedExponent, List.length_drop]
    omega
  refine writes_literal (h.cut negative Nat.one_ne_zero (some (signedExponent exponent))) rfl ?_
    (by rw [h.coefficient_cut, hpower']) (by rw [h.coefficient_cut]; omega) ?_ hexponent
    (by omega) hq
  · exact (scientific_eq h.ne_nil exponent).symm
  · simp only [cut, List.length_drop]
    omega

end DigitsOf

/-- A number that a decimal holds has at most 29 digits before the point. -/
theorem leading_le {n : Nat} (hd : 10 ^ n ≤ d)
    (hq : Representable (Decimal.withSign negative (d * 10 ^ k))) : k + n ≤ 28 := by
  have hd' : (10 : ℚ) ^ n ≤ d := by exact_mod_cast hd
  have hle := hq.abs_le
  rw [abs_withSign, abs_of_nonneg (by positivity), value_greatest] at hle
  have hpowers : (10 : ℚ) ^ (k + n) < 10 ^ (29 : Int) :=
    calc (10 : ℚ) ^ (k + n) = 10 ^ n * 10 ^ k := by
          rw [zpow_add₀ (by norm_num), zpow_natCast, mul_comm]
      _ ≤ d * 10 ^ k := by gcongr
      _ < 10 ^ (29 : Int) := hle.trans_lt (by norm_num)
  have := (zpow_lt_zpow_iff_right₀ (by norm_num)).mp hpowers
  omega

/-- The layout is chosen by where the point falls, and either is exact. -/
theorem writes_layout (hd : d ≠ 0) (hlt : d < 10 ^ 16) (hk : -28 ≤ k)
    (hq : Representable (Decimal.withSign negative (d * 10 ^ k))) :
    Writes negative
      (let digits := Nat.toDigits 10 d
        let point := k + digits.length
        if -5 < point ∧ point ≤ 16 then positional digits point ['.', '0']
        else scientific digits (point - 1))
      (d * 10 ^ k) := by
  have hdigits := digitsOf_toDigits hd hlt
  have hlower := (length_toDigits_bounds (Nat.pos_of_ne_zero hd)).1
  revert hdigits hlower
  dsimp only
  generalize Nat.toDigits 10 d = digits
  intro hdigits hlower
  split
  · rename_i hpoint
    have hwrites := @DigitsOf.writes_positional _ _ negative _ hdigits hpoint
    rw [add_sub_cancel_right] at hwrites
    exact hwrites hq
  · have hexponent : k + digits.length - 1 ≤ 28 := by
      have := leading_le hlower hq
      have := List.length_pos_iff.mpr hdigits.ne_nil
      omega
    have hwrites := @DigitsOf.writes_scientific _ _ negative _ hdigits hexponent
    rw [sub_add_cancel, add_sub_cancel_right] at hwrites
    exact hwrites hk hq

theorem Writes.text {body : List Char} (h : Writes negative body q) :
    ∃ l : Literal, l.Fits ∧ String.ofList (if negative then '-' :: body else body) = l.text ∧
      l.value = Decimal.withSign negative q := by
  obtain ⟨l, hfits, hnegative, hbody, hvalue⟩ := h
  exact ⟨l, hfits, by rw [Literal.text, Literal.chars, hnegative, hbody], hvalue⟩

theorem writes_zero (negative : Bool) : Writes negative ['0', '.', '0'] 0 := by
  have hzero : Nat.ofDigitChars 10 ['0', '0'] 0 = 0 := by decide
  have hq : Representable (Decimal.withSign negative 0) := by
    rw [withSign_zero]
    exact representable_zero
  let l : Literal :=
    ⟨negative, ['0'], ['0'], none, by decide, isDigit_zeros 1, fun _ => rfl, isDigit_zeros 1⟩
  have hcoefficient : l.coefficient = 0 := hzero
  have hpower : l.power = -1 := rfl
  exact writes_literal l rfl rfl (by rw [hcoefficient, Nat.cast_zero, zero_mul])
    (by rw [hcoefficient]; decide) (by simp [l]) (by simp [l, Literal.scaling])
    (by rw [hpower]; decide) hq

/-- A number of at most fifteen digits is printed as itself, once it has been rounded. -/
theorem exponentText_nearest {y : Binary64} (hsmall : d < 10 ^ 15) (hk : -22 ≤ k ∧ k ≤ 22)
    (hy : Nearest (d * 10 ^ k) y)
    (hq : Representable (Decimal.withSign negative (d * 10 ^ k))) :
    ∃ l : Literal, l.Fits ∧ (y.withSign negative).exponentText = l.text ∧
      l.value = Decimal.withSign negative (d * 10 ^ k) := by
  rcases Nat.eq_zero_or_pos d with rfl | hd
  · have hzero : y = .finite false 0 (-1074) :=
      hy.unique ⟨0, 1, Nat.one_pos, by simp, rfl⟩
    rw [hzero, Nat.cast_zero, zero_mul]
    exact (writes_zero negative).text
  · obtain ⟨hlower, hupper⟩ := decimal_bounds hd hsmall hk
    obtain ⟨r, ⟨m, e, rfl, hr⟩, hnear⟩ :=
      hy.near (normal_of_bounds (by linarith) (by linarith))
    have hpos : (0 : ℚ) < d * 10 ^ k := by positivity
    have hm : m ≠ 0 := by
      rintro rfl
      rw [← hr, Nat.cast_zero, zero_mul, sub_zero, abs_of_pos hpos] at hnear
      linarith
    obtain ⟨hvalue, hplace⟩ := shortest_spec hd hsmall hk hy
    rw [withSign, exponentText, if_neg hm]
    generalize shortest roundHalfEven m e = found at hvalue hplace ⊢
    obtain ⟨d', k'⟩ := found
    dsimp only at hvalue hplace
    rw [← hvalue] at hpos hq ⊢
    have hd' : d' ≠ 0 := by
      rintro rfl
      simp at hpos
    have hlt : d' < 10 ^ 16 := by
      have hten : (10 : ℚ) ^ k ≤ 10 ^ (k' + 1) := zpow_le_zpow_right₀ (by norm_num) hplace
      rw [zpow_add_one₀ (by norm_num)] at hten
      have hle : (d' : ℚ) * 10 ^ k' ≤ (d * 10) * 10 ^ k' := by
        rw [hvalue, mul_assoc, mul_comm (10 : ℚ)]
        gcongr
      have hle' : (d' : ℚ) ≤ (d * 10 : Nat) := by
        push_cast
        exact le_of_mul_le_mul_right hle (by positivity)
      have : d' ≤ d * 10 := by exact_mod_cast hle'
      omega
    exact (writes_layout hd' hlt (by omega) hq).text

end SweepAudit.Binary64
