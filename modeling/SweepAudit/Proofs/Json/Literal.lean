import SweepAudit.Proofs.Binary64.Layout
import SweepAudit.Proofs.Json.Reader

/-!
Literals as JSON reads them when they stand bare. The short method by which doubles are read
rounds once if there are no more than fifteen digits and the power of ten is itself a double;
then the number that is kept is printed as the number that was written.
-/

namespace SweepAudit.Json

open Text Binary64

variable {d fuel : Nat} {k : Int} {x : Binary64} {l : Literal} {rest : List Char}

/-! The short method -/

theorem scale_nearest (hx : x.Holds d) (hsmall : d < 10 ^ 15) (hk : -22 ≤ k ∧ k ≤ 22) :
    ∃ y, Numeral.scale x k = some y ∧ Nearest (d * 10 ^ k) y := by
  rw [Numeral.scale, if_neg (by omega)]
  split
  · rename_i hnegative
    obtain ⟨n, rfl⟩ : ∃ n : Nat, k = -n := ⟨(-k).toNat, by omega⟩
    have hquotient := hx.div (holds_powerOfTen (by omega : n ≤ 22)) (by positivity)
    rw [div_eq_mul_inv, ← zpow_natCast, ← zpow_neg] at hquotient
    rw [neg_neg, Int.toNat_natCast]
    exact ⟨_, rfl, hquotient⟩
  · rename_i hpositive
    obtain ⟨n, rfl⟩ := Int.eq_ofNat_of_zero_le (not_lt.mp hpositive)
    have hproduct := hx.mul (holds_powerOfTen (by omega : n ≤ 22))
    rw [← zpow_natCast] at hproduct
    have hsize : (d : ℚ) * 10 ^ (n : Int) ≤ 10 ^ 40 := by
      have hpower : (10 : ℚ) ^ (n : Int) ≤ 10 ^ (22 : Int) :=
        zpow_le_zpow_right₀ (by norm_num) hk.2
      calc (d : ℚ) * 10 ^ (n : Int) ≤ 10 ^ 15 * 10 ^ (22 : Int) := by
            gcongr
            exact_mod_cast hsmall.le
        _ ≤ 10 ^ 40 := by norm_num
    have hfinite := hproduct.isInfinite_eq_false (by positivity) (lt_top hsize)
    rw [if_pos (by omega), Int.toNat_natCast]
    simp only [hfinite, Bool.false_eq_true, if_false]
    exact ⟨_, rfl, hproduct⟩

/-- A literal as the reader takes it apart. -/
def numeral (l : Literal) : Numeral :=
  ⟨l.negative, l.whole, l.fraction, l.scaling, l.fraction.isEmpty && l.exponent.isNone⟩

theorem absorb_whole (h : l.coefficient < twoTo 64) :
    Numeral.absorb 0 l.whole = (Nat.ofDigitChars 10 l.whole 0, []) := by
  rw [Literal.coefficient, Nat.ofDigitChars_append] at h
  exact absorb_digits l.isDigit_whole ((le_ofDigitChars l.fraction _).trans_lt h)

theorem absorb_fraction (h : l.coefficient < twoTo 64) :
    Numeral.absorb (Nat.ofDigitChars 10 l.whole 0) l.fraction = (l.coefficient, []) := by
  rw [Literal.coefficient, Nat.ofDigitChars_append] at h ⊢
  exact absorb_digits l.isDigit_fraction h

theorem toFloat_nearest (hsmall : l.coefficient < 10 ^ 15) (hk : -22 ≤ l.power ∧ l.power ≤ 22) :
    ∃ y, (numeral l).toFloat = some (y.withSign l.negative) ∧
      Nearest (l.coefficient * 10 ^ l.power) y := by
  have hfits : l.coefficient < twoTo 64 := hsmall.trans (by decide)
  obtain ⟨y, hscale, hy⟩ := scale_nearest
    (holds_ofNat (hsmall.trans (by decide) : l.coefficient < 2 ^ 53)) hsmall hk
  have hpower : (0 : Int) - (l.fraction.length - 0) + l.scaling = l.power := by
    rw [Literal.power]
    omega
  refine ⟨y, ?_, hy⟩
  simp only [Numeral.toFloat, numeral, absorb_whole hfits, absorb_fraction hfits, List.length_nil,
    Nat.cast_zero, hpower, hscale, Option.map_some]

/-! The text of what has been read -/

/-- Whole numbers that are read as such: they fit 64 bits. -/
structure Plain (l : Literal) : Prop where
  fraction_eq : l.fraction = []
  exponent_eq : l.exponent = none
  wide : if l.negative then l.coefficient ≤ twoTo 63 else l.coefficient < twoTo 64

/-- Numbers of at most fifteen digits, with powers of ten that are doubles and that decimals
reach. -/
structure Short (l : Literal) : Prop where
  coefficient_lt : l.coefficient < 10 ^ 15
  power_ge : -22 ≤ l.power
  power_le : l.power ≤ 22
  places_le : l.fraction.length ≤ 28
  scaling_le : l.scaling ≤ 28

theorem Plain.lt (h : Plain l) : l.coefficient < twoTo 64 := by
  have hwide := h.wide
  split at hwide
  · exact hwide.trans_lt (by decide)
  · exact hwide

theorem Plain.power_eq (h : Plain l) : l.power = 0 := by
  rw [Literal.power, Literal.scaling, h.exponent_eq, h.fraction_eq]
  rfl

theorem Plain.fits (h : Plain l) : l.Fits where
  coefficient_lt := h.lt.trans (by decide)
  places_le := by simp [h.fraction_eq]
  scaling_le := by simp [Literal.scaling, h.exponent_eq]
  power_ge := by simp [h.power_eq]
  representable := by
    have hpower : l.power = -(0 : Nat) := h.power_eq
    exact Literal.representable_value (h.lt.trans (by decide)) hpower (by decide)

theorem Short.fits (h : Short l) (hq : Decimal.Representable l.value) : l.Fits where
  coefficient_lt := h.coefficient_lt.trans (by decide)
  places_le := h.places_le
  scaling_le := h.scaling_le
  power_ge := by have := h.power_ge; omega
  representable := hq

/-- A whole number is written as a literal. -/
def wholeLiteral (n : Int) : Literal where
  negative := n < 0
  whole := Nat.toDigits 10 n.natAbs
  fraction := []
  exponent := none
  whole_ne_nil := Nat.toDigits_ne_nil
  isDigit_whole := isDigit_toDigits
  leading_zero := head_toDigits n.natAbs
  isDigit_fraction := fun _ hc => absurd hc List.not_mem_nil

theorem text_whole (n : Int) : (Number.whole n).text = (wholeLiteral n).text := by
  have hchars : (Number.whole n).text.toList = (wholeLiteral n).chars := by
    rw [toList_whole, Literal.chars, Literal.mantissa, Literal.exponentChars, wholeLiteral]
    simp [Decimal.fractionChars]
  rw [Literal.text, ← hchars, String.ofList_toList]

theorem coefficient_wholeLiteral (n : Int) : (wholeLiteral n).coefficient = n.natAbs := by
  rw [Literal.coefficient, wholeLiteral, List.append_nil, Nat.ofDigitChars_ten_toDigits]

theorem value_wholeLiteral (n : Int) : (wholeLiteral n).value = n := by
  have hsign := Decimal.withSign_natAbs n 1
  rw [div_one, div_one] at hsign
  rw [Literal.value, coefficient_wholeLiteral, hsign]
  simp [wholeLiteral, Literal.power, Literal.scaling]

theorem plain_wholeLiteral {n : Int} (h : Wide n) : Plain (wholeLiteral n) where
  fraction_eq := rfl
  exponent_eq := rfl
  wide := by
    obtain ⟨hlower, hupper⟩ := h
    rw [coefficient_wholeLiteral]
    simp only [wholeLiteral, decide_eq_true_eq]
    split <;> omega

/-- What a number is read as is printed as a literal of the same value. -/
def Kept (l : Literal) (n : Number) : Prop :=
  ∃ l' : Literal, l'.Fits ∧ n.text = l'.text ∧ l'.value = l.value

theorem kept_whole {n : Int} (h : Wide n) (hvalue : l.value = n) : Kept l (.whole n) :=
  ⟨wholeLiteral n, (plain_wholeLiteral h).fits, text_whole n,
    (value_wholeLiteral n).trans hvalue.symm⟩

theorem kept_float (h : Short l) (hq : Decimal.Representable l.value) :
    ∃ x, (numeral l).toFloat = some x ∧ Kept l (.float x) := by
  have hpower : -22 ≤ l.power ∧ l.power ≤ 22 := ⟨h.power_ge, h.power_le⟩
  obtain ⟨y, hread, hy⟩ := toFloat_nearest h.coefficient_lt hpower
  exact ⟨_, hread, exponentText_nearest h.coefficient_lt hpower hy hq⟩

/-- A whole number is kept as such, unless it is the zero with a sign. -/
theorem kept_plain (h : Plain l) (hzero : ¬(l.negative = true ∧ l.coefficient = 0)) :
    ∃ n, (numeral l).value = some n ∧ Kept l n := by
  have hwide := h.wide
  have hwhole : l.coefficient = Nat.ofDigitChars 10 l.whole 0 := by
    rw [Literal.coefficient, h.fraction_eq, List.append_nil]
  have hvalue : l.value = Decimal.withSign l.negative l.coefficient := by
    rw [Literal.value, h.power_eq, zpow_zero, mul_one]
  have hread := absorb_whole h.lt
  rw [← hwhole] at hread
  cases hsign : l.negative with
  | false =>
    rw [hsign] at hvalue hwide
    refine ⟨.whole l.coefficient, ?_, kept_whole ⟨by omega, by exact_mod_cast hwide⟩ ?_⟩
    · simp [Numeral.value, numeral, hread, h.fraction_eq, h.exponent_eq, hsign]
    · rw [hvalue]
      simp [Decimal.withSign]
  | true =>
    rw [hsign] at hvalue hwide
    have hne : l.coefficient ≠ 0 := fun h => hzero ⟨hsign, h⟩
    have hle : l.coefficient ≤ twoTo 63 := hwide
    refine ⟨.whole (-l.coefficient), ?_, kept_whole ⟨by omega, by omega⟩ ?_⟩
    · simp [Numeral.value, numeral, hread, h.fraction_eq, h.exponent_eq, hsign, hne, hle]
    · rw [hvalue]
      simp [Decimal.withSign]

/-- Every other short number becomes a double. -/
theorem kept_short (h : Short l) (hq : Decimal.Representable l.value)
    (hother : ¬(l.fraction = [] ∧ l.exponent = none) ∨ l.negative = true ∧ l.coefficient = 0) :
    ∃ n, (numeral l).value = some n ∧ Kept l n := by
  have hfits : l.coefficient < twoTo 64 := h.coefficient_lt.trans (by decide)
  obtain ⟨x, hread, hkept⟩ := kept_float h hq
  refine ⟨.float x, ?_, hkept⟩
  rw [Numeral.value, hread]
  rcases hother with hpoint | ⟨hsign, hzero⟩
  · have hplain : (numeral l).plain = false := by
      rw [numeral, Bool.and_eq_false_imp]
      intro hfraction
      rw [Option.isNone_eq_false_iff, Option.isSome_iff_ne_none]
      exact fun hexponent => hpoint ⟨List.isEmpty_iff.mp hfraction, hexponent⟩
    simp [hplain]
  · have hmagnitude : Nat.ofDigitChars 10 l.whole 0 = 0 := by
      have hle := le_ofDigitChars l.fraction (Nat.ofDigitChars 10 l.whole 0)
      rw [← Nat.ofDigitChars_append] at hle
      exact Nat.le_zero.mp (hle.trans_eq hzero)
    have hwhole : Numeral.absorb 0 (numeral l).whole = (0, []) :=
      (absorb_whole hfits).trans (by rw [hmagnitude])
    have hnegative : (numeral l).negative = true := hsign
    simp [hwhole, hnegative]

/-- What a literal is read as is printed as the same number. -/
theorem value_kept (h : Plain l ∨ Short l) (hq : Decimal.Representable l.value) :
    ∃ n, (numeral l).value = some n ∧ Kept l n := by
  by_cases hwhole : l.fraction = [] ∧ l.exponent = none
  · have hplain : Plain l := by
      rcases h with h | h
      · exact h
      · have hlt := h.coefficient_lt
        have hbounds : 10 ^ 15 ≤ twoTo 63 ∧ 10 ^ 15 ≤ twoTo 64 := by decide
        refine ⟨hwhole.1, hwhole.2, ?_⟩
        split <;> omega
    by_cases hzero : l.negative = true ∧ l.coefficient = 0
    · have hpower : l.power = 0 := hplain.power_eq
      refine kept_short ⟨by rw [hzero.2]; decide, by omega, by omega, ?_, ?_⟩ hq (.inr hzero)
      · exact hplain.fits.places_le
      · exact hplain.fits.scaling_le
    · exact kept_plain hplain hzero
  · rcases h with h | h
    · exact absurd ⟨h.fraction_eq, h.exponent_eq⟩ hwhole
    · exact kept_short h hq (.inl hwhole)

/-! The text of a literal -/

theorem exponentValue_digits {digits : List Char} (h : ∀ c ∈ digits, c.isDigit) :
    exponentValue digits = Nat.ofDigitChars 10 digits 0 := by
  rw [exponentValue, numberFrom?_digits h, Option.getD_some]

theorem readExponent_whole {mark : Char} {cs : List Char} {n : Int}
    (hmark : mark = 'e' ∨ mark = 'E') (h : Whole cs n) (hrest : NoDigit rest) :
    readExponent (mark :: (cs ++ rest)) = .ok (some n, rest) := by
  have hmark' : (mark == 'e' || mark == 'E') = true := by simpa using hmark
  cases h with
  | unsigned hne hdigits =>
    have hread := readDigits_digits hne hdigits hrest
    have hsign (sign : Char) (h : sign.isDigit = false) (cs' : List Char) :
        cs ++ rest = sign :: cs' → False := by
      cases cs with
      | nil => exact absurd rfl hne
      | cons c cs =>
        rintro heq
        rw [← (List.cons.inj heq).1, hdigits c List.mem_cons_self] at h
        cases h
    rw [readExponent, if_pos hmark', hread, ← exponentValue_digits hdigits]
    · rfl
    · exact hsign '-' rfl
    · exact hsign '+' rfl
  | plus hne hdigits =>
    have hread := readDigits_digits hne hdigits hrest
    rw [List.cons_append, readExponent, if_pos hmark', hread, ← exponentValue_digits hdigits]
    rfl
  | minus hne hdigits =>
    have hread := readDigits_digits hne hdigits hrest
    rw [List.cons_append, readExponent, if_pos hmark', hread, ← exponentValue_digits hdigits]
    rfl

theorem readExponent_literal (l : Literal) (h : Ends rest) :
    readExponent (l.exponentChars ++ rest) = .ok (l.exponent.map (·.value), rest) := by
  cases hexponent : l.exponent with
  | none =>
    rw [Literal.exponentChars_none hexponent]
    exact readExponent_ends h
  | some exponent =>
    rw [Literal.exponentChars_some hexponent]
    exact readExponent_whole exponent.mark_eq exponent.whole h.noDigit

theorem noDigit_exponentChars (l : Literal) (h : Ends rest) :
    NoDigit (l.exponentChars ++ rest) := by
  cases hexponent : l.exponent with
  | none =>
    rw [Literal.exponentChars_none hexponent]
    exact h.noDigit
  | some exponent =>
    rw [Literal.exponentChars_some hexponent]
    rcases exponent.mark_eq with hmark | hmark <;> rw [hmark] <;> rfl

theorem readFraction_literal (l : Literal) (h : Ends rest) :
    readFraction (Decimal.fractionChars l.fraction ++ (l.exponentChars ++ rest)) =
      .ok (l.fraction, l.exponentChars ++ rest) := by
  by_cases hfraction : l.fraction = []
  · rw [hfraction, Decimal.fractionChars, List.nil_append]
    cases hexponent : l.exponent with
    | none =>
      rw [Literal.exponentChars_none hexponent]
      exact readFraction_ends h
    | some exponent =>
      rw [Literal.exponentChars_some hexponent]
      rcases exponent.mark_eq with hmark | hmark <;> rw [hmark] <;> rfl
  · rw [Decimal.fractionChars_eq_cons hfraction]
    exact readDigits_digits hfraction l.isDigit_fraction (noDigit_exponentChars l h)

theorem noDigit_fractionChars (l : Literal) (h : Ends rest) :
    NoDigit (Decimal.fractionChars l.fraction ++ (l.exponentChars ++ rest)) := by
  cases l.fraction with
  | nil => exact noDigit_exponentChars l h
  | cons c cs => rfl

theorem readNumeral_literal (l : Literal) (h : Ends rest) :
    readNumeral l.negative (l.mantissa ++ l.exponentChars ++ rest) = .ok (numeral l, rest) := by
  have hwhole := readWhole_digits l.whole_ne_nil l.isDigit_whole l.leading_zero
    (noDigit_fractionChars l h)
  rw [Literal.mantissa, List.append_assoc, List.append_assoc]
  simp only [readNumeral, hwhole, readFraction_literal l h, readExponent_literal l h, bind,
    Except.bind, pure, Except.pure]
  rw [numeral, Literal.scaling]
  cases l.exponent <;> rfl

/-- A bare literal is read as its number, whatever value may follow it. -/
theorem readValue_literal (l : Literal) (fuel : Nat) (h : Ends rest) :
    readValue (fuel + 1) (l.chars ++ rest) = ⟨.number (numeral l).value, some rest⟩ := by
  have hread := readNumeral_literal l h
  rw [Literal.chars]
  cases hnegative : l.negative with
  | true =>
    rw [hnegative] at hread
    rw [if_pos rfl, List.cons_append, readValue, skipSpaces_cons (by decide)]
    simp only [readNumber, hread]
  | false =>
    rw [hnegative] at hread
    obtain ⟨c, cs, hcons, hc⟩ := l.mantissa_eq_cons
    rw [hcons, List.cons_append, List.cons_append] at hread
    rw [if_neg Bool.false_ne_true, hcons, List.cons_append, List.cons_append,
      readValue_digit hc fuel, readNumber, hread]

end SweepAudit.Json
