import SweepAudit.Proofs.Decimal.Equal
import SweepAudit.Proofs.Decimal.Exponent
import SweepAudit.Proofs.Decimal.Text

/-!
The canonical text of a decimal. It writes the number in full, it is read as the normal form of the
decimal, digit for digit, and it is the same for two decimals exactly if they are equal.
-/

namespace SweepAudit.Decimal

open Text

variable {x y : Decimal}

/-! Reading -/

theorem unsignedZero_of_ne_zero (h : x.isZero = false) : x.unsignedZero = x := by
  have hne : (x.coefficient != 0) = true := by
    rw [bne, ← isZero, h]
    rfl
  rw [unsignedZero, hne, Bool.and_true]

/-- The normal form of a zero has no sign that could be lost. -/
theorem unsignedZero_normalize (x : Decimal) : x.normalize.unsignedZero = x.normalize := by
  cases hzero : x.isZero with
  | true =>
    rw [normalize, if_pos hzero]
    rfl
  | false =>
    refine unsignedZero_of_ne_zero ?_
    rw [isZero_congr x.value_normalize, hzero]

theorem parse_canonical_eq (x : Decimal) : parse x.canonical = .ok x.normalize := by
  rw [canonical, parse_display, unsignedZero_normalize]

theorem same_normalize (x : Decimal) : x.normalize.Same x := same_iff.mpr x.value_normalize

theorem canonical_eq_iff (x y : Decimal) : x.canonical = y.canonical ↔ x.Same y := by
  rw [same_iff]
  refine ⟨fun h => ?_, canonical_congr⟩
  have hparse : (.ok x.normalize : Except ParseError Decimal) = .ok y.normalize := by
    rw [← parse_canonical_eq, ← parse_canonical_eq, h]
  rw [← x.value_normalize, ← y.value_normalize, Except.ok.inj hparse]

/-! What is written -/

theorem digitsIn_fractionChars {fraction : List Char} (h : ∀ c ∈ fraction, c.isDigit) :
    digitsIn (fractionChars fraction) = fraction := by
  cases fraction with
  | nil => rfl
  | cons c cs => exact (digitsIn_other (by decide) _).trans (digitsIn_digits h)

theorem places_parts {whole fraction : List Char} (hwhole : ∀ c ∈ whole, c.isDigit)
    (hfraction : ∀ c ∈ fraction, c.isDigit) :
    places (whole ++ fractionChars fraction) = fraction.length := by
  have hpoint : ∀ c ∈ whole, (c != '.') = true := by
    intro c hc
    rw [bne_iff_ne]
    rintro rfl
    exact absurd (hwhole '.' hc) (by decide)
  have hrest : (fractionChars fraction).dropWhile (· != '.') = fractionChars fraction := by
    cases fraction with
    | nil => rfl
    | cons c cs => rfl
  rw [places, List.dropWhile_append_of_pos hpoint, hrest, digitsIn_fractionChars hfraction]

theorem written_pointed (coefficient scale : Nat) :
    wholeNumber (pointed (paddedDigits coefficient scale) scale) = coefficient ∧
      places (pointed (paddedDigits coefficient scale) scale) = scale := by
  have hdigits := isDigit_paddedDigits coefficient scale
  have hvalue := ofDigitChars_paddedDigits coefficient scale
  obtain ⟨whole, fraction, hsplit, rfl, -, hpointed⟩ := exists_pointed coefficient scale
  rw [hsplit] at hdigits hvalue
  have hwhole : ∀ c ∈ whole, c.isDigit := fun c h => hdigits c (List.mem_append_left _ h)
  have hfraction : ∀ c ∈ fraction, c.isDigit := fun c h => hdigits c (List.mem_append_right _ h)
  have hkept : digitsIn (whole ++ fractionChars fraction) = whole ++ fraction := by
    rw [digitsIn, List.filter_append]
    exact congrArg₂ _ (digitsIn_digits hwhole) (digitsIn_fractionChars hfraction)
  rw [hpointed, wholeNumber, hkept, hvalue]
  exact ⟨rfl, places_parts hwhole hfraction⟩

/-- The text of a decimal is written with its sign, its coefficient and its scale. -/
theorem numeral_displayChars (x : Decimal) :
    numeral x.displayChars = ⟨x.negative, x.coefficient, x.scale, 0⟩ := by
  obtain ⟨hnumber, hplaces⟩ := written_pointed x.coefficient x.scale
  rw [numeral_plain (parsePlain_exact (parsePlain_displayChars x)).1, displayChars]
  cases x.negative with
  | true =>
    have hminus (cs : List Char) : hasMinus ('-' :: cs) = true := rfl
    rw [if_pos rfl, hminus, wholeNumber_other (by decide), places_cons (by decide), hnumber,
      hplaces]
  | false =>
    obtain ⟨c, cs, hcons, hc⟩ := pointed_eq_cons x.coefficient x.scale
    have hplus : hasMinus (pointed (paddedDigits x.coefficient x.scale) x.scale) = false := by
      refine hasMinus_of_not_cons fun rest h => ?_
      rw [hcons] at h
      cases h
      exact absurd hc (by decide)
    rw [if_neg Bool.false_ne_true, hplus, hnumber, hplaces]

theorem written_canonical (x : Decimal) : (written x.canonical).value = x.value := by
  rw [written, trim_canonical, canonical, display, String.toList_ofList, numeral_displayChars,
    Numeral.value, Numeral.mantissa, zpow_zero, mul_one, ← value_eq, value_normalize]

end SweepAudit.Decimal
