import SweepAudit.Proofs.Decimal.Exponent
import SweepAudit.Proofs.Decimal.Text

/-!
Numbers digit by digit, as JSON writes them. A decimal is read from such a text as soon as it can
hold the digits and the exponent is within its reach, and then it is the number itself.
-/

namespace SweepAudit

open Text Decimal

/-- An exponent as it is written: a mark, and digits behind a sign if there is one. -/
structure Exponent where
  mark : Char
  chars : List Char
  value : Int
  mark_eq : mark = 'e' ∨ mark = 'E'
  whole : Whole chars value

/-- A number as it is written: digits without needless zeros in front, a fraction and an exponent,
of which either may be missing. -/
structure Literal where
  negative : Bool
  whole : List Char
  fraction : List Char
  exponent : Option Exponent
  whole_ne_nil : whole ≠ []
  isDigit_whole : ∀ c ∈ whole, c.isDigit
  leading_zero : whole.head? = some '0' → whole = ['0']
  isDigit_fraction : ∀ c ∈ fraction, c.isDigit

namespace Literal

/-- The digits with the point. -/
def mantissa (l : Literal) : List Char := l.whole ++ fractionChars l.fraction

def exponentChars (l : Literal) : List Char :=
  match l.exponent with
  | none => []
  | some exponent => exponent.mark :: exponent.chars

def chars (l : Literal) : List Char :=
  if l.negative then '-' :: (l.mantissa ++ l.exponentChars) else l.mantissa ++ l.exponentChars

def text (l : Literal) : String := String.ofList l.chars

/-- The number that the digits make up without the point. -/
def coefficient (l : Literal) : Nat := Nat.ofDigitChars 10 (l.whole ++ l.fraction) 0

/-- The power of ten that is written. -/
def scaling (l : Literal) : Int :=
  match l.exponent with
  | none => 0
  | some exponent => exponent.value

/-- The power of ten by which the coefficient is multiplied. -/
def power (l : Literal) : Int := l.scaling - l.fraction.length

def value (l : Literal) : ℚ := withSign l.negative (l.coefficient * 10 ^ l.power)

/-- The digits are within the width of a decimal, and the exponent is within its reach. -/
structure Fits (l : Literal) : Prop where
  coefficient_lt : l.coefficient < twoTo 96
  places_le : l.fraction.length ≤ 28
  scaling_le : l.scaling ≤ 28
  power_ge : -28 ≤ l.power
  representable : Representable l.value

variable {l : Literal}

/-- A decimal holds the number if the point is at most 28 places into its digits. -/
theorem representable_value {places : Nat} (h : l.coefficient < twoTo 96)
    (hpower : l.power = -places) (hplaces : places ≤ 28) : Representable l.value := by
  refine ⟨⟨l.negative, l.coefficient, places, h, hplaces⟩, ?_⟩
  rw [value_mk, value, hpower, zpow_neg, zpow_natCast, div_eq_mul_inv]

theorem mantissa_eq_cons (l : Literal) : ∃ c cs, l.mantissa = c :: cs ∧ c.isDigit := by
  cases h : l.whole with
  | nil => exact absurd h l.whole_ne_nil
  | cons c cs =>
    exact ⟨c, cs ++ fractionChars l.fraction, by rw [mantissa, h, List.cons_append],
      l.isDigit_whole c (h ▸ List.mem_cons_self)⟩

theorem exponentChars_none (h : l.exponent = none) : l.exponentChars = [] := by
  rw [exponentChars, h]

theorem exponentChars_some {exponent : Exponent} (h : l.exponent = some exponent) :
    l.exponentChars = exponent.mark :: exponent.chars := by
  rw [exponentChars, h]

/-- The digits of a literal with its sign. -/
def signedMantissa (l : Literal) : List Char :=
  if l.negative then '-' :: l.mantissa else l.mantissa

theorem chars_eq (l : Literal) : l.chars = l.signedMantissa ++ l.exponentChars := by
  rw [chars, signedMantissa]
  split <;> simp

theorem parsePlain_mantissa (h : l.Fits) :
    parsePlain l.signedMantissa = .ok ⟨l.negative && l.coefficient != 0, l.coefficient,
      l.fraction.length, h.coefficient_lt, h.places_le⟩ := by
  have hscan : scanDigits false false 0 0 l.mantissa = .ok (l.coefficient, l.fraction.length) :=
    scanDigits_parts l.whole_ne_nil l.isDigit_whole l.isDigit_fraction h.coefficient_lt h.places_le
  have hread (negative : Bool) :
      (do ofMagnitude negative (← scanDigits false false 0 0 l.mantissa)) =
        Except.ok ⟨negative && l.coefficient != 0, l.coefficient, l.fraction.length,
          h.coefficient_lt, h.places_le⟩ := by
    rw [hscan]
    simp only [bind, Except.bind, ofMagnitude, ofParts?_eq_some h.coefficient_lt h.places_le]
  rw [signedMantissa]
  cases l.negative with
  | true => exact hread true
  | false =>
    obtain ⟨c, cs, hcons, hc⟩ := l.mantissa_eq_cons
    rw [if_neg Bool.false_ne_true, ← hread false, hcons, parsePlain_digit hc]

theorem mem_signedMantissa {c : Char} (h : c ∈ l.signedMantissa) :
    c = '-' ∨ c = '.' ∨ c.isDigit := by
  have hmantissa : ∀ c ∈ l.mantissa, c = '.' ∨ c.isDigit := by
    intro c hc
    rcases List.mem_append.mp hc with hc | hc
    · exact .inr (l.isDigit_whole c hc)
    · cases hfraction : l.fraction with
      | nil =>
        rw [hfraction] at hc
        cases hc
      | cons d ds =>
        rw [hfraction] at hc
        rcases List.mem_cons.mp hc with rfl | hc
        · exact .inl rfl
        · exact .inr (l.isDigit_fraction c (hfraction ▸ hc))
  rw [signedMantissa] at h
  split at h
  · exact (List.mem_cons.mp h).imp_right (hmantissa c)
  · exact .inr (hmantissa c h)

theorem not_mark_signedMantissa : ∀ c ∈ l.signedMantissa, isExponentMark c = false := by
  intro c hc
  rcases mem_signedMantissa hc with rfl | rfl | hc
  · rfl
  · rfl
  · exact not_mark_of_digit (digitValue?_of_isDigit hc)

theorem isExponentMark_mark (exponent : Exponent) : isExponentMark exponent.mark = true := by
  rcases exponent.mark_eq with h | h <;> rw [h] <;> rfl

theorem parseScientific_text (h : l.Fits) {exponent : Exponent}
    (hexponent : l.exponent = some exponent) :
    ∃ x, parseScientific .lossy l.chars = .ok x ∧ x.value = l.value := by
  have hscaling : l.scaling = exponent.value := by rw [scaling, hexponent]
  have hchars : l.chars = l.signedMantissa ++ exponent.mark :: exponent.chars := by
    rw [chars_eq, exponentChars_some hexponent]
  have hplain := parsePlain_mantissa h
  have hvalue : Decimal.value ⟨l.negative && l.coefficient != 0, l.coefficient, l.fraction.length,
      h.coefficient_lt, h.places_le⟩ * 10 ^ exponent.value = l.value := by
    rw [value_mk, withSign_and_ne_zero, ← withSign_mul_right, value, power, hscaling,
      zpow_sub₀ (by norm_num), zpow_natCast, div_mul_eq_mul_div, mul_div_assoc]
  rw [hchars, ← hvalue]
  exact parseScientific_ok not_mark_signedMantissa (isExponentMark_mark exponent) hplain
    exponent.whole (hscaling ▸ h.scaling_le) (hscaling ▸ h.power_ge) (hvalue ▸ h.representable)

/-- A literal is read as the number it is. -/
theorem parse_text (h : l.Fits) : ∃ x, parse l.text = .ok x ∧ x.value = l.value := by
  rw [parse, text, String.toList_ofList, parseChars]
  cases hexponent : l.exponent with
  | none =>
    have hchars : l.chars = l.signedMantissa := by
      rw [chars_eq, exponentChars_none hexponent, List.append_nil]
    rw [hchars, parsePlain_mantissa h]
    refine ⟨_, rfl, ?_⟩
    rw [value_mk, withSign_and_ne_zero, value, power, scaling, hexponent, zero_sub, zpow_neg,
      zpow_natCast, div_eq_mul_inv]
  | some exponent =>
    have hmark : exponent.mark ∈ l.chars := by
      rw [chars_eq, exponentChars_some hexponent]
      exact List.mem_append_right _ List.mem_cons_self
    have hread := parseScientific_text h hexponent
    split
    · rename_i y hplain
      exact absurd ((parsePlain_exact hplain).1 _ hmark)
        (by rw [isExponentMark_mark exponent]; decide)
    · rwa [if_pos (List.any_eq_true.mpr ⟨_, hmark, isExponentMark_mark exponent⟩)]

theorem mem_whole {cs : List Char} {n : Int} (h : Whole cs n) {c : Char} (hc : c ∈ cs) :
    c = '+' ∨ c = '-' ∨ c.isDigit := by
  cases h with
  | unsigned _ hdigits => exact .inr (.inr (hdigits c hc))
  | plus _ hdigits => exact (List.mem_cons.mp hc).imp_right fun hc => .inr (hdigits c hc)
  | minus _ hdigits => exact .inr ((List.mem_cons.mp hc).imp_right (hdigits c))

theorem mem_chars {c : Char} (h : c ∈ l.chars) :
    c ∈ ['-', '+', '.', 'e', 'E'] ∨ c.isDigit := by
  rw [chars_eq] at h
  rcases List.mem_append.mp h with h | h
  · rcases mem_signedMantissa h with rfl | rfl | h
    · exact .inl (by decide)
    · exact .inl (by decide)
    · exact .inr h
  cases hexponent : l.exponent with
  | none =>
    rw [exponentChars_none hexponent] at h
    cases h
  | some exponent =>
    rw [exponentChars_some hexponent] at h
    rcases List.mem_cons.mp h with rfl | h
    · rcases exponent.mark_eq with hmark | hmark <;> exact .inl (by simp [hmark])
    · rcases mem_whole exponent.whole h with rfl | rfl | h
      · exact .inl (by decide)
      · exact .inl (by decide)
      · exact .inr h

/-- There is no white space in a literal. -/
theorem trim_text (l : Literal) : trim l.text = l.text := by
  have hsigns : ['-', '+', '.', 'e', 'E'].all (fun c => !isBlank c) = true := by decide
  have hblank : ∀ c ∈ l.text.toList, isBlank c = false := by
    intro c hc
    rw [text, String.toList_ofList] at hc
    rcases mem_chars hc with hc | hc
    · simpa using List.all_eq_true.mp hsigns c hc
    · exact isBlank_of_isDigit hc
  rw [trim, trimBy_eq_self hblank, String.ofList_toList]

theorem reads_text (h : l.Fits) : Reads l.text l.value := ⟨l.trim_text, parse_text h⟩

end Literal

end SweepAudit
