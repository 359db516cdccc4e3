import SweepAudit.Decimal.Reader
import SweepAudit.Decimal.Text
import SweepAudit.Text.Blank
import SweepAudit.Proofs.Decimal.Value
import SweepAudit.Proofs.Text.Cutting
import SweepAudit.Proofs.Text.Digits

/-!
Decimals written and read again. The text of a decimal is read as the same number at the
same scale, but for the sign of a zero, and the scanner never has to round on the way.
-/

namespace SweepAudit.Decimal

open Text

/-- Digits before the point. -/
theorem scanDigits_whole {digits rest : List Char} (h : ∀ c ∈ digits, c.isDigit) (seen : Bool)
    {value : Nat} (hfits : Nat.ofDigitChars 10 digits value < twoTo 96) :
    scanDigits false seen value 0 (digits ++ rest) =
      scanDigits false (seen || !digits.isEmpty) (Nat.ofDigitChars 10 digits value) 0 rest := by
  induction digits generalizing seen value with
  | nil => simp
  | cons c cs ih =>
    obtain ⟨hc, hcs⟩ := List.forall_mem_cons.mp h
    rw [Nat.ofDigitChars_cons, Nat.mul_comm] at hfits ⊢
    have hnext := Nat.lt_of_le_of_lt (le_ofDigitChars cs _) hfits
    simp only [List.cons_append, scanDigits, digitValue?_of_isDigit hc, hnext, Bool.false_and,
      Bool.false_eq_true, if_false, if_true]
    rw [ih hcs true hfits]
    simp

/-- Digits behind the point, none of which is beyond the last place. -/
theorem scanDigits_fraction {digits : List Char} (h : ∀ c ∈ digits, c.isDigit)
    {value scale : Nat} (hfits : Nat.ofDigitChars 10 digits value < twoTo 96)
    (hscale : scale + digits.length ≤ 28) :
    scanDigits true true value scale digits =
      .ok (Nat.ofDigitChars 10 digits value, scale + digits.length) := by
  induction digits generalizing value scale with
  | nil => simp [scanDigits]
  | cons c cs ih =>
    obtain ⟨hc, hcs⟩ := List.forall_mem_cons.mp h
    rw [Nat.ofDigitChars_cons, Nat.mul_comm] at hfits ⊢
    rw [List.length_cons] at hscale ⊢
    have hnext := Nat.lt_of_le_of_lt (le_ofDigitChars cs _) hfits
    have hplace : (scale == 28) = false := by
      rw [beq_eq_false_iff_ne]
      omega
    simp only [scanDigits, digitValue?_of_isDigit hc, hnext, hplace, Bool.and_false,
      Bool.false_eq_true, if_false, if_true]
    rw [ih hcs hfits (by omega)]
    congr 2
    omega

/-- A fraction with its point; without digits there is none. -/
def fractionChars : List Char → List Char
  | [] => []
  | cs => '.' :: cs

theorem fractionChars_eq_cons {cs : List Char} (h : cs ≠ []) : fractionChars cs = '.' :: cs := by
  cases cs with
  | nil => exact absurd rfl h
  | cons c cs => rfl

/-- Digits before and behind the point, none of which is beyond the last place. -/
theorem scanDigits_parts {whole fraction : List Char} (hne : whole ≠ [])
    (hwhole : ∀ c ∈ whole, c.isDigit) (hfraction : ∀ c ∈ fraction, c.isDigit)
    (hfits : Nat.ofDigitChars 10 (whole ++ fraction) 0 < twoTo 96)
    (hplaces : fraction.length ≤ 28) :
    scanDigits false false 0 0 (whole ++ fractionChars fraction) =
      .ok (Nat.ofDigitChars 10 (whole ++ fraction) 0, fraction.length) := by
  rw [Nat.ofDigitChars_append] at hfits ⊢
  have hseen : (false || !whole.isEmpty) = true := by
    rw [Bool.false_or, Bool.not_eq_true', List.isEmpty_eq_false_iff]
    exact hne
  rw [scanDigits_whole hwhole false (Nat.lt_of_le_of_lt (le_ofDigitChars fraction _) hfits), hseen]
  have hpoint (cs : List Char) (value : Nat) :
      scanDigits false true value 0 ('.' :: cs) = scanDigits true true value 0 cs := by
    simp only [scanDigits, (by decide : digitValue? '.' = none), Bool.false_and,
      Bool.false_eq_true, if_false, if_true, beq_self_eq_true]
  cases fraction with
  | nil => rfl
  | cons c cs =>
    rw [fractionChars, hpoint, scanDigits_fraction hfraction hfits (by omega), Nat.zero_add]
    exact List.cons_ne_nil c cs

theorem isDigit_paddedDigits (coefficient scale : Nat) :
    ∀ c ∈ paddedDigits coefficient scale, c.isDigit := by
  intro c hc
  rcases List.mem_append.mp hc with hc | hc
  · rw [List.eq_of_mem_replicate hc]
    decide
  · exact isDigit_toDigits c hc

theorem ofDigitChars_paddedDigits (coefficient scale : Nat) :
    Nat.ofDigitChars 10 (paddedDigits coefficient scale) 0 = coefficient := by
  simp [paddedDigits, Nat.ofDigitChars_append]

theorem scale_lt_paddedDigits (coefficient scale : Nat) :
    scale < (paddedDigits coefficient scale).length := by
  simp only [paddedDigits, List.length_append, List.length_replicate]
  omega

theorem pointed_append (whole fraction : List Char) :
    pointed (whole ++ fraction) fraction.length = whole ++ fractionChars fraction := by
  cases fraction with
  | nil => simp [pointed, fractionChars]
  | cons c cs => simp [pointed, fractionChars]

/-- The digits of a decimal, cut at its point. -/
theorem exists_pointed (coefficient scale : Nat) :
    ∃ whole fraction, paddedDigits coefficient scale = whole ++ fraction ∧
      fraction.length = scale ∧ whole ≠ [] ∧
      pointed (paddedDigits coefficient scale) scale = whole ++ fractionChars fraction := by
  have hlength := scale_lt_paddedDigits coefficient scale
  obtain ⟨whole, fraction, hsplit, rfl⟩ : ∃ whole fraction,
      paddedDigits coefficient scale = whole ++ fraction ∧ fraction.length = scale := by
    have hcut := List.take_append_drop ((paddedDigits coefficient scale).length - scale)
      (paddedDigits coefficient scale)
    refine ⟨_, _, hcut.symm, ?_⟩
    rw [List.length_drop]
    omega
  rw [hsplit] at hlength ⊢
  have hne : whole ≠ [] := by
    rintro rfl
    simp at hlength
  exact ⟨whole, fraction, rfl, rfl, hne, pointed_append whole fraction⟩

theorem scanDigits_pointed {coefficient scale : Nat} (hc : coefficient < twoTo 96)
    (hs : scale ≤ 28) :
    scanDigits false false 0 0 (pointed (paddedDigits coefficient scale) scale) =
      .ok (coefficient, scale) := by
  have hdigits := isDigit_paddedDigits coefficient scale
  have hvalue := ofDigitChars_paddedDigits coefficient scale
  obtain ⟨whole, fraction, hsplit, rfl, hne, hpointed⟩ := exists_pointed coefficient scale
  rw [hsplit] at hdigits hvalue
  rw [hpointed, scanDigits_parts hne (fun c h => hdigits c (List.mem_append_left _ h))
    (fun c h => hdigits c (List.mem_append_right _ h)) (by rwa [hvalue]) hs, hvalue]

/-- The decimal without the sign of a zero. -/
def unsignedZero (x : Decimal) : Decimal :=
  { x with negative := x.negative && x.coefficient != 0 }

theorem value_unsignedZero (x : Decimal) : x.unsignedZero.value = x.value := by
  rw [unsignedZero, value_mk, withSign_and_ne_zero, ← value_eq]

theorem pointed_eq_cons (coefficient scale : Nat) :
    ∃ c cs, pointed (paddedDigits coefficient scale) scale = c :: cs ∧ c.isDigit := by
  have hdigits := isDigit_paddedDigits coefficient scale
  have hlength := scale_lt_paddedDigits coefficient scale
  revert hdigits hlength
  generalize paddedDigits coefficient scale = digits
  intro hdigits hlength
  cases digits with
  | nil => simp at hlength
  | cons c cs =>
    refine ⟨c, ?_⟩
    have hc := hdigits c List.mem_cons_self
    rw [pointed]
    split
    · exact ⟨cs, rfl, hc⟩
    · obtain ⟨n, hn⟩ : ∃ n, (c :: cs).length - scale = n + 1 :=
        Nat.exists_eq_succ_of_ne_zero (by omega)
      rw [hn]
      exact ⟨_, rfl, hc⟩

theorem parsePlain_digit {c : Char} {cs : List Char} (h : c.isDigit) :
    parsePlain (c :: cs) = (do ofMagnitude false (← scanDigits false false 0 0 (c :: cs))) := by
  unfold parsePlain
  split
  · rename_i heq
    cases heq
  · rename_i heq
    cases heq
    simp at h
  · rename_i heq
    cases heq
    simp at h
  · rfl

theorem parsePlain_displayChars (x : Decimal) :
    parsePlain x.displayChars = .ok x.unsignedZero := by
  have hscan := scanDigits_pointed x.coefficient_lt x.scale_le
  have hread (negative : Bool) : (do
      ofMagnitude negative (← scanDigits false false 0 0
        (pointed (paddedDigits x.coefficient x.scale) x.scale))) =
      Except.ok ⟨negative && x.coefficient != 0, x.coefficient, x.scale, x.coefficient_lt,
        x.scale_le⟩ := by
    rw [hscan]
    simp only [bind, Except.bind, ofMagnitude, ofParts?_eq_some x.coefficient_lt x.scale_le]
  rw [displayChars]
  cases hn : x.negative with
  | true =>
    simp only [if_true, parsePlain, hread true, unsignedZero, hn]
  | false =>
    obtain ⟨c, cs, hcons, hc⟩ := pointed_eq_cons x.coefficient x.scale
    have hread := hread false
    rw [hcons] at hread
    simp only [Bool.false_eq_true, if_false, hcons]
    rw [parsePlain_digit hc, hread, unsignedZero, hn]

theorem parse_display (x : Decimal) : parse x.display = .ok x.unsignedZero := by
  rw [parse, parseChars, display, String.toList_ofList, parsePlain_displayChars]

/-- The canonical text of a decimal is read as the same number. -/
theorem parse_canonical (x : Decimal) :
    ∃ y, parse x.canonical = .ok y ∧ y.value = x.value :=
  ⟨_, parse_display x.normalize, by rw [value_unsignedZero, value_normalize]⟩

theorem mem_displayChars {x : Decimal} {c : Char} (h : c ∈ x.displayChars) :
    c = '-' ∨ c = '.' ∨ c.isDigit := by
  have hpointed : ∀ c ∈ pointed (paddedDigits x.coefficient x.scale) x.scale,
      c = '.' ∨ c.isDigit := by
    have hdigits := isDigit_paddedDigits x.coefficient x.scale
    intro c hc
    rw [pointed] at hc
    split at hc
    · exact .inr (hdigits c hc)
    · rcases List.mem_append.mp hc with hc | hc
      · exact .inr (hdigits c (List.mem_of_mem_take hc))
      · rcases List.mem_cons.mp hc with rfl | hc
        · exact .inl rfl
        · exact .inr (hdigits c (List.mem_of_mem_drop hc))
  rw [displayChars] at h
  split at h
  · exact (List.mem_cons.mp h).imp_right (hpointed c)
  · exact .inr (hpointed c h)

theorem isBlank_of_isDigit {c : Char} (h : c.isDigit) : isBlank c = false := by
  have hrange : 48 ≤ c.toNat ∧ c.toNat ≤ 57 := by
    simpa [Char.isDigit, UInt32.le_iff_toNat_le] using h
  have hapart : ∀ range ∈ blankRanges, range.2 < 48 ∨ 57 < range.1 := by decide
  rw [isBlank, List.any_eq_false]
  intro range hmem
  have := hapart range hmem
  simp only [Bool.and_eq_true, decide_eq_true_eq]
  omega

/-- There is no white space in the text of a decimal. -/
theorem trim_canonical (x : Decimal) : trim x.canonical = x.canonical := by
  have hblank : ∀ c ∈ x.canonical.toList, isBlank c = false := by
    intro c hc
    rw [canonical, display, String.toList_ofList] at hc
    rcases mem_displayChars hc with rfl | rfl | hc
    · decide
    · decide
    · exact isBlank_of_isDigit hc
  rw [trim, trimBy_eq_self hblank, String.ofList_toList]

/-- The decimal that a text is read as, zero if it is none. -/
def ofText (text : String) : Decimal := (parse text).toOption.getD zero

/-- A text is read as this number, and no white space is around it. -/
def Reads (text : String) (q : ℚ) : Prop :=
  trim text = text ∧ ∃ x, parse text = .ok x ∧ x.value = q

theorem reads_canonical (x : Decimal) : Reads x.canonical x.value :=
  ⟨x.trim_canonical, x.parse_canonical⟩

end SweepAudit.Decimal
