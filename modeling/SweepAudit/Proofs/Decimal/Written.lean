import SweepAudit.Decimal.Reader
import SweepAudit.Text.Blank
import SweepAudit.Proofs.Decimal.Arithmetic
import SweepAudit.Proofs.Except
import SweepAudit.Proofs.Text.Digits

/-!
The number that a text writes, taken from its digits without any bound. A reader returns just
this number as long as a decimal holds it, and its mantissa where there is an exponent: on the
way to such a number only zeros are dropped.
-/

namespace SweepAudit.Decimal

open Text

/-! What a text writes -/

def digitsIn (cs : List Char) : List Char := cs.filter isDigit

/-- The number that the digits of a text make up, whatever stands between them. -/
def wholeNumber (cs : List Char) : Nat := Nat.ofDigitChars 10 (digitsIn cs) 0

/-- How many digits stand behind the point. -/
def places (cs : List Char) : Nat := (digitsIn (cs.dropWhile (· != '.'))).length

def hasMinus (cs : List Char) : Bool := cs.head? == some '-'

/-- A number as it is written: digits, of which so many stand behind the point, and a power of ten
by which they are multiplied. -/
structure Numeral where
  negative : Bool
  digits : Nat
  places : Nat
  exponent : Int
  deriving DecidableEq

def numeral (cs : List Char) : Numeral :=
  let mantissa := cs.takeWhile (!isExponentMark ·)
  let exponent := (cs.dropWhile (!isExponentMark ·)).drop 1
  ⟨hasMinus mantissa, wholeNumber mantissa, places mantissa,
    if hasMinus exponent then -(wholeNumber exponent) else wholeNumber exponent⟩

example : numeral "-1_0.50e-7".toList = ⟨true, 1050, 2, -7⟩ := by decide

namespace Numeral

def mantissa (n : Numeral) : ℚ := withSign n.negative (n.digits / 10 ^ n.places)

def value (n : Numeral) : ℚ := n.mantissa * 10 ^ n.exponent

/-- A decimal holds the number, and the mantissa by which it is written. -/
def Fits (n : Numeral) : Prop := Representable n.mantissa ∧ Representable n.value

end Numeral

/-- What a text writes, the white space around it left aside. -/
def written (text : String) : Numeral := numeral (trim text).toList

variable {afterPoint seen : Bool} {coefficient scale : Nat} {c : Char} {cs rest : List Char}
  {m : Magnitude}

/-! Digits -/

theorem digitsIn_digit {d : Nat} (h : digitValue? c = some d) (cs : List Char) :
    digitsIn (c :: cs) = c :: digitsIn cs ∧ c.toNat - '0'.toNat = d ∧ d < 10 :=
  ⟨List.filter_cons_of_pos (by rw [isDigit, h]; rfl), (digitValue?_eq_some h).2⟩

theorem digitsIn_other (h : digitValue? c = none) (cs : List Char) :
    digitsIn (c :: cs) = digitsIn cs :=
  List.filter_cons_of_neg (by rw [isDigit, h]; decide)

theorem digitsIn_dropWhile (cs : List Char) :
    digitsIn (cs.dropWhile (· == '_')) = digitsIn cs := by
  induction cs with
  | nil => rfl
  | cons c cs ih =>
    rw [List.dropWhile_cons]
    split
    · rename_i h
      rw [ih, beq_iff_eq.mp h, digitsIn_other (by decide)]
    · rfl

theorem ofDigitChars_lt (cs : List Char) (value : Nat) :
    Nat.ofDigitChars 10 (digitsIn cs) value < (value + 1) * 10 ^ (digitsIn cs).length := by
  induction cs generalizing value with
  | nil => simp [digitsIn]
  | cons c cs ih =>
    cases h : digitValue? c with
    | none =>
      rw [digitsIn_other h]
      exact ih value
    | some d =>
      obtain ⟨hcons, hd, hlt⟩ := digitsIn_digit h cs
      rw [hcons, Nat.ofDigitChars_cons, hd, List.length_cons, Nat.pow_succ']
      refine (ih (10 * value + d)).trans_le ?_
      rw [← Nat.mul_assoc]
      exact Nat.mul_le_mul_right _ (by omega)

theorem wholeNumber_digit {d : Nat} (h : digitValue? c = some d) (cs : List Char) :
    wholeNumber (c :: cs) = 10 ^ (digitsIn cs).length * d + wholeNumber cs := by
  obtain ⟨hcons, hd, -⟩ := digitsIn_digit h cs
  rw [wholeNumber, hcons, Nat.ofDigitChars_cons, hd, Nat.ofDigitChars_eq_ofDigitChars_zero]
  simp [wholeNumber]

/-! Where a reader stops -/

/-- What a decimal of no finer scale can do without are zeros. -/
theorem dvd_of_scale_le {b : Decimal} {n k : Nat} (hscale : b.scale ≤ scale)
    (hb : b.value = n / 10 ^ (scale + k)) : 10 ^ k ∣ n := by
  obtain ⟨u, hu⟩ := exists_units hscale
  have hunits : (n : ℚ) = u * 10 ^ k := by
    rw [← hu, hb, pow_add]
    field_simp
  have hunits' : (n : ℤ) = u * 10 ^ k := by exact_mod_cast hunits
  have hdvd : (10 ^ k : ℤ) ∣ n := ⟨u, by rw [hunits', mul_comm]⟩
  exact_mod_cast hdvd

/-- If more digits are to be read than there is room for, but a decimal holds the number, then
they are zeros. -/
theorem rest_eq_zero {r k : Nat} (hr : r < 10 ^ k)
    (hq : Representable ((coefficient * 10 ^ k + r : ℚ) / 10 ^ (scale + k)))
    (full : scale = 28 ∨
      greatest.value < (coefficient * 10 ^ k + r : ℚ) / 10 ^ (scale + k) * 10 ^ (scale + 1)) :
    r = 0 := by
  obtain ⟨b, hb⟩ := hq
  rw [← hb] at full
  have hscale : b.scale ≤ scale := by
    rcases full with rfl | hfull
    · exact b.scale_le
    · by_contra hlt
      exact absurd (value_mul_le (not_le.mp hlt)) (not_le.mpr hfull)
  have hdvd : 10 ^ k ∣ coefficient * 10 ^ k + r :=
    dvd_of_scale_le hscale (by rw [hb]; push_cast; rfl)
  exact Nat.eq_zero_of_dvd_of_lt ((Nat.dvd_add_right (Nat.dvd_mul_left _ _)).mp hdvd) hr

/-- A number ends at a digit or at a separator, and there are only such characters behind it. -/
theorem roundAt_eq_ok (h : roundAt coefficient scale c rest = .ok m) :
    checkTail rest = .ok () ∧ ∃ digit, (digitValue? c = some digit ∨ c = '_' ∧ digit = 0) ∧
      (digit < 5 → m = (coefficient, scale)) := by
  have htail : ∃ u, checkTail rest = .ok u := by
    cases htail : checkTail rest with
    | ok u => exact ⟨u, rfl⟩
    | error e =>
      simp only [roundAt, htail, bind, Except.bind] at h
      repeat' split at h
      all_goals cases h
  obtain ⟨⟨⟩, htail⟩ := htail
  refine ⟨htail, ?_⟩
  simp only [roundAt, htail, bind, Except.bind, pure, Except.pure] at h
  cases hc : digitValue? c with
  | some d =>
    refine ⟨d, .inl rfl, fun hd => ?_⟩
    simp only [hc, hd, if_true] at h
    cases h
    rfl
  | none =>
    by_cases hmark : c = '_'
    · refine ⟨0, .inr ⟨hmark, rfl⟩, fun _ => ?_⟩
      subst hmark
      simp [hc] at h
      exact h.symm
    · simp [hc, hmark] at h
      split at h
      all_goals cases h

theorem roundAt_zeros (h : roundAt coefficient scale c rest = .ok m)
    (hzero : wholeNumber (c :: rest) = 0) : m = (coefficient, scale) := by
  obtain ⟨-, digit, hc | ⟨-, rfl⟩, hm⟩ := roundAt_eq_ok h
  · rw [wholeNumber_digit hc] at hzero
    have hpow := Nat.pow_pos (n := (digitsIn rest).length) (show 0 < 10 by decide)
    have hdigit :=
      (Nat.mul_eq_zero.mp (Nat.eq_zero_of_add_eq_zero_right hzero)).resolve_left hpow.ne'
    exact hm (by omega)
  · exact hm (by decide)

theorem roundBehindLastPlace_zeros (h : roundBehindLastPlace coefficient scale c rest = .ok m)
    (hzero : wholeNumber (c :: rest) = 0) : m = (coefficient, scale) := by
  rw [roundBehindLastPlace] at h
  split at h
  · split at h
    · cases h
      rfl
    · rename_i c' rest' hskip
      refine roundAt_zeros h ?_
      rw [wholeNumber, ← hskip, digitsIn_dropWhile]
      exact hzero
  · exact roundAt_zeros h hzero

/-- How many digits are still to come behind the point. -/
def behind (afterPoint : Bool) (cs : List Char) : Nat :=
  if afterPoint then (digitsIn cs).length else places cs

theorem places_cons (h : c ≠ '.') (cs : List Char) : places (c :: cs) = places cs := by
  rw [places, List.dropWhile_cons_of_pos (by simpa using h)]
  rfl

/-- The number that has been read when so much of a text has been read already. -/
def readFrom (afterPoint : Bool) (coefficient scale : Nat) (cs : List Char) : ℚ :=
  Nat.ofDigitChars 10 (digitsIn cs) coefficient / 10 ^ (scale + behind afterPoint cs)

theorem readFrom_true (coefficient scale : Nat) (cs : List Char) :
    readFrom true coefficient scale cs =
      (coefficient * 10 ^ (digitsIn cs).length + wholeNumber cs : ℚ) /
        10 ^ (scale + (digitsIn cs).length) := by
  rw [readFrom, Nat.ofDigitChars_eq_ofDigitChars_zero, wholeNumber, behind, if_pos rfl]
  push_cast
  ring

theorem wholeNumber_lt (cs : List Char) : wholeNumber cs < 10 ^ (digitsIn cs).length := by
  simpa [wholeNumber] using ofDigitChars_lt cs 0

theorem readFrom_zeros (h : wholeNumber cs = 0) :
    readFrom true coefficient scale cs = coefficient / 10 ^ scale := by
  rw [readFrom_true, h, pow_add]
  field_simp
  simp

theorem readFrom_digit {d : Nat} (h : digitValue? c = some d) (afterPoint : Bool)
    (coefficient scale : Nat) (cs : List Char) :
    readFrom afterPoint coefficient scale (c :: cs) =
      readFrom afterPoint (coefficient * 10 + d) (if afterPoint then scale + 1 else scale) cs := by
  obtain ⟨hcons, hd, -⟩ := digitsIn_digit h cs
  have hpoint : c ≠ '.' := by
    rintro rfl
    cases h
  rw [readFrom, readFrom, hcons, Nat.ofDigitChars_cons, hd, Nat.mul_comm 10]
  congr 2
  cases afterPoint with
  | true =>
    simp only [behind, hcons, if_true, List.length_cons]
    omega
  | false => simp [behind, places_cons hpoint]

theorem readFrom_separator (afterPoint : Bool) (coefficient scale : Nat) (cs : List Char) :
    readFrom afterPoint coefficient scale ('_' :: cs) =
      readFrom afterPoint coefficient scale cs := by
  have hmark : digitsIn ('_' :: cs) = digitsIn cs := digitsIn_other (by decide) cs
  cases afterPoint <;> simp [readFrom, behind, hmark, places_cons]

theorem readFrom_point (coefficient scale : Nat) (cs : List Char) :
    readFrom false coefficient scale ('.' :: cs) = readFrom true coefficient scale cs := by
  have hpoint : digitsIn ('.' :: cs) = digitsIn cs := digitsIn_other (by decide) cs
  simp [readFrom, behind, places, hpoint]

/-- A digit for which there is no room makes the number too large for one place more. -/
theorem greatest_lt_readFrom {d : Nat} (h : digitValue? c = some d)
    (hfull : ¬coefficient * 10 + d < twoTo 96) (scale : Nat) (cs : List Char) :
    greatest.value < readFrom true coefficient scale (c :: cs) * 10 ^ (scale + 1) := by
  have hcoefficient : (79228162514264337593543950336 : ℚ) ≤ coefficient * 10 + d := by
    rw [twoTo_ninetySix, not_lt] at hfull
    exact_mod_cast hfull
  rw [readFrom_digit h, if_pos rfl, readFrom_true, value_greatest, div_mul_eq_mul_div,
    lt_div_iff₀ (by positivity), pow_add]
  generalize (digitsIn cs).length = k
  calc 79228162514264337593543950335 * (10 ^ (scale + 1) * 10 ^ k)
      < (79228162514264337593543950336 : ℚ) * (10 ^ (scale + 1) * 10 ^ k) := by gcongr; norm_num
    _ ≤ (coefficient * 10 + d) * (10 ^ (scale + 1) * 10 ^ k) := by gcongr
    _ = ((coefficient * 10 + d : Nat) * 10 ^ k + 0) * 10 ^ (scale + 1) := by push_cast; ring
    _ ≤ ((coefficient * 10 + d : Nat) * 10 ^ k + wholeNumber cs) * 10 ^ (scale + 1) := by
      gcongr
      exact Nat.cast_nonneg _

/-- What is read is what is written, if a decimal holds it. -/
theorem scanDigits_exact (h : scanDigits afterPoint seen coefficient scale cs = .ok m)
    (hq : Representable (readFrom afterPoint coefficient scale cs)) :
    (m.1 / 10 ^ m.2 : ℚ) = readFrom afterPoint coefficient scale cs := by
  induction cs generalizing afterPoint seen coefficient scale with
  | nil =>
    rw [scanDigits] at h
    split at h
    · cases h
      cases afterPoint <;> simp [readFrom, behind, digitsIn, places]
    · cases h
  | cons c cs ih =>
    rw [scanDigits] at h
    split at h
    · rename_i hlast
      obtain ⟨rfl, hscale⟩ := Bool.and_eq_true_iff.mp hlast
      have hzero := rest_eq_zero (wholeNumber_lt (c :: cs)) (readFrom_true .. ▸ hq)
        (.inl (beq_iff_eq.mp hscale))
      rw [roundBehindLastPlace_zeros h hzero, readFrom_zeros hzero]
    · split at h
      · rename_i d hd
        split at h
        · rw [readFrom_digit hd] at hq ⊢
          exact ih h hq
        · rename_i hfull
          split at h
          · rename_i hpoint
            subst hpoint
            have hzero := rest_eq_zero (wholeNumber_lt (c :: cs)) (readFrom_true .. ▸ hq)
              (.inr (readFrom_true .. ▸ greatest_lt_readFrom hd hfull scale cs))
            rw [roundAt_zeros h hzero, readFrom_zeros hzero]
          · cases h
      · split at h
        · rename_i hpoint
          obtain rfl := beq_iff_eq.mp hpoint
          cases afterPoint with
          | true => cases h
          | false =>
            rw [readFrom_point] at hq ⊢
            exact ih h hq
        · split at h
          · rename_i hmark
            obtain rfl := beq_iff_eq.mp hmark
            split at h
            · rw [readFrom_separator] at hq ⊢
              exact ih h hq
            · cases h
          · cases h

/-! There is no exponent in a plain number -/

theorem not_mark_of_digit {d : Nat} (h : digitValue? c = some d) : isExponentMark c = false := by
  rw [isExponentMark, Bool.or_eq_false_iff, beq_eq_false_iff_ne, beq_eq_false_iff_ne]
  constructor <;> rintro rfl <;> cases h

theorem not_mark_of_checkTail (h : checkTail cs = .ok ()) :
    ∀ c ∈ cs, isExponentMark c = false := by
  induction cs with
  | nil => exact fun _ hc => absurd hc List.not_mem_nil
  | cons c cs ih =>
    rw [checkTail] at h
    split at h
    · rename_i hc
      refine List.forall_mem_cons.mpr ⟨?_, ih h⟩
      rcases (Bool.or_eq_true _ _).mp hc with hdigit | hmark
      · obtain ⟨d, hd⟩ := Option.isSome_iff_exists.mp hdigit
        exact not_mark_of_digit hd
      · rw [beq_iff_eq.mp hmark]
        decide
    · split at h <;> cases h

theorem not_mark_of_roundAt (h : roundAt coefficient scale c rest = .ok m) :
    ∀ c' ∈ c :: rest, isExponentMark c' = false := by
  obtain ⟨htail, digit, hc, -⟩ := roundAt_eq_ok h
  refine List.forall_mem_cons.mpr ⟨?_, not_mark_of_checkTail htail⟩
  rcases hc with hc | ⟨rfl, -⟩
  · exact not_mark_of_digit hc
  · decide

theorem not_mark_of_roundBehindLastPlace
    (h : roundBehindLastPlace coefficient scale c rest = .ok m) :
    ∀ c' ∈ c :: rest, isExponentMark c' = false := by
  rw [roundBehindLastPlace] at h
  split at h
  · have hskipped : ∀ c' ∈ (c :: rest).takeWhile (· == '_'), isExponentMark c' = false := by
      intro c' hc'
      have hmark : (c' == '_') = true := List.all_eq_true.mp List.all_takeWhile c' hc'
      rw [beq_iff_eq.mp hmark]
      decide
    intro c' hc'
    rw [← @List.takeWhile_append_dropWhile _ (· == '_') (c :: rest)] at hc'
    rcases List.mem_append.mp hc' with hc' | hc'
    · exact hskipped c' hc'
    · split at h
      · rename_i hnil
        rw [hnil] at hc'
        exact absurd hc' List.not_mem_nil
      · rename_i hskip
        rw [hskip] at hc'
        exact not_mark_of_roundAt h c' hc'
  · exact not_mark_of_roundAt h

theorem not_mark_of_scanDigits (h : scanDigits afterPoint seen coefficient scale cs = .ok m) :
    ∀ c ∈ cs, isExponentMark c = false := by
  induction cs generalizing afterPoint seen coefficient scale with
  | nil => exact fun _ hc => absurd hc List.not_mem_nil
  | cons c cs ih =>
    rw [scanDigits] at h
    split at h
    · exact not_mark_of_roundBehindLastPlace h
    · split at h
      · rename_i d hd
        split at h
        · exact List.forall_mem_cons.mpr ⟨not_mark_of_digit hd, ih h⟩
        · split at h
          · exact not_mark_of_roundAt h
          · cases h
      · split at h
        · rename_i hpoint
          rw [beq_iff_eq.mp hpoint] at *
          split at h
          · cases h
          · exact List.forall_mem_cons.mpr ⟨by decide, ih h⟩
        · split at h
          · rename_i hmark
            rw [beq_iff_eq.mp hmark] at *
            split at h
            · exact List.forall_mem_cons.mpr ⟨by decide, ih h⟩
            · cases h
          · cases h

/-! Plain numbers -/

variable {x : Decimal}

theorem value_ofParts? {negative : Bool} {coefficient scale : Nat}
    (h : ofParts? negative coefficient scale = some x) :
    x.value = withSign negative (coefficient / 10 ^ scale) := by
  rw [ofParts?] at h
  split at h
  · cases h
    rw [value_mk]
  · cases h

theorem value_ofMagnitude {negative : Bool} (h : ofMagnitude negative m = .ok x) :
    x.value = withSign negative (m.1 / 10 ^ m.2) := by
  rw [ofMagnitude] at h
  split at h
  · rename_i hparts
    cases h
    rw [value_ofParts? hparts, withSign_and_ne_zero]
  · cases h

theorem readFrom_start (cs : List Char) :
    readFrom false 0 0 cs = wholeNumber cs / 10 ^ places cs := by
  rw [readFrom, behind, Nat.zero_add]
  rfl

theorem ofMagnitude_exact {negative : Bool} (h : (do
      ofMagnitude negative (← scanDigits false false 0 0 cs)) = .ok x) :
    (∀ c ∈ cs, isExponentMark c = false) ∧
      (Representable (withSign negative (wholeNumber cs / 10 ^ places cs)) →
        x.value = withSign negative (wholeNumber cs / 10 ^ places cs)) := by
  obtain ⟨m, hscan, h⟩ := bind_eq_ok h
  refine ⟨not_mark_of_scanDigits hscan, fun hq => ?_⟩
  have hread := scanDigits_exact hscan (readFrom_start cs ▸ hq.of_withSign)
  rw [value_ofMagnitude h, hread, readFrom_start]

theorem hasMinus_of_not_cons (h : ∀ rest, cs = '-' :: rest → False) : hasMinus cs = false := by
  rw [hasMinus, beq_eq_false_iff_ne]
  intro hhead
  obtain ⟨rest, rfl⟩ := List.head?_eq_some_iff.mp hhead
  exact h rest rfl

theorem parsePlain_exact (h : parsePlain cs = .ok x) : (∀ c ∈ cs, isExponentMark c = false) ∧
    (Representable (withSign (hasMinus cs) (wholeNumber cs / 10 ^ places cs)) →
      x.value = withSign (hasMinus cs) (wholeNumber cs / 10 ^ places cs)) := by
  have hplus (cs : List Char) : wholeNumber ('+' :: cs) = wholeNumber cs :=
    congrArg (Nat.ofDigitChars 10 · 0) (digitsIn_other (by decide) cs)
  have hminus (cs : List Char) : wholeNumber ('-' :: cs) = wholeNumber cs :=
    congrArg (Nat.ofDigitChars 10 · 0) (digitsIn_other (by decide) cs)
  unfold parsePlain at h
  split at h
  · cases h
  · obtain ⟨hmarks, hvalue⟩ := ofMagnitude_exact h
    rw [hplus, places_cons (by decide)]
    exact ⟨List.forall_mem_cons.mpr ⟨by decide, hmarks⟩, hvalue⟩
  · obtain ⟨hmarks, hvalue⟩ := ofMagnitude_exact h
    rw [hminus, places_cons (by decide)]
    exact ⟨List.forall_mem_cons.mpr ⟨by decide, hmarks⟩, hvalue⟩
  · rename_i hneg
    rw [hasMinus_of_not_cons hneg]
    exact ofMagnitude_exact h

end SweepAudit.Decimal
