import Mathlib.Algebra.Group.Nat.Defs
import SweepAudit.Text.Digits

/-!
Reading digits back. The value of a string of decimal digits is the library's
`Nat.ofDigitChars`; whoever reads digits one by one never exceeds it on the way.
-/

namespace SweepAudit.Text

theorem digitValue?_of_isDigit {c : Char} (h : c.isDigit) :
    digitValue? c = some (c.toNat - '0'.toNat) := by
  simp only [Char.isDigit, Bool.and_eq_true, decide_eq_true_eq] at h
  exact if_pos h

theorem isDigit_of_isDigit {c : Char} (h : c.isDigit) : isDigit c = true := by
  rw [isDigit, digitValue?_of_isDigit h]
  rfl

theorem digitValue?_eq_some {c : Char} {d : Nat} (h : digitValue? c = some d) :
    c.isDigit ∧ c.toNat - '0'.toNat = d ∧ d < 10 := by
  rw [digitValue?] at h
  split at h
  · rename_i hrange
    cases h
    have hle : c.toNat ≤ 57 := hrange.2
    refine ⟨?_, rfl, show c.toNat - 48 < 10 by omega⟩
    simp only [Char.isDigit, Bool.and_eq_true, decide_eq_true_eq]
    exact hrange
  · cases h

/-- What has been read is no larger than what will have been read. -/
theorem le_ofDigitChars (digits : List Char) (value : Nat) :
    value ≤ Nat.ofDigitChars 10 digits value := by
  rw [Nat.ofDigitChars_eq_ofDigitChars_zero]
  have : 1 ≤ 10 ^ digits.length := Nat.pow_pos (by decide)
  calc value = 1 * value := (Nat.one_mul value).symm
    _ ≤ 10 ^ digits.length * value := Nat.mul_le_mul_right _ this
    _ ≤ _ := Nat.le_add_right _ _

theorem numberFrom?_digits {digits : List Char} (h : ∀ c ∈ digits, c.isDigit) {value : Nat} :
    numberFrom? value digits = some (Nat.ofDigitChars 10 digits value) := by
  induction digits generalizing value with
  | nil => rfl
  | cons c cs ih =>
    obtain ⟨hc, hcs⟩ := List.forall_mem_cons.mp h
    rw [numberFrom?, digitValue?_of_isDigit hc, Option.bind_some, ih hcs, Nat.ofDigitChars_cons,
      Nat.mul_comm]

theorem magnitudeFrom_digits {digits : List Char} (h : ∀ c ∈ digits, c.isDigit)
    (beyond : IntegerError) {bound value : Nat}
    (hbound : Nat.ofDigitChars 10 digits value < bound) :
    magnitudeFrom beyond bound value digits = .ok (Nat.ofDigitChars 10 digits value) := by
  induction digits generalizing value with
  | nil => rfl
  | cons c cs ih =>
    obtain ⟨hc, hcs⟩ := List.forall_mem_cons.mp h
    rw [Nat.ofDigitChars_cons, Nat.mul_comm] at hbound ⊢
    have hnext := Nat.lt_of_le_of_lt (le_ofDigitChars cs _) hbound
    simp only [magnitudeFrom, digitValue?_of_isDigit hc, hnext, if_true]
    exact ih hcs hbound

theorem magnitudeFrom_eq_ok {beyond : IntegerError} {bound value n : Nat} {cs : List Char}
    (h : magnitudeFrom beyond bound value cs = .ok n) :
    (∀ c ∈ cs, c.isDigit) ∧ Nat.ofDigitChars 10 cs value = n := by
  induction cs generalizing value with
  | nil =>
    cases h
    exact ⟨fun _ hc => absurd hc List.not_mem_nil, rfl⟩
  | cons c cs ih =>
    rw [magnitudeFrom] at h
    split at h
    · cases h
    · rename_i d hd
      split at h
      · obtain ⟨hdigit, hvalue, -⟩ := digitValue?_eq_some hd
        obtain ⟨hcs, hn⟩ := ih h
        rw [Nat.ofDigitChars_cons, hvalue, Nat.mul_comm]
        exact ⟨List.forall_mem_cons.mpr ⟨hdigit, hcs⟩, hn⟩
      · cases h

theorem isDigit_toDigits {n : Nat} : ∀ c ∈ Nat.toDigits 10 n, c.isDigit :=
  fun _ hc => Nat.isDigit_of_mem_toDigits (by decide) (by decide) hc

theorem parseUnsigned_digits {digits : List Char} (hne : digits ≠ [])
    (h : ∀ c ∈ digits, c.isDigit) {bound : Nat} (hbound : Nat.ofDigitChars 10 digits 0 < bound) :
    parseUnsigned bound digits = .ok (Nat.ofDigitChars 10 digits 0) ∧
      parseUnsigned bound ('+' :: digits) = .ok (Nat.ofDigitChars 10 digits 0) := by
  have hread := magnitudeFrom_digits h .tooLarge hbound
  cases digits with
  | nil => exact absurd rfl hne
  | cons c cs =>
    have hplus : c ≠ '+' := by
      rintro rfl
      exact absurd (h '+' List.mem_cons_self) (by decide)
    refine ⟨?_, hread⟩
    rw [parseUnsigned, hread]
    all_goals simp [hplus]

theorem parseUnsigned_toDigits {n bound : Nat} (h : n < bound) :
    parseUnsigned bound (Nat.toDigits 10 n) = .ok n := by
  have hread := (parseUnsigned_digits Nat.toDigits_ne_nil (isDigit_toDigits (n := n))
    (by simpa using h : _ < bound)).1
  rwa [Nat.ofDigitChars_ten_toDigits] at hread

/-- A text is that of a whole number: digits, behind a sign if there is one. -/
inductive Whole : List Char → Int → Prop
  | unsigned {digits : List Char} (ne : digits ≠ []) (h : ∀ c ∈ digits, c.isDigit) :
      Whole digits (Nat.ofDigitChars 10 digits 0)
  | plus {digits : List Char} (ne : digits ≠ []) (h : ∀ c ∈ digits, c.isDigit) :
      Whole ('+' :: digits) (Nat.ofDigitChars 10 digits 0)
  | minus {digits : List Char} (ne : digits ≠ []) (h : ∀ c ∈ digits, c.isDigit) :
      Whole ('-' :: digits) (-(Nat.ofDigitChars 10 digits 0 : Int))

theorem parseSigned_eq_ok {bound : Nat} {cs : List Char} {n : Int}
    (h : parseSigned bound cs = .ok n) : Whole cs n := by
  unfold parseSigned at h
  split at h
  · cases h
  · cases h
  · cases h
  · rename_i digits hne
    cases hread : magnitudeFrom .tooLarge bound 0 digits with
    | error e =>
      rw [hread] at h
      cases h
    | ok m =>
      rw [hread] at h
      cases h
      obtain ⟨hdigits, rfl⟩ := magnitudeFrom_eq_ok hread
      exact .plus (by rintro rfl; exact hne rfl) hdigits
  · rename_i digits hne
    cases hread : magnitudeFrom .tooSmall (bound + 1) 0 digits with
    | error e =>
      rw [hread] at h
      cases h
    | ok m =>
      rw [hread] at h
      cases h
      obtain ⟨hdigits, rfl⟩ := magnitudeFrom_eq_ok hread
      exact .minus (by rintro rfl; exact hne rfl) hdigits
  · rename_i hne _ _ _ _
    cases hread : magnitudeFrom .tooLarge bound 0 cs with
    | error e =>
      rw [hread] at h
      cases h
    | ok m =>
      rw [hread] at h
      cases h
      obtain ⟨hdigits, rfl⟩ := magnitudeFrom_eq_ok hread
      exact .unsigned (by rintro rfl; exact hne rfl) hdigits

theorem exists_head_toDigits (n : Nat) : ∃ c cs, Nat.toDigits 10 n = c :: cs ∧ c.isDigit := by
  cases hdigits : Nat.toDigits 10 n with
  | nil => exact absurd hdigits Nat.toDigits_ne_nil
  | cons c cs => exact ⟨c, cs, rfl, isDigit_toDigits c (hdigits ▸ List.mem_cons_self)⟩

theorem toList_toString_negSucc (n : Nat) :
    (toString (Int.negSucc n)).toList = '-' :: Nat.toDigits 10 (n + 1) := by
  change ("-" ++ Nat.repr (n + 1)).toList = _
  rw [String.toList_append, Nat.repr, String.toList_ofList, String.toList_ofList]
  rfl

/-- The text of a number is read as that number. -/
theorem parseSigned_toString {n : Int} {bound : Nat} (h : -(bound : Int) ≤ n ∧ n < bound) :
    parseSigned bound (toString n).toList = .ok n := by
  cases n with
  | ofNat n =>
    have htext : (toString (Int.ofNat n)).toList = Nat.toDigits 10 n := String.toList_ofList
    have hread : magnitudeFrom .tooLarge bound 0 (Nat.toDigits 10 n) = .ok n := by
      rw [magnitudeFrom_digits isDigit_toDigits _ (by simpa using h.2),
        Nat.ofDigitChars_ten_toDigits]
    obtain ⟨c, cs, hcons, hc⟩ := exists_head_toDigits n
    have hplus : c ≠ '+' := by rintro rfl; cases hc
    have hminus : c ≠ '-' := by rintro rfl; cases hc
    rw [htext]
    rw [hcons] at hread ⊢
    rw [parseSigned, hread]
    · rfl
    -- The other ways to begin are an end and the two signs.
    all_goals simp [hplus, hminus]
  | negSucc n =>
    have hread : magnitudeFrom .tooSmall (bound + 1) 0 (Nat.toDigits 10 (n + 1)) = .ok (n + 1) := by
      rw [magnitudeFrom_digits isDigit_toDigits _ (by simp; omega), Nat.ofDigitChars_ten_toDigits]
    rw [toList_toString_negSucc, parseSigned, hread]
    · rfl
    · exact Nat.toDigits_ne_nil

/-- Only zero is written with a zero in front. -/
theorem toDigits_eq_cons {n : Nat} (h : n ≠ 0) :
    ∃ c cs, Nat.toDigits 10 n = c :: cs ∧ c ≠ '0' := by
  induction n using Nat.base_induction 10 (by decide) with
  | single m hm =>
    rw [Nat.toDigits_of_lt_base hm]
    refine ⟨_, [], rfl, ?_⟩
    have : ∀ m < 10, m ≠ 0 → Nat.digitChar m ≠ '0' := by decide
    exact this m hm h
  | digit m k hk hm ih =>
    obtain ⟨c, cs, hcons, hc⟩ := ih (by omega)
    rw [← Nat.toDigits_append_toDigits (by decide) hm hk, hcons]
    exact ⟨c, _, rfl, hc⟩

theorem head_toDigits (n : Nat) (h : (Nat.toDigits 10 n).head? = some '0') :
    Nat.toDigits 10 n = ['0'] := by
  by_cases hn : n = 0
  · rw [hn, Nat.toDigits_zero]
  · obtain ⟨c, cs, hcons, hc⟩ := toDigits_eq_cons hn
    rw [hcons] at h
    exact absurd (Option.some.inj h) hc

/-! Hexadecimal digits -/

/-- The number that hexadecimal digits stand for. -/
def hexNumber (value : Nat) (cs : List Char) : Nat :=
  cs.foldl (fun n c => n * 16 + (hexValue? c).getD 0) value

theorem hexNumber_append (value : Nat) (cs ds : List Char) :
    hexNumber value (cs ++ ds) = hexNumber (hexNumber value cs) ds := List.foldl_append

theorem hexNumber_digit {d : Nat} (h : d < 16) (value : Nat) :
    hexNumber value [Nat.digitChar d] = value * 16 + d := by
  have hdigits : ∀ d < 16, hexValue? (Nat.digitChar d) = some d := by decide
  change value * 16 + (hexValue? (Nat.digitChar d)).getD 0 = _
  rw [hdigits d h, Option.getD_some]

theorem hexNumber_toDigits (n : Nat) : hexNumber 0 (Nat.toDigits 16 n) = n := by
  induction n using Nat.strongRecOn with
  | ind n ih =>
    rw [Nat.toDigits_eq_if (by decide)]
    split
    · rename_i h
      rw [hexNumber_digit h, Nat.zero_mul, Nat.zero_add]
    · rw [hexNumber_append, ih (n / 16) (by omega), hexNumber_digit (Nat.mod_lt n (by decide)),
        Nat.mul_comm]
      exact Nat.div_add_mod n 16

theorem hexNumber_hexPadded (width n : Nat) : hexNumber 0 (hexPadded width n) = n := by
  have hzeros (k : Nat) : hexNumber 0 (List.replicate k '0') = 0 := by
    induction k with
    | zero => rfl
    | succ k ih => rw [List.replicate_succ]; exact ih
  rw [hexPadded, hexNumber_append, hzeros, hexNumber_toDigits]

/-- Of a number that has more places only the lowest are written. -/
theorem hexNumber_hexPlaces (n width : Nat) : hexNumber 0 (hexPlaces n width) = n % 16 ^ width := by
  induction width generalizing n with
  | zero => exact (Nat.mod_one n).symm
  | succ width ih =>
    rw [hexPlaces, hexNumber_append, ih, hexNumber_digit (Nat.mod_lt n (by decide)), Nat.pow_succ',
      Nat.mod_mul]
    omega

end SweepAudit.Text
