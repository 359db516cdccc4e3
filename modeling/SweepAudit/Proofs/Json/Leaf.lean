import SweepAudit.Json.Reader
import SweepAudit.Proofs.Text.Digits

/-!
Strings and whole numbers written as JSON and read again. Whatever characters a string
has, its escapes are read back as these; a whole number comes back if it fits 64 bits.
-/

namespace SweepAudit.Json

open Text

/-! Strings -/

theorem hexValue?_digitChar : ∀ n < 16, hexValue? (Nat.digitChar n) = some n := by decide

theorem length_le_utf8ByteSize (cs : List Char) : cs.length ≤ (String.ofList cs).utf8ByteSize := by
  induction cs with
  | nil => exact Nat.zero_le _
  | cons c cs ih =>
    have hsize : (String.ofList (c :: cs)).utf8ByteSize =
        c.utf8Size + (String.ofList cs).utf8ByteSize := by
      rw [← List.singleton_append, String.ofList_append, String.utf8ByteSize_append]
      simp
    have := c.utf8Size_pos
    rw [hsize, List.length_cons]
    omega

theorem readCodeUnit_hexPlaces {n : Nat} (h : n < 65536) (rest : List Char) :
    readCodeUnit (hexPlaces n 4 ++ rest) = .ok (n, rest) := by
  have hplaces : hexPlaces n 4 = [Nat.digitChar (n / 16 / 16 / 16 % 16),
      Nat.digitChar (n / 16 / 16 % 16), Nat.digitChar (n / 16 % 16), Nat.digitChar (n % 16)] := by
    simp [hexPlaces]
  have hlength := length_le_utf8ByteSize (hexPlaces n 4)
  rw [hplaces] at hlength ⊢
  have hmod (m : Nat) := hexValue?_digitChar (m % 16) (Nat.mod_lt _ (by decide))
  have hunit : codeUnit? (Nat.digitChar (n / 16 / 16 / 16 % 16))
      (Nat.digitChar (n / 16 / 16 % 16)) (Nat.digitChar (n / 16 % 16)) (Nat.digitChar (n % 16)) =
      some n := by
    simp only [codeUnit?, hmod, Option.bind_eq_bind, Option.bind_some, Option.pure_def]
    congr 1
    omega
  simp only [List.length_cons, List.length_nil] at hlength
  simp only [readCodeUnit, List.cons_append, List.nil_append, List.take_succ_cons, List.take_zero,
    Nat.not_lt.mpr hlength, if_false, hunit]

/-- One character of a string is read back from what stands for it. -/
theorem readString_escapeChar (fuel : Nat) (c : Char) (rest : List Char) :
    readString (fuel + 1) (escapeChar c ++ rest) = (readString fuel rest).prepend c := by
  unfold escapeChar
  split
  case h_8 =>
    rename_i hquote hslash _ _ _ _ _
    split
    · rename_i hcontrol
      have hread : readEscape ('u' :: (hexPlaces c.toNat 4 ++ rest)) = .char c rest := by
        have htrailing : isTrailing c.toNat = false := by
          simp only [isTrailing, Bool.and_eq_false_iff, decide_eq_false_iff_not]
          omega
        have hleading : isLeading c.toNat = false := by
          simp only [isLeading, Bool.and_eq_false_iff, decide_eq_false_iff_not]
          omega
        simp only [readEscape, readCodeUnit_hexPlaces (by omega : c.toNat < 65536), htrailing,
          hleading, Bool.false_eq_true, if_false, Char.ofNat_toNat]
      simp [readString, hread]
    · rename_i hprinted
      have h1 : (c == '"') = false := beq_eq_false_iff_ne.mpr hquote
      have h2 : (c == '\\') = false := beq_eq_false_iff_ne.mpr hslash
      simp [readString, h1, h2, hprinted]
  all_goals rfl

/-- A string is read back from its text, whatever follows it. -/
theorem readString_stringChars {cs : List Char} {fuel : Nat} (h : cs.length < fuel)
    (rest : List Char) :
    readString fuel (cs.flatMap escapeChar ++ '"' :: rest) = .closed (some cs) rest := by
  induction cs generalizing fuel with
  | nil =>
    obtain ⟨fuel, rfl⟩ := Nat.exists_eq_add_one_of_ne_zero (Nat.ne_zero_of_lt h)
    rfl
  | cons c cs ih =>
    obtain ⟨fuel, rfl⟩ := Nat.exists_eq_add_one_of_ne_zero (Nat.ne_zero_of_lt h)
    rw [List.length_cons] at h
    rw [List.flatMap_cons, List.append_assoc, readString_escapeChar, ih (by omega)]
    rfl

/-! Whole numbers -/

/-- What may stand behind a value: the text ends, or its container goes on or is closed. -/
def Ends : List Char → Prop
  | [] => True
  | c :: _ => c = ',' ∨ c = ']' ∨ c = '\x7d'

/-- No digit stands at the front. -/
def NoDigit : List Char → Prop
  | [] => True
  | c :: _ => isDigit c = false

theorem Ends.noDigit {cs : List Char} (h : Ends cs) : NoDigit cs := by
  cases cs with
  | nil => trivial
  | cons c cs => rcases h with rfl | rfl | rfl <;> rfl

theorem takeWhile_digits {digits rest : List Char} (hdigits : ∀ c ∈ digits, c.isDigit)
    (hrest : NoDigit rest) : (digits ++ rest).takeWhile isDigit = digits := by
  rw [List.takeWhile_append_of_pos fun c hc => isDigit_of_isDigit (hdigits c hc)]
  cases rest with
  | nil => simp
  | cons c cs => rw [List.takeWhile_cons_of_neg (by simp [show isDigit c = false from hrest]),
      List.append_nil]

theorem dropWhile_digits {digits rest : List Char} (hdigits : ∀ c ∈ digits, c.isDigit)
    (hrest : NoDigit rest) : (digits ++ rest).dropWhile isDigit = rest := by
  rw [List.dropWhile_append_of_pos fun c hc => isDigit_of_isDigit (hdigits c hc)]
  cases rest with
  | nil => rfl
  | cons c cs => rw [List.dropWhile_cons_of_neg (by simp [show isDigit c = false from hrest])]

theorem readDigits_digits {digits rest : List Char} (hne : digits ≠ [])
    (hdigits : ∀ c ∈ digits, c.isDigit) (hrest : NoDigit rest) :
    readDigits (digits ++ rest) = .ok (digits, rest) := by
  rw [readDigits, takeWhile_digits hdigits hrest, dropWhile_digits hdigits hrest]
  cases digits with
  | nil => exact absurd rfl hne
  | cons c cs => rfl

theorem readWhole_digits {digits rest : List Char} (hne : digits ≠ [])
    (hdigits : ∀ c ∈ digits, c.isDigit) (hzero : digits.head? = some '0' → digits = ['0'])
    (hrest : NoDigit rest) : readWhole (digits ++ rest) = .ok (digits, rest) := by
  by_cases hhead : digits.head? = some '0'
  · rw [hzero hhead, List.singleton_append]
    cases rest with
    | nil => rfl
    | cons c cs => simp only [readWhole, show isDigit c = false from hrest, Bool.false_eq_true,
        if_false]
  · have hread := readDigits_digits hne hdigits hrest
    unfold readWhole
    split
    · rename_i heq
      cases digits with
      | nil => exact absurd rfl hne
      | cons c cs => exact absurd (by rw [(List.cons.inj heq).1]; rfl) hhead
    · exact hread

theorem readWhole_toDigits (n : Nat) {rest : List Char} (h : Ends rest) :
    readWhole (Nat.toDigits 10 n ++ rest) = .ok (Nat.toDigits 10 n, rest) :=
  readWhole_digits Nat.toDigits_ne_nil isDigit_toDigits (head_toDigits n) h.noDigit

theorem readFraction_ends {rest : List Char} (h : Ends rest) :
    readFraction rest = .ok ([], rest) := by
  cases rest with
  | nil => rfl
  | cons c cs => rcases h with rfl | rfl | rfl <;> rfl

theorem readExponent_ends {rest : List Char} (h : Ends rest) :
    readExponent rest = .ok (none, rest) := by
  cases rest with
  | nil => rfl
  | cons c cs => rcases h with rfl | rfl | rfl <;> rfl

theorem readNumeral_toDigits (negative : Bool) (n : Nat) {rest : List Char} (h : Ends rest) :
    readNumeral negative (Nat.toDigits 10 n ++ rest) =
      .ok (⟨negative, Nat.toDigits 10 n, [], 0, true⟩, rest) := by
  simp [readNumeral, readWhole_toDigits n h, readFraction_ends h, readExponent_ends h, bind,
    Except.bind, pure, Except.pure]

theorem absorb_digits {digits : List Char} (h : ∀ c ∈ digits, c.isDigit) {value : Nat}
    (hfits : Nat.ofDigitChars 10 digits value < twoTo 64) :
    Numeral.absorb value digits = (Nat.ofDigitChars 10 digits value, []) := by
  induction digits generalizing value with
  | nil => rfl
  | cons c cs ih =>
    rw [Nat.ofDigitChars_cons, Nat.mul_comm] at hfits ⊢
    have hnext := Nat.lt_of_le_of_lt (le_ofDigitChars cs _) hfits
    simp only [Numeral.absorb, hnext, if_true]
    exact ih (List.forall_mem_cons.mp h).2 hfits

/-- The whole numbers that are read as they are written. -/
def Wide (n : Int) : Prop := -(twoTo 63 : Int) ≤ n ∧ n < twoTo 64

theorem value_toDigits {n : Nat} (h : n < twoTo 64) :
    Numeral.value ⟨false, Nat.toDigits 10 n, [], 0, true⟩ = some (.whole n) := by
  have habsorb : Numeral.absorb 0 (Nat.toDigits 10 n) = (n, []) := by
    rw [absorb_digits isDigit_toDigits (by simpa using h), Nat.ofDigitChars_ten_toDigits]
  simp [Numeral.value, habsorb]

theorem value_neg_toDigits {n : Nat} (h0 : n ≠ 0) (h : n ≤ twoTo 63) :
    Numeral.value ⟨true, Nat.toDigits 10 n, [], 0, true⟩ = some (.whole (-n)) := by
  have hlt : n < twoTo 64 := Nat.lt_of_le_of_lt h (by decide)
  have habsorb : Numeral.absorb 0 (Nat.toDigits 10 n) = (n, []) := by
    rw [absorb_digits isDigit_toDigits (by simpa using hlt), Nat.ofDigitChars_ten_toDigits]
  simp [Numeral.value, habsorb, h0, h]

end SweepAudit.Json
