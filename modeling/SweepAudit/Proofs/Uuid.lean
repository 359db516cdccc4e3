import Mathlib.Algebra.Group.Nat.Defs
import SweepAudit.Uuid
import SweepAudit.Proofs.Http.Address
import SweepAudit.Proofs.Text.Digits

/-!
The text of an identifier. It is accepted as one, names that identifier, and can stand in a
path as it is.
-/

namespace SweepAudit

namespace Text

theorem length_hexPlaces (n width : Nat) : (hexPlaces n width).length = width := by
  induction width generalizing n with
  | zero => rfl
  | succ width ih => rw [hexPlaces, List.length_append, ih, List.length_singleton]

theorem mem_hexPlaces {n width : Nat} {c : Char} (h : c ∈ hexPlaces n width) :
    ∃ d < 16, c = Nat.digitChar d := by
  induction width generalizing n with
  | zero => exact absurd h List.not_mem_nil
  | succ width ih =>
    rcases List.mem_append.mp h with h | h
    · exact ih h
    · exact ⟨n % 16, Nat.mod_lt _ (by decide), List.mem_singleton.mp h⟩

end Text

namespace Uuid

open Text

theorem hyphenatedFrom_digits {position : Nat} {digits : List Char}
    (h : ∀ c ∈ digits, isHexDigit c = true)
    (hplaces : ∀ i < digits.length, position + i ∉ hyphenPositions) (rest : List Char) :
    hyphenatedFrom position (digits ++ rest) =
      hyphenatedFrom (position + digits.length) rest := by
  induction digits generalizing position with
  | nil => rfl
  | cons c cs ih =>
    obtain ⟨hc, hcs⟩ := List.forall_mem_cons.mp h
    have hplace : position ∉ hyphenPositions := hplaces 0 (by simp)
    have hrest := @ih (position + 1) hcs fun i hi => by
      have := hplaces (i + 1) (by simpa using hi)
      rwa [Nat.add_assoc, Nat.add_comm 1 i]
    rw [List.cons_append, hyphenatedFrom, if_neg hplace, hc, Bool.true_and, hrest,
      List.length_cons]
    congr 1
    omega

theorem isHyphenated_hyphenated {digits : List Char} (h : ∀ c ∈ digits, isHexDigit c = true)
    (hlength : digits.length = 32) : isHyphenated (hyphenated digits) = true := by
  have block (start length position : Nat) (hfits : start + length ≤ 32)
      (hplaces : ∀ i < length, position + i ∉ hyphenPositions) (rest : List Char) :
      hyphenatedFrom position ((digits.drop start).take length ++ rest) =
        hyphenatedFrom (position + length) rest := by
    have hblock : ((digits.drop start).take length).length = length := by
      rw [List.length_take, List.length_drop]
      omega
    rw [hyphenatedFrom_digits _ (by rwa [hblock]), hblock]
    exact fun c hc => h c (List.mem_of_mem_drop (List.mem_of_mem_take hc))
  have hyphen (position : Nat) (hp : position ∈ hyphenPositions) (rest : List Char) :
      hyphenatedFrom position ('-' :: rest) = hyphenatedFrom (position + 1) rest := by
    rw [hyphenatedFrom, if_pos hp]
    rfl
  have hlast : digits.drop 20 = (digits.drop 20).take 12 ++ [] := by
    rw [List.append_nil, List.take_of_length_le]
    rw [List.length_drop]
    omega
  have hfirst : digits.take 8 = (digits.drop 0).take 8 := rfl
  rw [isHyphenated, hyphenated, hfirst, hlast, block 0 8 0 (by decide) (by decide),
    hyphen _ (by decide), block 8 4 9 (by decide) (by decide), hyphen _ (by decide),
    block 12 4 14 (by decide) (by decide), hyphen _ (by decide),
    block 16 4 19 (by decide) (by decide), hyphen _ (by decide),
    block 20 12 24 (by decide) (by decide)]
  rfl

theorem isHexDigit_hexPlaces (n width : Nat) : ∀ c ∈ hexPlaces n width, isHexDigit c = true := by
  intro c hc
  obtain ⟨d, hd, rfl⟩ := mem_hexPlaces hc
  have : ∀ d < 16, isHexDigit (Nat.digitChar d) = true := by decide
  exact this d hd

/-- The text of an identifier names one. -/
theorem isAccepted_text (id : Uuid) : isAccepted id.text = true := by
  have hyphenated := isHyphenated_hyphenated (isHexDigit_hexPlaces id.bits.toNat 32)
    (length_hexPlaces _ _)
  rw [isAccepted, text, String.toList_ofList, hyphenated]
  simp

theorem mem_hyphenated {digits : List Char} {c : Char} (h : c ∈ hyphenated digits) :
    c = '-' ∨ c ∈ digits := by
  have hgroup {start length : Nat} (h : c ∈ (digits.drop start).take length) : c ∈ digits :=
    List.mem_of_mem_drop (List.mem_of_mem_take h)
  simp only [hyphenated, List.mem_append, List.mem_cons] at h
  rcases h with h | rfl | h | rfl | h | rfl | h | rfl | h
  · exact .inr (List.mem_of_mem_take h)
  · exact .inl rfl
  · exact .inr (hgroup h)
  · exact .inl rfl
  · exact .inr (hgroup h)
  · exact .inl rfl
  · exact .inr (hgroup h)
  · exact .inl rfl
  · exact .inr (List.mem_of_mem_drop h)

theorem quiet_text (id : Uuid) : Http.Quiet id.text.toList := by
  rw [text, String.toList_ofList]
  constructor
  · intro h
    have := congrArg List.length h
    simp [hyphenated] at this
  · intro c hc
    rcases mem_hyphenated hc with rfl | hc
    · decide
    · obtain ⟨d, hd, rfl⟩ := mem_hexPlaces hc
      have : ∀ d < 16, Http.isQuiet (Nat.digitChar d) = true := by decide
      exact this d hd

theorem length_text (id : Uuid) : id.text.toList.length = 36 := by
  rw [text, String.toList_ofList]
  simp [hyphenated, length_hexPlaces]

theorem isEmpty_text (id : Uuid) : id.text.isEmpty = false := by
  rw [← Bool.not_eq_true, String.isEmpty_iff]
  intro h
  exact id.quiet_text.1 (congrArg String.toList h)

/-- The digits are what is left when the hyphens are taken out. -/
theorem filter_hyphenated {digits : List Char} (h : ∀ c ∈ digits, isHexDigit c = true) :
    (hyphenated digits).filter isHexDigit = digits := by
  have hkeep {cs : List Char} (hcs : ∀ c ∈ cs, c ∈ digits) : cs.filter isHexDigit = cs :=
    List.filter_eq_self.mpr fun c hc => h c (hcs c hc)
  have hjoin (start length : Nat) : (digits.drop start).take length ++
      digits.drop (start + length) = digits.drop start := by
    rw [← List.drop_drop, List.take_append_drop]
  have hmark : isHexDigit '-' = false := rfl
  simp only [hyphenated, List.filter_append, List.filter_cons, hmark, Bool.false_eq_true, if_false]
  rw [hkeep fun c hc => List.mem_of_mem_take hc,
    hkeep fun c hc => List.mem_of_mem_drop (List.mem_of_mem_take hc),
    hkeep fun c hc => List.mem_of_mem_drop (List.mem_of_mem_take hc),
    hkeep fun c hc => List.mem_of_mem_drop (List.mem_of_mem_take hc),
    hkeep fun c hc => List.mem_of_mem_drop hc,
    hjoin 16 4, hjoin 12 4, hjoin 8 4, List.take_append_drop]

/-- The identifier that a text names, in whichever of the accepted spellings. -/
def named? (s : String) : Option Uuid :=
  if isAccepted s then
    -- Among the letters of `urn:uuid:` there is one that could be a digit.
    let cs := if (s.toList.take 9).map Char.toLower == urn then s.toList.drop 9 else s.toList
    some ⟨BitVec.ofNat 128 (hexNumber 0 (cs.filter isHexDigit))⟩
  else none

/-- No text of an identifier begins as those do that have `urn:uuid:` in front. -/
theorem take_text_ne_urn (id : Uuid) :
    ((id.text.toList.take 9).map Char.toLower == urn) = false := by
  have hhyphen : id.text.toList[8]? = some '-' := by
    rw [text, String.toList_ofList, hyphenated, List.getElem?_append_right]
    · simp [length_hexPlaces]
    · simp [length_hexPlaces]
  rw [beq_eq_false_iff_ne]
  intro h
  have hninth := congrArg (fun cs : List Char => cs[8]?) h
  simp only [List.getElem?_map, List.getElem?_take, hhyphen] at hninth
  revert hninth
  decide

theorem named?_text (id : Uuid) : named? id.text = some id := by
  have hdigits : id.text.toList.filter isHexDigit = hexPlaces id.bits.toNat 32 := by
    rw [text, String.toList_ofList, filter_hyphenated (isHexDigit_hexPlaces _ _)]
  have hlt : id.bits.toNat < 16 ^ 32 := id.bits.isLt
  rw [named?, if_pos (isAccepted_text id), take_text_ne_urn id]
  simp only [Bool.false_eq_true, if_false, hdigits, hexNumber_hexPlaces, Nat.mod_eq_of_lt hlt,
    BitVec.ofNat_toNat, BitVec.setWidth_eq]

end Uuid

end SweepAudit
