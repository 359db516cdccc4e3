import Mathlib.Data.String.Basic
import SweepAudit.Text.Percent
import SweepAudit.Text.Split

/-!
How many bytes a text takes up. What is cut out of a text takes no more than the text itself,
and neither does what is read behind its escapes.
-/

namespace SweepAudit.Text

open String

variable {isSeparator : Char → Bool} {cs ds part : List Char}

theorem utf8ByteSize_le (s : String) : s.utf8ByteSize ≤ 4 * s.toList.length := by
  have hchars (cs : List Char) : utf8Len cs ≤ 4 * cs.length := by
    induction cs with
    | nil => exact Nat.le_refl _
    | cons c cs ih =>
      have := c.utf8Size_le_four
      rw [utf8Len_cons, List.length_cons]
      omega
  rw [← ofList_toList (s := s), utf8ByteSize_ofList, toList_ofList]
  exact hchars s.toList

/-! Cutting -/

theorem cutBy_isPrefix (isSeparator : Char → Bool) (cs : List Char) :
    (cutBy isSeparator cs).1 <+: cs := by
  induction cs with
  | nil => exact List.nil_prefix
  | cons c cs ih =>
    rw [cutBy]
    split
    · exact List.nil_prefix
    · exact List.prefix_cons_inj c |>.mpr ih

theorem sublist_of_mem_splitBy (h : part ∈ splitBy isSeparator cs) : part.Sublist cs := by
  induction cs generalizing part with
  | nil =>
    rw [splitBy, List.mem_singleton] at h
    exact h ▸ List.Sublist.refl _
  | cons c cs ih =>
    rw [splitBy] at h
    split at h
    · rcases List.mem_cons.mp h with rfl | h
      · exact List.nil_sublist _
      · exact (ih h).cons c
    · split at h
      · rw [List.mem_singleton] at h
        exact h ▸ (List.nil_sublist cs).cons_cons c
      · rename_i first parts hsplit
        have hfirst : first.Sublist cs := ih (by rw [hsplit]; exact List.mem_cons_self)
        rcases List.mem_cons.mp h with rfl | h
        · exact hfirst.cons_cons c
        · exact (ih (by rw [hsplit]; exact List.mem_cons_of_mem _ h)).cons c

/-- What is left of a text that has lost nothing of its size is all of it. -/
theorem eq_of_sublist (h : cs.Sublist ds) (hsize : utf8Len ds ≤ utf8Len cs) : cs = ds := by
  induction h with
  | slnil => rfl
  | cons d h ih =>
    have hle := utf8Len_le_of_sublist h
    have := d.utf8Size_pos
    rw [utf8Len_cons] at hsize
    omega
  | cons_cons d h ih =>
    rw [utf8Len_cons, utf8Len_cons] at hsize
    rw [ih (by omega)]

/-! Escapes -/

theorem size_utf8Encode (cs : List Char) : cs.utf8Encode.size = utf8Len cs := by
  rw [← utf8ByteSize_ofList]
  rfl

/-- A byte takes three characters to escape, and any other character stands for its own bytes. -/
theorem length_bytes_le (cs : List Char) :
    ((percentUnits cs).flatMap (·.bytes)).length ≤ utf8Len cs := by
  fun_induction percentUnits cs with
  | case1 a b cs high low ha hb ih =>
    rw [List.flatMap_cons, List.length_append, PercentUnit.bytes, List.length_singleton]
    simp only [utf8Len_cons]
    have := Char.utf8Size_pos '%'
    omega
  | case2 a b cs hnone ih =>
    rw [List.flatMap_cons, List.length_append, PercentUnit.bytes, length_utf8EncodeChar,
      utf8Len_cons]
    omega
  | case3 c cs hnext ih =>
    rw [List.flatMap_cons, List.length_append, PercentUnit.bytes, length_utf8EncodeChar,
      utf8Len_cons]
    omega
  | case4 => exact Nat.le_refl _

theorem utf8Len_percentDecode? (h : percentDecode? cs = some ds) : utf8Len ds ≤ utf8Len cs := by
  obtain ⟨chars, hchars, rfl⟩ := Option.map_eq_some_iff.mp h
  have hencode : chars.toList.utf8Encode = percentBytes cs := by
    have hsome : (percentBytes cs).utf8Decode?.isSome = true := by rw [hchars]; rfl
    have hget : (percentBytes cs).utf8Decode?.get hsome = chars :=
      Option.get_of_eq_some hsome hchars
    rw [← hget]
    exact ByteArray.utf8Encode_get_utf8Decode?
  calc utf8Len chars.toList = (percentBytes cs).size := by rw [← hencode, size_utf8Encode]
    _ = ((percentUnits cs).flatMap (·.bytes)).length := List.size_toArray
    _ ≤ utf8Len cs := length_bytes_le cs

end SweepAudit.Text
