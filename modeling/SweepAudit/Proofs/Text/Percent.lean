import SweepAudit.Text.Percent

/-!
Texts without a percent sign. They hold no escapes, so they are read as they are, and where
everything in them is kept they are written as they are.
-/

namespace SweepAudit.Text

theorem percentUnits_of_plain {cs : List Char} (h : ∀ c ∈ cs, c ≠ '%') :
    percentUnits cs = cs.map .char := by
  induction cs with
  | nil => simp [percentUnits]
  | cons c cs ih =>
    obtain ⟨hc, hcs⟩ := List.forall_mem_cons.mp h
    rw [percentUnits]
    · rw [ih hcs, List.map_cons]
    · intro a b rest heq
      exact absurd heq hc

theorem percentBytes_of_plain {cs : List Char} (h : ∀ c ∈ cs, c ≠ '%') :
    percentBytes cs = cs.utf8Encode := by
  rw [percentBytes, percentUnits_of_plain h, List.flatMap_map, List.utf8Encode]
  exact ByteArray.ext List.data_toByteArray.symm

theorem percentDecode?_of_plain {cs : List Char} (h : ∀ c ∈ cs, c ≠ '%') :
    percentDecode? cs = some cs := by
  rw [percentDecode?, percentBytes_of_plain h, List.utf8Decode?_utf8Encode]
  rfl

theorem charsFrom_utf8Encode (before cs : List Char) :
    charsFrom (before ++ cs).utf8Encode before.utf8Encode.size = cs := by
  induction cs generalizing before with
  | nil => rw [charsFrom, List.append_nil, if_neg (Nat.lt_irrefl _)]
  | cons c cs ih =>
    have hdecode : (before ++ c :: cs).utf8Encode.utf8DecodeChar? before.utf8Encode.size =
        some c := by
      rw [ByteArray.utf8DecodeChar?_eq_utf8DecodeChar?_extract, List.utf8Encode_append,
        ByteArray.extract_append_eq_right rfl (by simp), List.utf8DecodeChar?_utf8Encode_cons]
    have hlt : before.utf8Encode.size < (before ++ c :: cs).utf8Encode.size :=
      ByteArray.lt_size_of_isSome_utf8DecodeChar? (by rw [hdecode]; rfl)
    have hsize : before.utf8Encode.size + c.utf8Size = (before ++ [c]).utf8Encode.size := by
      rw [List.utf8Encode_append, ByteArray.size_append, List.utf8Encode_singleton,
        List.size_toByteArray, String.length_utf8EncodeChar]
    have hrest := ih (before ++ [c])
    rw [List.append_assoc, List.singleton_append, ← hsize] at hrest
    rw [charsFrom, if_pos hlt, hdecode]
    simp only [hrest]

theorem percentDecode_of_plain {cs : List Char} (h : ∀ c ∈ cs, c ≠ '%') :
    percentDecode cs = cs := by
  have := charsFrom_utf8Encode [] cs
  rw [List.utf8Encode_nil, List.nil_append] at this
  rw [percentDecode, percentBytes_of_plain h]
  exact this

theorem percentEncode_of_kept {keeps : Char → Bool} {cs : List Char}
    (h : ∀ c ∈ cs, keeps c = true) : percentEncode keeps cs = cs := by
  induction cs with
  | nil => rfl
  | cons c cs ih =>
    obtain ⟨hc, hcs⟩ := List.forall_mem_cons.mp h
    have := ih hcs
    simp_all [percentEncode]

end SweepAudit.Text
