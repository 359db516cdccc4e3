import SweepAudit.Proofs.Text.Size

/-!
Writing a text with escapes. The text may have escapes of its own, which are left as they are;
so what is read behind the escapes of the whole is what is read behind these. A text comes
back from this only if it has none.
-/

namespace SweepAudit.Text

variable {keeps : Char → Bool} {cs ds : List Char}

/-- What would be an escape behind a percent sign. -/
def HexPair : List Char → Prop
  | a :: b :: _ => isHexDigit a = true ∧ isHexDigit b = true
  | _ => False

/-- What is read behind the escapes of a text. -/
def unescaped (cs : List Char) : List UInt8 := (percentUnits cs).flatMap (·.bytes)

theorem unescaped_pair {a b : Char} {high low : Nat} (ha : hexValue? a = some high)
    (hb : hexValue? b = some low) (cs : List Char) :
    unescaped ('%' :: a :: b :: cs) = UInt8.ofNat (16 * high + low) :: unescaped cs := by
  rw [unescaped, percentUnits]
  simp only [ha, hb]
  rfl

theorem unescaped_percent (h : ¬HexPair cs) :
    unescaped ('%' :: cs) = String.utf8EncodeChar '%' ++ unescaped cs := by
  match cs with
  | [] | [_] => simp [unescaped, percentUnits, PercentUnit.bytes]
  | a :: b :: cs =>
    rw [unescaped, percentUnits]
    split
    · rename_i ha hb
      exact absurd ⟨Option.isSome_of_eq_some ha, Option.isSome_of_eq_some hb⟩ h
    · rfl

theorem unescaped_char {c : Char} (h : c ≠ '%') (cs : List Char) :
    unescaped (c :: cs) = String.utf8EncodeChar c ++ unescaped cs := by
  rw [unescaped, percentUnits]
  · rfl
  · intro a b rest heq
    exact absurd heq h

/-! Escapes that are written -/

theorem hexValue?_hexDigitUpper : ∀ n < 16, hexValue? (hexDigitUpper n) = some n := by decide

theorem unescaped_percentEscape (c : Char) (cs : List Char) :
    unescaped (percentEscape c ++ cs) = String.utf8EncodeChar c ++ unescaped cs := by
  rw [percentEscape]
  induction String.utf8EncodeChar c with
  | nil => rfl
  | cons b bs ih =>
    have hb := b.toNat_lt
    have hhigh := hexValue?_hexDigitUpper (b.toNat / 16) (by omega)
    have hlow := hexValue?_hexDigitUpper (b.toNat % 16) (by omega)
    have hbyte : UInt8.ofNat (16 * (b.toNat / 16) + b.toNat % 16) = b := by
      rw [Nat.div_add_mod, UInt8.ofNat_toNat]
    simp only [List.flatMap_cons, List.cons_append, List.nil_append]
    rw [unescaped_pair hhigh hlow, hbyte, ih]

theorem percentEncode_cons (keeps : Char → Bool) (c : Char) (cs : List Char) :
    percentEncode keeps (c :: cs) =
      (if keeps c then [c] else percentEscape c) ++ percentEncode keeps cs := rfl

theorem exists_percentEscape (c : Char) : ∃ rest, percentEscape c = '%' :: rest := by
  rw [percentEscape]
  cases hbytes : String.utf8EncodeChar c with
  | nil =>
    have hlength := String.length_utf8EncodeChar c
    rw [hbytes, List.length_nil] at hlength
    exact absurd hlength.symm (Nat.ne_of_gt c.utf8Size_pos)
  | cons b bs => exact ⟨_, rfl⟩

/-- What begins with a digit when it is written begins with it before. -/
theorem of_percentEncode_eq_cons {c : Char} (hc : isHexDigit c = true)
    (h : percentEncode keeps cs = c :: ds) :
    ∃ rest, cs = c :: rest ∧ percentEncode keeps rest = ds := by
  cases cs with
  | nil => cases h
  | cons d rest =>
    rw [percentEncode_cons] at h
    split at h
    · cases h
      exact ⟨rest, rfl, rfl⟩
    · obtain ⟨escape, hescape⟩ := exists_percentEscape d
      rw [hescape] at h
      cases h
      exact absurd hc (by decide)

/-- No escape is put together of what has been written. -/
theorem hexPair_of_percentEncode (h : HexPair (percentEncode keeps cs)) : HexPair cs := by
  match hwritten : percentEncode keeps cs with
  | [] | [_] =>
    rw [hwritten] at h
    exact h.elim
  | a :: b :: ds =>
    rw [hwritten] at h
    obtain ⟨rest, rfl, hrest⟩ := of_percentEncode_eq_cons h.1 hwritten
    obtain ⟨rest, rfl, -⟩ := of_percentEncode_eq_cons h.2 hrest
    exact h

theorem unescaped_percentEncode (hpercent : keeps '%' = true)
    (hhex : ∀ c, isHexDigit c = true → keeps c = true) (cs : List Char) :
    unescaped (percentEncode keeps cs) = unescaped cs := by
  have hother {c : Char} (hc : c ≠ '%') {cs : List Char}
      (ih : unescaped (percentEncode keeps cs) = unescaped cs) :
      unescaped (percentEncode keeps (c :: cs)) = unescaped (c :: cs) := by
    rw [percentEncode_cons, unescaped_char hc]
    split
    · rw [List.singleton_append, unescaped_char hc, ih]
    · rw [unescaped_percentEscape, ih]
  have hplain {cs : List Char} (hpair : ¬HexPair cs)
      (ih : unescaped (percentEncode keeps cs) = unescaped cs) :
      unescaped (percentEncode keeps ('%' :: cs)) = unescaped ('%' :: cs) := by
    rw [percentEncode_cons, if_pos hpercent, List.singleton_append,
      unescaped_percent (mt hexPair_of_percentEncode hpair), unescaped_percent hpair, ih]
  fun_induction percentUnits cs with
  | case1 a b cs high low hb ha ih =>
    rw [percentEncode_cons, percentEncode_cons, percentEncode_cons, if_pos hpercent,
      if_pos (hhex a (Option.isSome_of_eq_some ha)), if_pos (hhex b (Option.isSome_of_eq_some hb))]
    exact (unescaped_pair ha hb _).trans ((congrArg _ ih).trans (unescaped_pair ha hb _).symm)
  | case2 a b cs hnone ih =>
    refine hplain (fun hpair => ?_) ih
    obtain ⟨high, ha⟩ := Option.isSome_iff_exists.mp hpair.1
    obtain ⟨low, hb⟩ := Option.isSome_iff_exists.mp hpair.2
    exact hnone high low ha hb
  | case3 c cs hnext ih =>
    by_cases hc : c = '%'
    · subst hc
      refine hplain (fun hpair => ?_) ih
      rcases cs with _ | ⟨a, _ | ⟨b, rest⟩⟩
      · exact hpair.elim
      · exact hpair.elim
      · exact hnext a b rest rfl rfl
    · exact hother hc ih
  | case4 => rfl

theorem percentDecode?_percentEncode (hpercent : keeps '%' = true)
    (hhex : ∀ c, isHexDigit c = true → keeps c = true) (cs : List Char) :
    percentDecode? (percentEncode keeps cs) = percentDecode? cs := by
  have hbytes : percentBytes (percentEncode keeps cs) = percentBytes cs :=
    congrArg (fun bytes => ByteArray.mk bytes.toArray) (unescaped_percentEncode hpercent hhex cs)
  rw [percentDecode?, hbytes]
  rfl

/-! What is written -/

theorem mem_percentEscape {c d : Char} (h : d ∈ percentEscape c) :
    d = '%' ∨ isHexDigit d = true := by
  obtain ⟨b, -, h⟩ := List.mem_flatMap.mp h
  have hb := b.toNat_lt
  have hhigh := hexValue?_hexDigitUpper (b.toNat / 16) (by omega)
  have hlow := hexValue?_hexDigitUpper (b.toNat % 16) (by omega)
  simp only [List.mem_cons, List.not_mem_nil, or_false] at h
  rcases h with rfl | rfl | rfl
  · exact .inl rfl
  · exact .inr (Option.isSome_of_eq_some hhigh)
  · exact .inr (Option.isSome_of_eq_some hlow)

theorem mem_percentEncode {c : Char} (h : c ∈ percentEncode keeps cs) :
    c ∈ cs ∧ keeps c = true ∨ c = '%' ∨ isHexDigit c = true := by
  obtain ⟨d, hd, h⟩ := List.mem_flatMap.mp h
  split at h
  · rename_i hkeeps
    cases List.mem_singleton.mp h
    exact .inl ⟨hd, hkeeps⟩
  · exact .inr (mem_percentEscape h)

theorem percentEncode_eq_nil : percentEncode keeps cs = [] ↔ cs = [] := by
  cases cs with
  | nil => simp [percentEncode]
  | cons c cs =>
    obtain ⟨rest, hrest⟩ := exists_percentEscape c
    rw [percentEncode_cons]
    split <;> simp [hrest]

end SweepAudit.Text
