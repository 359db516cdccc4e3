import SweepAudit.Text.Blank
import SweepAudit.Text.Split

/-!
Cutting and trimming texts in which the places to cut are known.
-/

namespace SweepAudit.Text

variable {isSeparator : Char → Bool} {part rest : List Char} {c : Char}

theorem cutBy_eq_none (h : ∀ d ∈ part, isSeparator d = false) :
    cutBy isSeparator part = (part, none) := by
  induction part with
  | nil => rfl
  | cons d ds ih =>
    obtain ⟨hd, hds⟩ := List.forall_mem_cons.mp h
    simp [cutBy, hd, ih hds]

theorem cutBy_append (h : ∀ d ∈ part, isSeparator d = false) (hc : isSeparator c = true) :
    cutBy isSeparator (part ++ c :: rest) = (part, some rest) := by
  induction part with
  | nil => simp [cutBy, hc]
  | cons d ds ih =>
    obtain ⟨hd, hds⟩ := List.forall_mem_cons.mp h
    simp [cutBy, hd, ih hds]

theorem fst_cutBy_cons (isSeparator : Char → Bool) (c : Char) (cs : List Char) :
    (cutBy isSeparator (c :: cs)).1 =
      if isSeparator c then [] else c :: (cutBy isSeparator cs).1 := by
  rw [cutBy]
  split <;> rfl

theorem not_separator_of_mem_cutBy {cs : List Char} (h : c ∈ (cutBy isSeparator cs).1) :
    isSeparator c = false := by
  induction cs with
  | nil => exact absurd h List.not_mem_nil
  | cons d cs ih =>
    rw [fst_cutBy_cons] at h
    split at h
    · exact absurd h List.not_mem_nil
    · rename_i hd
      rcases List.mem_cons.mp h with rfl | h
      · exact Bool.eq_false_iff.mpr hd
      · exact ih h

theorem fst_cutBy_append (h : ∀ d ∈ part, isSeparator d = false) (rest : List Char) :
    (cutBy isSeparator (part ++ rest)).1 = part ++ (cutBy isSeparator rest).1 := by
  induction part with
  | nil => rfl
  | cons d ds ih =>
    obtain ⟨hd, hds⟩ := List.forall_mem_cons.mp h
    rw [List.cons_append, fst_cutBy_cons, hd, if_neg Bool.false_ne_true, ih hds, List.cons_append]

theorem splitBy_ne_nil (isSeparator : Char → Bool) (cs : List Char) :
    splitBy isSeparator cs ≠ [] := by
  cases cs with
  | nil => exact List.cons_ne_nil _ _
  | cons c cs =>
    rw [splitBy]
    split
    · exact List.cons_ne_nil _ _
    · split <;> exact List.cons_ne_nil _ _

/-- No separator is in a part. -/
theorem not_separator_of_mem_splitBy {cs : List Char} (h : part ∈ splitBy isSeparator cs) :
    ∀ d ∈ part, isSeparator d = false := by
  induction cs generalizing part with
  | nil =>
    cases List.mem_singleton.mp h
    exact fun _ hd => absurd hd List.not_mem_nil
  | cons d cs ih =>
    rw [splitBy] at h
    split at h
    · rcases List.mem_cons.mp h with rfl | h
      · exact fun _ hd => absurd hd List.not_mem_nil
      · exact ih h
    · rename_i hd
      have hd : isSeparator d = false := Bool.eq_false_iff.mpr hd
      split at h
      · cases List.mem_singleton.mp h
        exact List.forall_mem_singleton.mpr hd
      · rename_i first parts hsplit
        rcases List.mem_cons.mp h with rfl | h
        · exact List.forall_mem_cons.mpr ⟨hd, ih (hsplit ▸ List.mem_cons_self)⟩
        · exact ih (hsplit ▸ List.mem_cons_of_mem _ h)

theorem splitBy_eq_singleton (h : ∀ d ∈ part, isSeparator d = false) :
    splitBy isSeparator part = [part] := by
  induction part with
  | nil => rfl
  | cons d ds ih =>
    obtain ⟨hd, hds⟩ := List.forall_mem_cons.mp h
    simp [splitBy, hd, ih hds]

theorem splitBy_append (h : ∀ d ∈ part, isSeparator d = false) (hc : isSeparator c = true) :
    splitBy isSeparator (part ++ c :: rest) = part :: splitBy isSeparator rest := by
  induction part with
  | nil => simp [splitBy, hc]
  | cons d ds ih =>
    obtain ⟨hd, hds⟩ := List.forall_mem_cons.mp h
    simp [splitBy, hd, ih hds]

theorem dropWhile_of_head {inClass : Char → Bool} (h : ∀ d ∈ part.head?, inClass d = false) :
    part.dropWhile inClass = part := by
  cases part with
  | nil => rfl
  | cons d ds => rw [List.dropWhile_cons_of_neg (by simp [h d rfl])]

/-- A text whose ends are not in the class is left as it is. -/
theorem trimBy_of_ends {inClass : Char → Bool} (hhead : ∀ d ∈ part.head?, inClass d = false)
    (hlast : ∀ d ∈ part.getLast?, inClass d = false) : trimBy inClass part = part := by
  rw [← List.head?_reverse] at hlast
  rw [trimBy, dropWhile_of_head hhead, dropWhile_of_head hlast, List.reverse_reverse]

theorem trimBy_eq_self {inClass : Char → Bool} (h : ∀ d ∈ part, inClass d = false) :
    trimBy inClass part = part :=
  trimBy_of_ends (fun d hd => h d (List.mem_of_mem_head? hd))
    fun d hd => h d (List.mem_of_mem_getLast? hd)

/-- What is not in the class stays when the ends are trimmed. -/
theorem mem_trimBy {inClass : Char → Bool} (h : c ∈ part) (hc : inClass c = false) :
    c ∈ trimBy inClass part := by
  have hdrop {cs : List Char} (h : c ∈ cs) : c ∈ cs.dropWhile inClass := by
    induction cs with
    | nil => exact absurd h List.not_mem_nil
    | cons d ds ih =>
      rw [List.dropWhile_cons]
      split
      · rename_i hd
        rcases List.mem_cons.mp h with rfl | h
        · rw [hc] at hd
          cases hd
        · exact ih h
      · exact h
  exact List.mem_reverse.mpr (hdrop (List.mem_reverse.mpr (hdrop h)))

/-- What is cut off at the end is all of the class. -/
theorem exists_trimEnd (inClass : Char → Bool) (cs : List Char) :
    ∃ behind, cs = (cs.reverse.dropWhile inClass).reverse ++ behind ∧
      ∀ c ∈ behind, inClass c = true := by
  refine ⟨(cs.reverse.takeWhile inClass).reverse, ?_, ?_⟩
  · rw [← List.reverse_append, List.takeWhile_append_dropWhile, List.reverse_reverse]
  · intro c hc
    exact List.all_eq_true.mp List.all_takeWhile c (List.mem_reverse.mp hc)

theorem exists_trimBy (inClass : Char → Bool) (cs : List Char) :
    ∃ before behind, cs = before ++ trimBy inClass cs ++ behind ∧
      (∀ c ∈ before, inClass c = true) ∧ ∀ c ∈ behind, inClass c = true := by
  obtain ⟨behind, hcs, hbehind⟩ := exists_trimEnd inClass (cs.dropWhile inClass)
  refine ⟨cs.takeWhile inClass, behind, ?_, ?_, hbehind⟩
  · rw [trimBy, List.append_assoc, ← hcs, List.takeWhile_append_dropWhile]
  · exact fun c hc => List.all_eq_true.mp List.all_takeWhile c hc

theorem hasWord_iff {word cs : List Char} : hasWord word cs = true ↔ word <:+: cs := by
  induction cs with
  | nil => simp [hasWord]
  | cons c cs ih => simp [hasWord, ih, List.infix_cons_iff]

end SweepAudit.Text
