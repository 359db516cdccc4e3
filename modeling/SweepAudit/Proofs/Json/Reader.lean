import SweepAudit.Proofs.Json.Leaf

/-!
Values written as JSON and read again. Reading the text of a value yields the tree of that
value, without a break, and stops right behind it. Doubles are left out, since the short
method by which they are read may come to a neighbour.
-/

namespace SweepAudit.Json

open Text

mutual

/-- Values whose numbers are whole and fit 64 bits. -/
def Readable : Json → Prop
  | .null | .bool _ | .string _ => True
  | .number (.whole n) => Wide n
  | .number (.float _) => False
  | .array items => ItemsReadable items
  | .object members => MembersReadable members

def ItemsReadable : List Json → Prop
  | [] => True
  | item :: items => Readable item ∧ ItemsReadable items

def MembersReadable : List (String × Json) → Prop
  | [] => True
  | (_, value) :: members => Readable value ∧ MembersReadable members

end

theorem itemChars_cons (item : Json) {items : List Json} (h : items ≠ []) :
    itemChars (item :: items) = chars item ++ ',' :: itemChars items := by
  rw [itemChars]
  exact h

theorem memberChars_cons (key : String) (value : Json) {members : List (String × Json)}
    (h : members ≠ []) :
    memberChars ((key, value) :: members) =
      stringChars key ++ ':' :: (chars value ++ ',' :: memberChars members) := by
  rw [memberChars]
  exact h

theorem toList_whole (n : Int) :
    (Number.text (.whole n)).toList =
      if n < 0 then '-' :: Nat.toDigits 10 n.natAbs else Nat.toDigits 10 n.natAbs := by
  cases n with
  | ofNat n =>
    have hsign : ¬Int.ofNat n < 0 := Int.not_lt.mpr (Int.natCast_nonneg n)
    rw [if_neg hsign]
    exact Nat.toList_repr
  | negSucc n =>
    rw [if_pos (Int.negSucc_lt_zero n)]
    change ("-" ++ Nat.repr (n + 1)).toList = _
    rw [String.toList_append, Nat.toList_repr]
    rfl

theorem isSpace_of_isDigit {c : Char} (h : c.isDigit) : isSpace c = false := by
  simp only [isSpace, Bool.or_eq_false_iff, beq_eq_false_iff_ne]
  refine ⟨⟨⟨?_, ?_⟩, ?_⟩, ?_⟩ <;> rintro rfl <;> simp at h

/-- A value begins with something else than a blank or the end of a container. -/
theorem chars_eq_cons (j : Json) (h : Readable j) :
    ∃ c cs, chars j = c :: cs ∧ isSpace c = false ∧ c ≠ ']' := by
  cases j with
  | null => exact ⟨'n', ['u', 'l', 'l'], by decide, by decide, by decide⟩
  | bool b =>
    cases b with
    | true => exact ⟨'t', ['r', 'u', 'e'], by decide, by decide, by decide⟩
    | false => exact ⟨'f', ['a', 'l', 's', 'e'], by decide, by decide, by decide⟩
  | number n =>
    cases n with
    | whole n =>
      rw [chars, toList_whole]
      split
      · exact ⟨'-', _, rfl, by decide, by decide⟩
      · cases hdigits : Nat.toDigits 10 n.natAbs with
        | nil => exact absurd hdigits Nat.toDigits_ne_nil
        | cons c cs =>
          have hc : c.isDigit := isDigit_toDigits c (hdigits ▸ List.mem_cons_self)
          refine ⟨c, cs, rfl, isSpace_of_isDigit hc, ?_⟩
          rintro rfl
          simp at hc
    | float x => exact h.elim
  | string s => exact ⟨'"', _, rfl, by decide, by decide⟩
  | array items => exact ⟨'[', _, rfl, by decide, by decide⟩
  | object members => exact ⟨'\x7b', _, rfl, by decide, by decide⟩

theorem skipSpaces_cons {c : Char} {cs : List Char} (h : isSpace c = false) :
    skipSpaces (c :: cs) = c :: cs :=
  List.dropWhile_cons_of_neg (by simp [h])

/-- A digit begins a number. -/
theorem readValue_digit {c : Char} (h : c.isDigit) (fuel : Nat) (cs : List Char) :
    readValue (fuel + 1) (c :: cs) = readNumber false (c :: cs) := by
  rw [readValue, skipSpaces_cons (isSpace_of_isDigit h)]
  split
  case h_9 =>
    rename_i heq
    obtain ⟨rfl, rfl⟩ := List.cons.inj heq
    rw [if_pos (isDigit_of_isDigit h)]
  all_goals
    rename_i heq
    cases heq <;> simp at h

theorem readValue_digits {n fuel : Nat} {rest : List Char} (hn : n < twoTo 64) (h : Ends rest) :
    readValue (fuel + 1) (Nat.toDigits 10 n ++ rest) =
      ⟨.number (some (.whole n)), some rest⟩ := by
  have hnumber : readNumber false (Nat.toDigits 10 n ++ rest) =
      ⟨.number (some (.whole n)), some rest⟩ := by
    rw [readNumber, readNumeral_toDigits false n h]
    simp only [value_toDigits hn]
  obtain ⟨c, cs, hdigits, hc⟩ := exists_head_toDigits n
  rw [← hnumber, hdigits]
  exact readValue_digit hc fuel (cs ++ rest)

theorem readValue_whole {n : Int} {fuel : Nat} {rest : List Char} (hn : Wide n) (h : Ends rest) :
    readValue (fuel + 1) ((Number.text (.whole n)).toList ++ rest) =
      ⟨.number (some (.whole n)), some rest⟩ := by
  rw [toList_whole]
  split
  · have hvalue : Numeral.value ⟨true, Nat.toDigits 10 n.natAbs, [], 0, true⟩ =
        some (.whole (-n.natAbs)) := value_neg_toDigits (by omega) (by have := hn.1; omega)
    have hneg : (-(n.natAbs : Int)) = n := by omega
    rw [List.cons_append, readValue, skipSpaces_cons (by decide)]
    simp only [readNumber, readNumeral_toDigits true n.natAbs h, hvalue, hneg]
  · have hnat : (n.natAbs : Int) = n := by omega
    rw [readValue_digits (by have := hn.2; omega) h, hnat]

theorem readValue_items (fuel : Nat) {c : Char} (cs : List Char) (hspace : isSpace c = false)
    (hc : c ≠ ']') :
    readValue (fuel + 1) ('[' :: c :: cs) =
      ⟨.array (readItems fuel (c :: cs)).1 (readItems fuel (c :: cs)).2.1,
        (readItems fuel (c :: cs)).2.2⟩ := by
  rw [readValue, skipSpaces_cons (by decide)]
  simp only [skipSpaces_cons hspace]
  split
  · rename_i heq
    cases heq
  · rename_i heq
    exact absurd (List.cons.inj heq).1 hc
  · rfl

theorem readValue_members (fuel : Nat) (cs : List Char) :
    readValue (fuel + 1) ('\x7b' :: '"' :: cs) =
      ⟨.object (readMembers fuel ('"' :: cs)).1 (readMembers fuel ('"' :: cs)).2.1,
        (readMembers fuel ('"' :: cs)).2.2⟩ := rfl

theorem itemChars_eq_cons (item : Json) (items : List Json) (h : Readable item) :
    ∃ c cs, itemChars (item :: items) = c :: cs ∧ isSpace c = false ∧ c ≠ ']' := by
  obtain ⟨c, cs, hcons, hspace, hc⟩ := chars_eq_cons item h
  cases items with
  | nil => exact ⟨c, cs, hcons, hspace, hc⟩
  | cons next items =>
    rw [itemChars_cons item (List.cons_ne_nil _ _), hcons]
    exact ⟨c, _, rfl, hspace, hc⟩

theorem memberChars_eq_cons (key : String) (value : Json) (members : List (String × Json)) :
    ∃ cs, memberChars ((key, value) :: members) = '"' :: cs := by
  cases members with
  | nil => exact ⟨_, rfl⟩
  | cons next members =>
    rw [memberChars_cons key value (List.cons_ne_nil _ _)]
    exact ⟨_, rfl⟩

/-- Behind a comma the container goes on with what stands there. -/
theorem readContinuation_comma (close : Char) {c : Char} (cs : List Char)
    (h : isSpace c = false) :
    readContinuation close (',' :: c :: cs) = .another (c :: cs) := by
  rw [readContinuation, skipSpaces_cons (by decide)]
  simp only [beq_self_eq_true, if_true, skipSpaces_cons h]

theorem length_toList_le (s : String) :
    s.toList.length + 2 ≤ (stringChars s).length := by
  have hescape (c : Char) : 1 ≤ (escapeChar c).length := by
    unfold escapeChar
    split <;> simp
    split <;> simp
  have hchars : ∀ cs : List Char, cs.length ≤ (cs.flatMap escapeChar).length := by
    intro cs
    induction cs with
    | nil => exact Nat.le_refl _
    | cons c cs ih =>
      have := hescape c
      simp only [List.flatMap_cons, List.length_append, List.length_cons]
      omega
  have := hchars s.toList
  simp only [stringChars, List.length_cons, List.length_append, List.length_nil]
  omega

/-- A string behind its opening quote. -/
theorem readString_string (s : String) (fuel : Nat) (h : (stringChars s).length ≤ fuel)
    (rest : List Char) :
    readString fuel (s.toList.flatMap escapeChar ++ '"' :: rest) =
      .closed (some s.toList) rest :=
  readString_stringChars (by have := length_toList_le s; omega) rest

mutual

/-- The value at the front of a text is read as it was written, with fuel for twice its length. -/
theorem readValue_chars (j : Json) (hj : Readable j) (fuel : Nat) (rest : List Char)
    (hfuel : 2 * (chars j).length ≤ fuel) (h : Ends rest) :
    readValue fuel (chars j ++ rest) = ⟨node j, some rest⟩ := by
  obtain ⟨fuel, rfl⟩ : ∃ n, fuel = n + 1 := by
    obtain ⟨c, cs, hcons, -⟩ := chars_eq_cons j hj
    rw [hcons, List.length_cons] at hfuel
    exact Nat.exists_eq_add_one_of_ne_zero (by omega)
  match j with
  | .null | .bool true | .bool false | .array [] | .object [] => rfl
  | .number (.whole n) => exact readValue_whole hj h
  | .string s =>
    have hstring := readString_string s fuel
      (by have := length_toList_le s; simp only [chars] at hfuel; omega) rest
    have hchars : chars (.string s) ++ rest =
        '"' :: (s.toList.flatMap escapeChar ++ '"' :: rest) := by
      simp [chars, stringChars]
    rw [hchars, readValue, skipSpaces_cons (by decide)]
    simp only [hstring, Option.map_some, String.ofList_toList, node]
  | .array (item :: items) =>
    simp only [chars, List.length_cons, List.length_append, List.length_nil] at hfuel
    have hitems := readItems_chars (item :: items) (List.cons_ne_nil _ _) hj fuel rest
      (by omega)
    obtain ⟨c, tail, htail, hspace, hc⟩ := itemChars_eq_cons item items hj.1
    have hchars : chars (.array (item :: items)) ++ rest = '[' :: c :: (tail ++ ']' :: rest) := by
      simp [chars, htail]
    rw [htail, List.cons_append] at hitems
    rw [hchars, readValue_items fuel _ hspace hc, hitems]
    rfl
  | .object ((key, value) :: members) =>
    simp only [chars, List.length_cons, List.length_append, List.length_nil] at hfuel
    have hmembers := readMembers_chars ((key, value) :: members) (List.cons_ne_nil _ _) hj
      fuel rest (by omega)
    obtain ⟨tail, htail⟩ := memberChars_eq_cons key value members
    have hchars : chars (.object ((key, value) :: members)) ++ rest =
        '\x7b' :: '"' :: (tail ++ '\x7d' :: rest) := by
      simp [chars, htail]
    rw [htail, List.cons_append] at hmembers
    rw [hchars, readValue_members, hmembers]
    rfl

theorem readItems_chars (items : List Json) (hne : items ≠ []) (hitems : ItemsReadable items)
    (fuel : Nat) (rest : List Char) (hfuel : 2 * (itemChars items).length + 1 ≤ fuel) :
    readItems fuel (itemChars items ++ ']' :: rest) = (itemNodes items, none, some rest) := by
  obtain ⟨fuel, rfl⟩ : ∃ n, fuel = n + 1 := Nat.exists_eq_add_one_of_ne_zero (by omega)
  match items with
  | [item] =>
    have hitem := readValue_chars item hitems.1 fuel (']' :: rest)
      (by simp only [itemChars] at hfuel; omega) (.inr (.inl rfl))
    rw [itemChars, readItems, hitem]
    rfl
  | item :: next :: items =>
    have hcons := itemChars_cons item (List.cons_ne_nil next items)
    rw [hcons] at hfuel ⊢
    simp only [List.length_append, List.length_cons] at hfuel
    have hitem := readValue_chars item hitems.1 fuel
      (',' :: (itemChars (next :: items) ++ ']' :: rest)) (by omega) (.inl rfl)
    have hrest := readItems_chars (next :: items) (List.cons_ne_nil _ _) hitems.2 fuel
      rest (by omega)
    have hcontinue : readContinuation ']' (',' :: (itemChars (next :: items) ++ ']' :: rest)) =
        .another (itemChars (next :: items) ++ ']' :: rest) := by
      obtain ⟨c, tail, htail, hspace, -⟩ := itemChars_eq_cons next items hitems.2.1
      rw [htail]
      exact readContinuation_comma ']' _ hspace
    rw [List.append_assoc, List.cons_append, readItems, hitem]
    simp only [hcontinue, hrest]
    rfl

theorem readMembers_chars (members : List (String × Json)) (hne : members ≠ [])
    (hmembers : MembersReadable members) (fuel : Nat) (rest : List Char)
    (hfuel : 2 * (memberChars members).length + 1 ≤ fuel) :
    readMembers fuel (memberChars members ++ '\x7d' :: rest) =
      (memberNodes members, none, some rest) := by
  obtain ⟨fuel, rfl⟩ : ∃ n, fuel = n + 1 := Nat.exists_eq_add_one_of_ne_zero (by omega)
  match members with
  | [(key, value)] =>
    simp only [memberChars, List.length_append, List.length_cons] at hfuel
    have hkey := readString_string key fuel (by omega)
      (':' :: (chars value ++ '\x7d' :: rest))
    have hvalue := readValue_chars value hmembers.1 fuel ('\x7d' :: rest)
      (by omega) (.inr (.inr rfl))
    have hchars : memberChars [(key, value)] ++ '\x7d' :: rest =
        '"' :: (key.toList.flatMap escapeChar ++
          '"' :: ':' :: (chars value ++ '\x7d' :: rest)) := by
      simp [memberChars, stringChars]
    rw [hchars, readMembers]
    simp only [hkey, skipSpaces_cons (c := ':') (by decide), hvalue, Option.map_some,
      String.ofList_toList]
    rfl
  | (key, value) :: next :: members =>
    have hcons := memberChars_cons key value (List.cons_ne_nil next members)
    rw [hcons] at hfuel
    simp only [List.length_append, List.length_cons] at hfuel
    have hkey := readString_string key fuel (by omega)
      (':' :: (chars value ++ ',' :: (memberChars (next :: members) ++ '\x7d' :: rest)))
    have hvalue := readValue_chars value hmembers.1 fuel
      (',' :: (memberChars (next :: members) ++ '\x7d' :: rest)) (by omega) (.inl rfl)
    have hrest := readMembers_chars (next :: members) (List.cons_ne_nil _ _) hmembers.2
      fuel rest (by omega)
    have hcontinue :
        readContinuation '\x7d' (',' :: (memberChars (next :: members) ++ '\x7d' :: rest)) =
        .another (memberChars (next :: members) ++ '\x7d' :: rest) := by
      obtain ⟨tail, htail⟩ := memberChars_eq_cons next.1 next.2 members
      rw [htail]
      exact readContinuation_comma '\x7d' _ (by decide)
    have hchars : memberChars ((key, value) :: next :: members) ++ '\x7d' :: rest =
        '"' :: (key.toList.flatMap escapeChar ++ '"' :: ':' ::
          (chars value ++ ',' :: (memberChars (next :: members) ++ '\x7d' :: rest))) := by
      simp [hcons, stringChars]
    rw [hchars, readMembers]
    simp only [hkey, skipSpaces_cons (c := ':') (by decide), hvalue, hcontinue, hrest,
      Option.map_some, String.ofList_toList]
    rfl

end

/-- The text of a value holds that value and nothing else. -/
theorem readDocument_text {j : Json} (h : Readable j) : readDocument j.text = ⟨node j, true⟩ := by
  have hread := readValue_chars j h (2 * j.chars.length + 2) [] (by omega) trivial
  rw [List.append_nil] at hread
  rw [readDocument, text, String.toList_ofList, readFirst, hread]
  rfl

end SweepAudit.Json
