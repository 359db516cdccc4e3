import SweepAudit.Proofs.Http.Target
import SweepAudit.Proofs.Text.Escape

/-!
A parameter at the end of a path, and what becomes of it on its way. Some characters are
dropped from an address, others end the path or part it, and what an address cannot hold is
written as escapes. What arrives is a part of the parameter, read behind its escapes; so it is
the parameter itself exactly if nothing of it is taken away.
-/

namespace SweepAudit.Http

open Text String

variable {port : Port} {before : List (List Char)} {param query : List Char}

/-! What an address makes of a parameter -/

/-- How far a parameter reaches: up to what begins a query or a fragment. -/
def reached (param : List Char) : List Char :=
  (cutBy (· == '?') (cutBy (· == '#') param).1).1

theorem reached_behind (param query : List Char) :
    reached (param ++ '?' :: query) = reached param := by
  induction param with
  | nil => rfl
  | cons c cs ih =>
    rw [reached, reached, List.cons_append, fst_cutBy_cons, fst_cutBy_cons]
    split
    · rfl
    · rw [fst_cutBy_cons, fst_cutBy_cons]
      split
      · rfl
      · exact congrArg (c :: ·) ih

theorem path_ofChars (cs : List Char) : (Url.Parts.ofChars .http cs).path = reached cs := rfl

theorem reached_append {front : List Char} (h : ∀ c ∈ front, c ≠ '?' ∧ c ≠ '#')
    (rest : List Char) : reached (front ++ rest) = front ++ reached rest := by
  rw [reached, fst_cutBy_append fun c hc => beq_eq_false_iff_ne.mpr (h c hc).2,
    fst_cutBy_append fun c hc => beq_eq_false_iff_ne.mpr (h c hc).1]
  rfl

theorem reached_sublist (param : List Char) : (reached param).Sublist param :=
  (cutBy_isPrefix _ _).sublist.trans (cutBy_isPrefix _ _).sublist

theorem written_eq (path : List (List Char)) (segment : List Char) :
    Url.written false path segment = [percentEncode Url.pathKeeps segment] := by
  rw [Url.written]
  all_goals simp

theorem not_mark_of_mem_reached {c : Char} (h : c ∈ reached param) : c ≠ '?' ∧ c ≠ '#' := by
  have hquery := not_separator_of_mem_cutBy h
  have hfragment := not_separator_of_mem_cutBy ((cutBy_isPrefix _ _).subset h)
  exact ⟨beq_eq_false_iff_ne.mp hquery, beq_eq_false_iff_ne.mp hfragment⟩

/-- The last segment comes from the end of what is resolved. A dot segment there leaves none. -/
theorem getLast?_resolve (path : List (List Char)) {segments : List (List Char)}
    {last : List Char} (hlast : segments.getLast? = some last) :
    (Url.resolve false path segments).getLast? =
      some (if Url.isDotDot last || Url.isDot last then [] else
        percentEncode Url.pathKeeps last) := by
  induction segments generalizing path with
  | nil => cases hlast
  | cons segment segments ih =>
    cases segments with
    | nil =>
      obtain rfl : segment = last := by simpa using hlast
      cases hdotdot : Url.isDotDot segment <;> cases hdot : Url.isDot segment <;>
        simp [Url.resolve, hdotdot, hdot, written_eq]
    | cons next segments =>
      rw [List.getLast?_cons_cons] at hlast
      rw [Url.resolve]
      · split
        · exact ih _ hlast
        · split <;> exact ih _ hlast
      · exact List.cons_ne_nil _ _

theorem mem_parent {path : List (List Char)} {segment : List Char} (h : segment ∈ Url.parent path) :
    segment ∈ path := by
  rw [Url.parent] at h
  split at h
  · split at h
    · exact h
    · exact List.dropLast_subset _ h
  · exact h

theorem mem_resolve {path segments : List (List Char)} {segment : List Char}
    (h : segment ∈ Url.resolve false path segments) :
    segment ∈ path ∨ segment = [] ∨
      ∃ part ∈ segments, segment = percentEncode Url.pathKeeps part := by
  induction segments generalizing path with
  | nil => exact .inl h
  | cons first segments ih =>
    have hfirst {path : List (List Char)} (h : segment ∈ path ++ Url.written false path first) :
        segment ∈ path ∨ ∃ part ∈ first :: segments,
          segment = percentEncode Url.pathKeeps part := by
      rw [written_eq] at h
      rcases List.mem_append.mp h with h | h
      · exact .inl h
      · exact .inr ⟨first, List.mem_cons_self, List.mem_singleton.mp h⟩
    have hrest {path : List (List Char)} (h : segment ∈ Url.resolve false path segments) :
        segment ∈ path ∨ segment = [] ∨
          ∃ part ∈ first :: segments, segment = percentEncode Url.pathKeeps part :=
      (ih h).imp_right (Or.imp_right fun ⟨part, hpart, heq⟩ =>
        ⟨part, List.mem_cons_of_mem _ hpart, heq⟩)
    cases segments with
    | nil =>
      rw [Url.resolve] at h
      split at h
      · rcases List.mem_append.mp h with h | h
        · exact .inl (mem_parent h)
        · exact .inr (.inl (List.mem_singleton.mp h))
      · split at h
        · rcases List.mem_append.mp h with h | h
          · exact .inl h
          · exact .inr (.inl (List.mem_singleton.mp h))
        · exact (hfirst h).imp_right .inr
    | cons next segments =>
      rw [Url.resolve] at h
      · split at h
        · exact (hrest h).imp_left mem_parent
        · split at h
          · exact hrest h
          · rcases hrest h with h | h
            · exact (hfirst h).imp_right .inr
            · exact .inr h
      · exact List.cons_ne_nil _ _

/-! The address of a parameter -/

/-- What of a parameter is left in the path of an address. -/
def left (param : List Char) : List Char := reached (param.filter fun c => !isDropped c)

theorem left_sublist (param : List Char) : (left param).Sublist param :=
  (reached_sublist _).trans List.filter_sublist

theorem pathAndQuery_concat (before : List (List Char)) (param query : List Char) :
    pathAndQuery (before ++ [param]) (some query) =
      (before.flatMap ('/' :: ·) ++ ['/']) ++ (param ++ '?' :: query) := by
  simp [pathAndQuery, Url.marked]

/-- Before the parameter there is nothing that could end or part the path. -/
theorem not_mark_of_mem_front (hbefore : ∀ segment ∈ before, Quiet segment) :
    ∀ c ∈ before.flatMap ('/' :: ·) ++ ['/'], (c ≠ '?' ∧ c ≠ '#') ∧ isDropped c = false := by
  intro c hc
  rcases List.mem_append.mp hc with hc | hc
  · obtain ⟨segment, hs, hc⟩ := List.mem_flatMap.mp hc
    rcases List.mem_cons.mp hc with rfl | hc
    · decide
    · have hquiet := (hbefore segment hs).2 c hc
      refine ⟨((hbefore segment hs).unbroken c hc).2, ?_⟩
      exact (Bool.not_eq_true' _).mp (forall_isQuiet (fun c => !isDropped c) (by decide +kernel)
        hquiet)
  · cases List.mem_singleton.mp hc
    decide

theorem filter_pathAndQuery (hbefore : ∀ segment ∈ before, Quiet segment)
    (hquery : ∀ c ∈ query, isQuiet c = true) (param : List Char) :
    (pathAndQuery (before ++ [param]) (some query)).filter (fun c => !isDropped c) =
      pathAndQuery (before ++ [param.filter fun c => !isDropped c]) (some query) := by
  have hfront : (before.flatMap ('/' :: ·) ++ ['/']).filter (fun c => !isDropped c) =
      before.flatMap ('/' :: ·) ++ ['/'] :=
    List.filter_eq_self.mpr fun c hc => by simp [(not_mark_of_mem_front hbefore c hc).2]
  have hbehind : ('?' :: query).filter (fun c => !isDropped c) = '?' :: query := by
    rw [List.filter_eq_self]
    intro c hc
    rcases List.mem_cons.mp hc with rfl | hc
    · decide
    · exact forall_isQuiet (fun c => !isDropped c) (by decide +kernel) (hquery c hc)
  rw [pathAndQuery_concat, pathAndQuery_concat, List.filter_append, hfront, List.filter_append,
    hbehind]

section Address

variable (hbefore : ∀ segment ∈ before, Quiet segment) (hne : query ≠ [])
  (hquery : ∀ c ∈ query, isQuiet c = true) {text : String}
  (htext : text.toList = (Hosted.base port).toList ++
    pathAndQuery (before ++ [param]) (some query))

include hbefore hne hquery htext

theorem parse_concat : Url.parse text = .ok (below port
    (pathAndQuery (before ++ [param.filter fun c => !isDropped c]) (some query))) := by
  have hend : (pathAndQuery (before ++ [param]) (some query)).getLast? = query.getLast? := by
    obtain ⟨last, hlast⟩ := Option.isSome_iff_exists.mp (List.getLast?_isSome.mpr hne)
    simp [pathAndQuery_concat, List.getLast?_append, List.getLast?_cons, hlast]
  obtain ⟨inside, hinside⟩ := pathAndQuery_eq_cons
    (List.append_ne_nil_of_right_ne_nil before (List.cons_ne_nil param [])) (some query)
  rw [hinside] at htext hend
  rw [← filter_pathAndQuery hbefore hquery, hinside]
  refine parse_below htext fun c hc => ?_
  rw [hend] at hc
  exact of_decide_eq_true (forall_isQuiet (fun c => ' ' < c) (by decide +kernel)
    (hquery c (List.mem_of_mem_getLast? hc)))

theorem parse_parameter : ∃ url : Url, Url.parse text = .ok url ∧ url.IsLocal ∧
    url.path = .parts (Url.resolve false before (splitBy (Url.isSlash .http) (left param))) ∧
    ∀ q ∈ url.query, ∀ c ∈ q, c ≠ '#' := by
  have hpath : reached (pathAndQuery (before ++ [param.filter fun c => !isDropped c])
      (some query)) = (before ++ [left param]).flatMap ('/' :: ·) := by
    rw [pathAndQuery_concat,
      reached_append fun c hc => (not_mark_of_mem_front hbefore c hc).1, reached_behind]
    simp [left]
  refine ⟨_, parse_concat hbefore hne hquery htext, ⟨rfl, _, rfl⟩, ?_, ?_⟩
  · rw [below, path_ofChars, hpath]
    exact pathBehind_segments hbefore (left param)
  · intro q hq c hc
    obtain ⟨written, -, rfl⟩ := Option.map_eq_some_iff.mp hq
    rcases mem_percentEncode hc with ⟨-, hc⟩ | rfl | hc
    · rintro rfl
      exact absurd hc (by decide)
    · decide
    · rintro rfl
      exact absurd hc (by decide)

end Address

/-! Arriving -/

/-- Something that an address drops, or that ends or parts a path. -/
def isMark (c : Char) : Bool := isDropped c || c == '?' || c == '#' || Url.isSlash .http c

/-- A parameter that arrives as it is. -/
structure Arrives (param : List Char) : Prop where
  unmarked : ∀ c ∈ param, isMark c = false
  /-- There are no escapes in it. -/
  plain : percentDecode? param = some param
  ne_nil : param ≠ []
  not_dotdot : Url.isDotDot param = false
  not_dot : Url.isDot param = false

theorem isQuiet_of_isHexDigit {c : Char} (h : isHexDigit c = true) : isQuiet c = true := by
  have hlt : c.toNat < 128 := by
    rw [isHexDigit, hexValue?] at h
    split at h
    · rename_i hrange
      exact Nat.lt_of_le_of_lt hrange.2 (by decide)
    · split at h
      · rename_i hrange
        exact Nat.lt_of_le_of_lt hrange.2 (by decide)
      · split at h
        · rename_i hrange
          exact Nat.lt_of_le_of_lt hrange.2 (by decide)
        · cases h
  have hall : ∀ n < 128, (!isHexDigit (Char.ofNat n) || isQuiet (Char.ofNat n)) = true := by
    decide +kernel
  have hc := hall c.toNat hlt
  rw [Char.ofNat_toNat, h] at hc
  simpa using hc

theorem pathKeeps_of_isHexDigit {c : Char} (h : isHexDigit c = true) : Url.pathKeeps c = true :=
  forall_isQuiet Url.pathKeeps (by decide +kernel) (isQuiet_of_isHexDigit h)

theorem unbroken_percentEncode {segment : List Char} (h : ∀ c ∈ segment, c ≠ '/') :
    Unbroken (percentEncode Url.pathKeeps segment) := by
  intro c hc
  rcases mem_percentEncode hc with ⟨hc, hkeeps⟩ | rfl | hc
  · refine ⟨h c hc, ?_, ?_⟩ <;>
    · rintro rfl
      exact absurd hkeeps (by decide)
  · decide
  · refine ⟨?_, ?_, ?_⟩ <;>
    · rintro rfl
      exact absurd hc (by decide)

theorem segments_target {url : Url} {segments : List (List Char)}
    (hpath : url.path = .parts segments) (hne : segments ≠ [])
    (h : ∀ segment ∈ segments, Unbroken segment) (hquery : ∀ q ∈ url.query, ∀ c ∈ q, c ≠ '#') :
    (Target.ofText url.target).segments = [] :: segments := by
  have htarget : url.target = String.ofList (pathAndQuery segments url.query) := by
    rw [Url.target, hpath]
    rfl
  rw [htarget, ofText_pathAndQuery hne h hquery]
  exact segments_path hne h _

section Arriving

variable (hbefore : ∀ segment ∈ before, Quiet segment) (hne : query ≠ [])
  (hquery : ∀ c ∈ query, isQuiet c = true) {text : String}
  (htext : text.toList = (Hosted.base port).toList ++
    pathAndQuery (before ++ [param]) (some query))

include hbefore hne hquery htext

/-- What is found at the end of a path and read as the parameter has lost nothing of it. -/
theorem arrives_of_found {url asked : Url} (hparse : Url.parse text = .ok url)
    (hasked : url.asked = .ok asked) {segment : List Char}
    (hfound : (Target.ofText asked.target).segments.getLast? = some segment)
    (hsegment : segment ≠ []) (hread : percentDecode? segment = some param) : Arrives param := by
  obtain ⟨url', hparse', hlocal, hpath, hmark⟩ := parse_parameter hbefore hne hquery htext
  obtain rfl : url' = url := Except.ok.inj (hparse'.symm.trans hparse)
  obtain rfl : url' = asked := by
    rw [hlocal.asked] at hasked
    split at hasked
    · exact Except.ok.inj hasked
    · cases hasked
  have hparts := splitBy_ne_nil (Url.isSlash .http) (left param)
  obtain ⟨last, hlast⟩ := Option.isSome_iff_exists.mp (List.getLast?_isSome.mpr hparts)
  have hmem : last ∈ splitBy (Url.isSlash .http) (left param) := List.mem_of_mem_getLast? hlast
  have hresolved := getLast?_resolve before hlast
  have hunbroken : ∀ segment ∈ Url.resolve false before (splitBy (Url.isSlash .http) (left param)),
      Unbroken segment := by
    intro segment hs
    obtain hs | rfl | ⟨part, hpart, rfl⟩ := mem_resolve hs
    · exact (hbefore segment hs).unbroken
    · exact fun _ hc => absurd hc List.not_mem_nil
    · refine unbroken_percentEncode fun c hc => ?_
      rintro rfl
      exact absurd (not_separator_of_mem_splitBy hpart '/' hc) (by decide)
  have hresolved_ne : Url.resolve false before (splitBy (Url.isSlash .http) (left param)) ≠ [] := by
    intro hnil
    rw [hnil] at hresolved
    cases hresolved
  rw [segments_target hpath hresolved_ne hunbroken hmark,
    List.getLast?_cons_of_ne_nil hresolved_ne, hresolved] at hfound
  by_cases hdots : (Url.isDotDot last || Url.isDot last) = true
  · rw [if_pos hdots] at hfound
    cases hfound
    exact absurd rfl hsegment
  · rw [if_neg hdots] at hfound
    cases hfound
    rw [Bool.or_eq_true, not_or, Bool.not_eq_true, Bool.not_eq_true] at hdots
    rw [percentDecode?_percentEncode (by decide) fun _ => pathKeeps_of_isHexDigit] at hread
    have hpart := sublist_of_mem_splitBy hmem
    -- It takes up no fewer bytes than the parameter, and is a part of it.
    obtain rfl := eq_of_sublist (hpart.trans (left_sublist param)) (utf8Len_percentDecode? hread)
    have hleft : left last = last := (left_sublist last).antisymm hpart
    have hfilter : last.filter (fun c => !isDropped c) = last :=
      List.filter_sublist.antisymm (hpart.trans (reached_sublist _))
    refine ⟨fun c hc => ?_, hread, ?_, hdots.1, hdots.2⟩
    · have hdropped : isDropped c = false :=
        (Bool.not_eq_true' _).mp (List.filter_eq_self.mp hfilter c hc)
      have hreached : c ∈ left last := hleft.symm ▸ hc
      have hslash := not_separator_of_mem_splitBy hmem c hc
      have hends := not_mark_of_mem_reached hreached
      simp [isMark, hdropped, hends, hslash]
    · rintro rfl
      exact hsegment rfl

/-- A parameter that arrives is written with escapes, and nothing else happens to it. -/
theorem parse_arriving (h : Arrives param) : Url.parse text =
    .ok (hostedUrl port (before ++ [percentEncode Url.pathKeeps param]) (some query)) := by
  have hmark (c : Char) (hc : c ∈ param) : isDropped c = false ∧ c ≠ '?' ∧ c ≠ '#' ∧
      Url.isSlash .http c = false := by
    have := h.unmarked c hc
    simpa [isMark, and_assoc] using this
  have hkept : param.filter (fun c => !isDropped c) = param :=
    List.filter_eq_self.mpr fun c hc => by simp [(hmark c hc).1]
  have hunbroken : ∀ segment ∈ before ++ [param], Unbroken segment := by
    intro segment hs c hc
    rcases List.mem_append.mp hs with hs | hs
    · exact (hbefore segment hs).unbroken c hc
    · cases List.mem_singleton.mp hs
      obtain ⟨-, hmark, hfragment, hslash⟩ := hmark c hc
      refine ⟨?_, hmark, hfragment⟩
      rintro rfl
      exact absurd hslash (by decide)
  have hquery' : ∀ q ∈ some query, ∀ c ∈ q, isQuiet c = true := by
    rintro q ⟨⟩
    exact hquery
  have hresolve : Url.resolve false before [param] =
      before ++ [percentEncode Url.pathKeeps param] := by
    simp [Url.resolve, h.not_dotdot, h.not_dot, written_eq]
  rw [parse_concat hbefore hne hquery htext, hkept, below, parts_pathAndQuery hunbroken hquery']
  simp only [pathBehind_segments hbefore, splitBy_eq_singleton fun c hc => (hmark c hc).2.2.2,
    hresolve, hostedUrl]

end Arriving

end SweepAudit.Http
