import Mathlib.Data.Nat.Digits.Defs
import SweepAudit.Exchange.Hosted
import SweepAudit.Proofs.Text.Cutting
import SweepAudit.Proofs.Text.Digits
import SweepAudit.Proofs.Text.Percent

/-!
Addresses below that of a hosted exchange, whatever its port. A path whose segments are words
of letters, digits and a few marks is kept as it is, and so is a query of such characters; the
address can be asked unless it is too long.
-/

namespace SweepAudit.Http

open Text

/-- Letters, digits, and marks that have no meaning in a path. -/
def isQuiet (c : Char) : Bool := c.isAlphanum || c == '-' || c == '_' || c == '='

/-- A segment that is kept as it is. -/
def Quiet (segment : List Char) : Prop := segment ≠ [] ∧ ∀ c ∈ segment, isQuiet c = true

instance (segment : List Char) : Decidable (Quiet segment) :=
  decidable_of_iff ((!segment.isEmpty && segment.all isQuiet) = true) (by
    rw [Bool.and_eq_true, Bool.not_eq_true', List.isEmpty_eq_false_iff, List.all_eq_true]
    rfl)

theorem toNat_lt_of_isQuiet {c : Char} (h : isQuiet c = true) : c.toNat < 128 := by
  have hranges : isQuiet c = (((((decide (65 ≤ c.val ∧ c.val ≤ 90) ||
      (97 ≤ c.val && c.val ≤ 122)) || (48 ≤ c.val && c.val ≤ 57)) || c == '-') || c == '_') ||
      c == '=') := rfl
  simp only [hranges, Bool.or_eq_true, Bool.and_eq_true, decide_eq_true_eq, beq_iff_eq,
    UInt32.le_iff_toNat_le] at h
  change (((((65 ≤ c.toNat ∧ c.toNat ≤ 90) ∨ (97 ≤ c.toNat ∧ c.toNat ≤ 122)) ∨
    (48 ≤ c.toNat ∧ c.toNat ≤ 57)) ∨ c = '-') ∨ c = '_') ∨ c = '=' at h
  rcases h with ((h | rfl) | rfl) | rfl
  · omega
  all_goals decide

/-- What holds of all quiet characters can be decided. -/
theorem forall_isQuiet (p : Char → Bool)
    (h : ∀ n < 128, (!isQuiet (Char.ofNat n) || p (Char.ofNat n)) = true) {c : Char}
    (hc : isQuiet c = true) : p c = true := by
  have := h c.toNat (toNat_lt_of_isQuiet hc)
  rw [Char.ofNat_toNat, hc] at this
  simpa using this

theorem ne_of_isQuiet {c d : Char} (hc : isQuiet c = true) (hd : isQuiet d = false) :
    (c == d) = false := by
  rw [beq_eq_false_iff_ne]
  rintro rfl
  rw [hc] at hd
  cases hd

/-- Nothing in a segment ends it. -/
def Unbroken (segment : List Char) : Prop := ∀ c ∈ segment, c ≠ '/' ∧ c ≠ '?' ∧ c ≠ '#'

theorem Quiet.unbroken {segment : List Char} (h : Quiet segment) : Unbroken segment := by
  intro c hc
  have hne {d : Char} (hd : isQuiet d = false) : c ≠ d :=
    beq_eq_false_iff_ne.mp (ne_of_isQuiet (h.2 c hc) hd)
  exact ⟨hne (by decide), hne (by decide), hne (by decide)⟩

theorem ne_percent_of_isQuiet {cs : List Char} (h : ∀ c ∈ cs, isQuiet c = true) :
    ∀ c ∈ cs, c ≠ '%' :=
  fun c hc => beq_eq_false_iff_ne.mp (ne_of_isQuiet (h c hc) (by decide))

/-! Paths -/

/-- A quiet segment is no dot segment, and is written as it is. -/
theorem Quiet.kept {segment : List Char} (h : Quiet segment) :
    Url.isDotDot segment = false ∧ Url.isDot segment = false ∧
      ∀ path, Url.written false path segment = [segment] := by
  have hencode : percentEncode Url.pathKeeps segment = segment :=
    percentEncode_of_kept fun c hc => forall_isQuiet Url.pathKeeps (by decide +kernel) (h.2 c hc)
  -- Every spelling of a dot segment begins with one of these.
  obtain ⟨d, ds, hmap, hdot, hpercent⟩ : ∃ d ds, segment.map lowerAscii = d :: ds ∧
      d ≠ '.' ∧ d ≠ '%' := by
    cases segment with
    | nil => exact absurd rfl h.1
    | cons c cs =>
      have hc : (lowerAscii c != '.' && lowerAscii c != '%') = true :=
        forall_isQuiet (fun c => lowerAscii c != '.' && lowerAscii c != '%') (by decide +kernel)
          (h.2 c List.mem_cons_self)
      rw [Bool.and_eq_true, bne_iff_ne, bne_iff_ne] at hc
      exact ⟨_, _, rfl, hc.1, hc.2⟩
  refine ⟨?_, ?_, ?_⟩
  · simp [Url.isDotDot, hmap, hdot, hpercent]
  · simp [Url.isDot, hmap, hdot, hpercent]
  · intro path
    rw [Url.written, hencode]
    all_goals simp

/-- Quiet segments are gone along as they are. -/
theorem resolve_append {segments : List (List Char)} (h : ∀ segment ∈ segments, Quiet segment)
    (path : List (List Char)) {rest : List (List Char)} (hne : rest ≠ []) :
    Url.resolve false path (segments ++ rest) = Url.resolve false (path ++ segments) rest := by
  induction segments generalizing path with
  | nil => rw [List.nil_append, List.append_nil]
  | cons segment segments ih =>
    obtain ⟨hsegment, hsegments⟩ := List.forall_mem_cons.mp h
    obtain ⟨hdotdot, hdot, hwritten⟩ := hsegment.kept
    obtain ⟨next, behind, hbehind⟩ := List.exists_cons_of_ne_nil
      (List.append_ne_nil_of_right_ne_nil segments hne)
    have hstep : Url.resolve false path (segment :: (segments ++ rest)) =
        Url.resolve false (path ++ [segment]) (segments ++ rest) := by
      rw [hbehind]
      simp [Url.resolve, hdotdot, hdot, hwritten]
    rw [List.cons_append, hstep, ih hsegments, List.append_assoc, List.singleton_append]

theorem resolve_quiet {segments : List (List Char)} (hne : segments ≠ [])
    (h : ∀ segment ∈ segments, Quiet segment) (path : List (List Char)) :
    Url.resolve false path segments = path ++ segments := by
  obtain ⟨before, last, rfl⟩ := List.eq_nil_or_concat segments |>.resolve_left hne
  obtain ⟨hdotdot, hdot, hwritten⟩ := (h last (by simp)).kept
  rw [List.concat_eq_append] at h ⊢
  rw [resolve_append (fun segment hs => h segment (List.mem_append_left _ hs)) path
    (List.cons_ne_nil last [])]
  simp [Url.resolve, hdotdot, hdot, hwritten]

/-- What stands behind the last of some segments may be parted itself. -/
theorem splitBy_behind (isSlash : Char → Bool) (hslash : isSlash '/' = true)
    {segments : List (List Char)} (h : ∀ segment ∈ segments, ∀ c ∈ segment, isSlash c = false)
    (last : List Char) :
    splitBy isSlash (((segments ++ [last]).flatMap ('/' :: ·)).tail) =
      segments ++ splitBy isSlash last := by
  induction segments with
  | nil => simp
  | cons segment segments ih =>
    obtain ⟨hsegment, hsegments⟩ := List.forall_mem_cons.mp h
    have hbehind : ∃ behind, (segments ++ [last]).flatMap ('/' :: ·) = '/' :: behind := by
      cases segments <;> exact ⟨_, rfl⟩
    obtain ⟨behind, hbehind⟩ := hbehind
    have hrest := ih hsegments
    rw [hbehind, List.tail_cons] at hrest
    rw [List.cons_append, List.flatMap_cons, hbehind, List.cons_append, List.tail_cons,
      splitBy_append hsegment hslash, hrest, List.cons_append]

theorem splitBy_segments (isSlash : Char → Bool) (hslash : isSlash '/' = true)
    {segments : List (List Char)} (hne : segments ≠ [])
    (h : ∀ segment ∈ segments, ∀ c ∈ segment, isSlash c = false) :
    splitBy isSlash ((segments.flatMap ('/' :: ·)).tail) = segments := by
  obtain ⟨before, last, rfl⟩ := List.eq_nil_or_concat segments |>.resolve_left hne
  rw [List.concat_eq_append] at h ⊢
  rw [splitBy_behind isSlash hslash fun segment hs => h segment (List.mem_append_left _ hs),
    splitBy_eq_singleton (h last (by simp))]

/-! Hosts -/

/-- The machine itself. -/
def loopback : Host := .ipv4 2130706433#32

theorem readKnown_loopback : Host.readKnown "127.0.0.1".toList = .ok loopback := by
  have hdecode : percentDecode? "127.0.0.1".toList = some "127.0.0.1".toList :=
    percentDecode?_of_plain (by simp)
  have hsettled : Domain.isSettled "127.0.0.1".toList = true := by decide
  have hmeant : Ipv4.isMeant "127.0.0.1".toList = true := by decide
  have hread : Ipv4.read? "127.0.0.1".toList = some 2130706433#32 := by decide
  change Host.readName "127.0.0.1".toList = _
  rw [Host.readName, hdecode, Option.bind_some, Domain.toAscii?, if_pos hsettled]
  change (if Ipv4.isMeant "127.0.0.1".toList = true then _ else _) = _
  rw [if_pos hmeant, hread]
  rfl

/-- The digits of a port. -/
def portDigits (port : Port) : List Char := Nat.toDigits 10 port.number.toNat

theorem toList_base (port : Port) :
    (Hosted.base port).toList = "http://127.0.0.1:".toList ++ portDigits port := by
  simp [Hosted.base, portDigits, ToString.toString, Nat.repr]

theorem length_base_le (port : Port) : (Hosted.base port).toList.length ≤ 22 := by
  have hbound : port.number.toNat < 10 ^ 5 := Nat.lt_trans port.number.toNat_lt (by decide)
  have hdigits : (portDigits port).length ≤ 5 := Nat.toDigits_length 10 _ 5 (by decide) hbound
  rw [toList_base, List.length_append]
  change 17 + _ ≤ 22
  omega

/-- A digit begins and ends nothing in an address. -/
theorem of_mem_portDigits {port : Port} {c : Char} (h : c ∈ portDigits port) :
    isDigit c = true ∧ ' ' < c ∧ Url.isAuthorityEnd .http c = false ∧ c ≠ '@' ∧ c ≠ '/' := by
  have hdigit : c.isDigit = true := isDigit_toDigits c h
  have hquiet : isQuiet c = true := by simp [isQuiet, Char.isAlphanum, hdigit]
  have hends : Url.isAuthorityEnd .http c = false := (Bool.not_eq_true' _).mp
    (forall_isQuiet (fun c => !Url.isAuthorityEnd .http c) (by decide +kernel) hquiet)
  have hne {d : Char} (hd : isQuiet d = false) : c ≠ d :=
    beq_eq_false_iff_ne.mp (ne_of_isQuiet hquiet hd)
  exact ⟨isDigit_of_isDigit hdigit,
    of_decide_eq_true (forall_isQuiet (fun c => ' ' < c) (by decide +kernel) hquiet), hends,
    hne (by decide), hne (by decide)⟩

/-- No mark at the end of an address is taken away from this one, for it ends with a digit. -/
theorem trimEnd_base (port : Port) :
    Text.trimEnd (· == '/') (Hosted.base port) = Hosted.base port := by
  have hne : (portDigits port).reverse ≠ [] := List.reverse_ne_nil_iff.mpr Nat.toDigits_ne_nil
  obtain ⟨digit, digits, hdigits⟩ := List.exists_cons_of_ne_nil hne
  have hdigit : digit ∈ portDigits port := List.mem_reverse.mp (hdigits ▸ List.mem_cons_self)
  have hmark : ¬(digit == '/') = true := by simpa using (of_mem_portDigits hdigit).2.2.2.2
  have hkept : (Hosted.base port).toList.reverse.dropWhile (· == '/') =
      (Hosted.base port).toList.reverse := by
    rw [toList_base, List.reverse_append, hdigits, List.cons_append]
    exact List.dropWhile_cons_of_neg hmark
  rw [Text.trimEnd, hkept, List.reverse_reverse, String.ofList_toList]

theorem readNumber_port (port : Port) (rest : List Char) :
    Url.readNumber .http (portDigits port ++ '/' :: rest) =
      .ok (some port.number.toNat, '/' :: rest) := by
  have hdigits : ∀ c ∈ portDigits port, isDigit c = true := fun c hc => (of_mem_portDigits hc).1
  have htake : (portDigits port ++ '/' :: rest).takeWhile isDigit = portDigits port := by
    rw [List.takeWhile_append_of_pos hdigits]
    simp [show isDigit '/' = false by decide]
  have hdrop : (portDigits port ++ '/' :: rest).dropWhile isDigit = '/' :: rest := by
    rw [List.dropWhile_append_of_pos hdigits]
    simp [show isDigit '/' = false by decide]
  have hvalue : numberFrom? 0 (portDigits port) = some port.number.toNat := by
    rw [portDigits, numberFrom?_digits isDigit_toDigits, Nat.ofDigitChars_ten_toDigits]
  have hwide : ¬twoTo 16 ≤ port.number.toNat := Nat.not_le.mpr port.number.toNat_lt
  have hfree : 1024 ≤ port.number.toNat := UInt16.le_iff_toNat_le.mp port.free
  have hne : (portDigits port).isEmpty = false := List.isEmpty_eq_false_iff.mpr Nat.toDigits_ne_nil
  have husual : ¬Protocol.http.usualNumber? = some port.number.toNat := by
    intro husual
    have : 80 = port.number.toNat := Option.some.inj husual
    omega
  rw [Url.readNumber]
  simp only [htake, hdrop, hvalue, Option.getD_some, hwide, if_false, hne, husual,
    Bool.false_eq_true, false_or]
  rfl

/-! Addresses -/

/-- The authority of a hosted exchange. -/
def hostedAuthority (port : Port) : Authority := ⟨.nobody, loopback, some port.number.toNat⟩

/-- The address of a path, with a query or without, at a hosted exchange. -/
def hostedUrl (port : Port) (segments : List (List Char)) (query : Option (List Char)) : Url :=
  ⟨.http, some (hostedAuthority port), .parts segments, query, none⟩

/-- What stands in an address behind the host. -/
def pathAndQuery (segments : List (List Char)) (query : Option (List Char)) : List Char :=
  segments.flatMap ('/' :: ·) ++ Url.marked '?' query

variable {port : Port} {segments : List (List Char)} {query : Option (List Char)}

theorem kept_of_mem_pathAndQuery (h : ∀ segment ∈ segments, Quiet segment)
    (hquery : ∀ q ∈ query, ∀ c ∈ q, isQuiet c = true) :
    ∀ c ∈ pathAndQuery segments query, c = '/' ∨ c = '?' ∨ isQuiet c = true := by
  intro c hc
  rcases List.mem_append.mp hc with hc | hc
  · obtain ⟨segment, hs, hc⟩ := List.mem_flatMap.mp hc
    rcases List.mem_cons.mp hc with rfl | hc
    · exact .inl rfl
    · exact .inr (.inr ((h segment hs).2 c hc))
  · cases query with
    | none => exact absurd hc List.not_mem_nil
    | some q =>
      rcases List.mem_cons.mp hc with rfl | hc
      · exact .inr (.inl rfl)
      · exact .inr (.inr (hquery q rfl c hc))

theorem cut_fragment (h : ∀ segment ∈ segments, Unbroken segment)
    (hquery : ∀ q ∈ query, ∀ c ∈ q, c ≠ '#') :
    cutBy (· == '#') (pathAndQuery segments query) = (pathAndQuery segments query, none) := by
  apply cutBy_eq_none
  intro c hc
  rw [beq_eq_false_iff_ne]
  rcases List.mem_append.mp hc with hc | hc
  · obtain ⟨segment, hs, hc⟩ := List.mem_flatMap.mp hc
    rcases List.mem_cons.mp hc with rfl | hc
    · decide
    · exact (h segment hs c hc).2.2
  · cases query with
    | none => exact absurd hc List.not_mem_nil
    | some q =>
      rcases List.mem_cons.mp hc with rfl | hc
      · decide
      · exact hquery q rfl c hc

theorem cut_query (h : ∀ segment ∈ segments, Unbroken segment) (query : Option (List Char)) :
    cutBy (· == '?') (pathAndQuery segments query) = (segments.flatMap ('/' :: ·), query) := by
  have hpath : ∀ c ∈ segments.flatMap ('/' :: ·), (c == '?') = false := by
    intro c hc
    rw [beq_eq_false_iff_ne]
    obtain ⟨segment, hs, hc⟩ := List.mem_flatMap.mp hc
    rcases List.mem_cons.mp hc with rfl | hc
    · decide
    · exact (h segment hs c hc).2.1
  rw [pathAndQuery]
  cases query with
  | none =>
    rw [Url.marked, Option.map_none, Option.getD_none, List.append_nil]
    exact cutBy_eq_none hpath
  | some q =>
    rw [Url.marked, Option.map_some, Option.getD_some]
    exact cutBy_append hpath (beq_self_eq_true '?')

theorem ne_fragment_of_isQuiet (hquery : ∀ q ∈ query, ∀ c ∈ q, isQuiet c = true) :
    ∀ q ∈ query, ∀ c ∈ q, c ≠ '#' :=
  fun q hq c hc => beq_eq_false_iff_ne.mp (ne_of_isQuiet (hquery q hq c hc) (by decide))

theorem parts_pathAndQuery (h : ∀ segment ∈ segments, Unbroken segment)
    (hquery : ∀ q ∈ query, ∀ c ∈ q, isQuiet c = true) :
    Url.Parts.ofChars .http (pathAndQuery segments query) =
      ⟨segments.flatMap ('/' :: ·), query, none⟩ := by
  have hencode : query.map (percentEncode (Url.queryKeeps .http)) = query := by
    cases query with
    | none => rfl
    | some q =>
      exact congrArg some (percentEncode_of_kept fun c hc =>
        forall_isQuiet (Url.queryKeeps .http) (by decide +kernel) (hquery q rfl c hc))
  rw [Url.Parts.ofChars, cut_fragment h (ne_fragment_of_isQuiet hquery)]
  simp only [cut_query h, hencode, Option.map_none]

theorem pathAndQuery_eq_cons (hne : segments ≠ []) (query : Option (List Char)) :
    ∃ rest, pathAndQuery segments query = '/' :: rest := by
  cases segments with
  | nil => exact absurd rfl hne
  | cons segment segments => exact ⟨_, rfl⟩

theorem readAuthority_hosted (port : Port) (rest : List Char) :
    Url.readAuthority .http ("127.0.0.1:".toList ++ (portDigits port ++ '/' :: rest)) =
      .ok (hostedAuthority port, '/' :: rest) := by
  have htake : ("127.0.0.1:".toList ++ (portDigits port ++ '/' :: rest)).takeWhile
      (fun c => !Url.isAuthorityEnd .http c) = "127.0.0.1:".toList ++ portDigits port := by
    have hdigits : ∀ c ∈ "127.0.0.1:".toList ++ portDigits port,
        (!Url.isAuthorityEnd .http c) = true := by
      intro c hc
      rcases List.mem_append.mp hc with hc | hc
      · have hnone : "127.0.0.1:".toList.all (fun c => !Url.isAuthorityEnd .http c) = true := by
          decide
        exact List.all_eq_true.mp hnone c hc
      · rw [(of_mem_portDigits hc).2.2.1]
        rfl
    rw [← List.append_assoc, List.takeWhile_append_of_pos hdigits,
      List.takeWhile_cons_of_neg (by decide), List.append_nil]
  have hinfo : ("127.0.0.1:".toList ++ portDigits port).contains '@' = false := by
    rw [List.contains_eq_mem, decide_eq_false_iff_not, List.mem_append, not_or]
    exact ⟨by decide, fun hc => (of_mem_portDigits hc).2.2.2.1 rfl⟩
  have hsplit :
      Url.splitHost .http false ("127.0.0.1:".toList ++ (portDigits port ++ '/' :: rest)) =
      ("127.0.0.1".toList, ':' :: (portDigits port ++ '/' :: rest)) := rfl
  have hhost : Url.readHost .http "127.0.0.1".toList = .ok loopback := by
    change (Host.readKnown "127.0.0.1".toList).mapError UrlError.host = _
    rw [readKnown_loopback]
    rfl
  rw [Url.readAuthority, htake, hinfo]
  change Url.readPlace .http .nobody
    ("127.0.0.1:".toList ++ (portDigits port ++ '/' :: rest)) = _
  rw [Url.readPlace, hsplit]
  simp only [hhost, bind, Except.bind, readNumber_port]
  rfl

def isDropped (c : Char) : Bool := c == '\t' || c == '\n' || c == '\r'

/-- The address that is read of what stands behind the port. -/
def below (port : Port) (cs : List Char) : Url :=
  let parts := Url.Parts.ofChars .http cs
  ⟨.http, some (hostedAuthority port), Url.pathBehind .http parts.path, parts.query,
    parts.fragment⟩

theorem parse_below {text : String} {inside : List Char}
    (htext : text.toList = (Hosted.base port).toList ++ '/' :: inside)
    (hlast : ∀ c ∈ ('/' :: inside).getLast?, ' ' < c) :
    Url.parse text = .ok (below port (('/' :: inside).filter fun c => !isDropped c)) := by
  have hdropped : ∀ c ∈ portDigits port, isDropped c = false := by
    intro c hc
    have hne {d : Char} (hd : d ≤ ' ') : (c == d) = false := by
      rw [beq_eq_false_iff_ne]
      rintro rfl
      exact Char.not_le.mpr (of_mem_portDigits hc).2.1 hd
    rw [isDropped, hne (by decide), hne (by decide), hne (by decide)]
    rfl
  have hbase : (Hosted.base port).toList.filter (fun c => !isDropped c) =
      (Hosted.base port).toList := by
    rw [toList_base, List.filter_append]
    refine congrArg (_ ++ ·) (List.filter_eq_self.mpr fun c hc => ?_)
    rw [hdropped c hc]
    rfl
  have hends : trimBy (· ≤ ' ') text.toList = text.toList := by
    rw [htext]
    refine trimBy_of_ends ?_ ?_
    · rw [toList_base]
      rintro c ⟨⟩
      decide
    · intro c hc
      rw [List.getLast?_append, List.getLast?_cons, Option.some_or] at hc
      exact decide_eq_false (Char.not_le.mpr (hlast c (by rwa [List.getLast?_cons])))
  have htidy : Url.tidy text.toList =
      (Hosted.base port).toList ++ ('/' :: inside).filter fun c => !isDropped c := by
    rw [Url.tidy, hends, htext, List.filter_append]
    exact congrArg (· ++ _) hbase
  obtain ⟨rest, hrest⟩ : ∃ rest, ('/' :: inside).filter (fun c => !isDropped c) = '/' :: rest :=
    ⟨_, rfl⟩
  have hscheme : Url.splitScheme? ((Hosted.base port).toList ++ '/' :: rest) =
      some ("http".toList, "//127.0.0.1:".toList ++ (portDigits port ++ '/' :: rest)) := by
    rw [toList_base, List.append_assoc]
    rfl
  rw [Url.parse, htidy, hrest, hscheme]
  change Url.ofAuthority .http ("127.0.0.1:".toList ++ (portDigits port ++ '/' :: rest)) = _
  rw [Url.ofAuthority, readAuthority_hosted]
  rfl

/-- What is behind the last of some quiet segments may be parted itself. -/
theorem pathBehind_segments (h : ∀ segment ∈ segments, Quiet segment) (last : List Char) :
    Url.pathBehind .http ((segments ++ [last]).flatMap ('/' :: ·)) =
      .parts (Url.resolve false segments (splitBy (Url.isSlash .http) last)) := by
  have hslash : ∀ segment ∈ segments, ∀ c ∈ segment, Url.isSlash .http c = false :=
    fun segment hs c hc => (Bool.not_eq_true' _).mp (forall_isQuiet (fun c => !Url.isSlash .http c)
      (by decide +kernel) ((h segment hs).2 c hc))
  obtain ⟨behind, hbehind⟩ : ∃ behind, (segments ++ [last]).flatMap ('/' :: ·) = '/' :: behind := by
    cases segments <;> exact ⟨_, rfl⟩
  have hsplit := splitBy_behind (Url.isSlash .http) (by decide) hslash last
  rw [hbehind, List.tail_cons] at hsplit
  rw [hbehind]
  change Url.readSegments .http behind = _
  rw [Url.readSegments, hsplit, resolve_append h [] (splitBy_ne_nil _ _), List.nil_append]

/-- The address of quiet segments is read as it is meant. -/
theorem parse_hosted (hne : segments ≠ []) (h : ∀ segment ∈ segments, Quiet segment)
    (hquery : ∀ q ∈ query, ∀ c ∈ q, isQuiet c = true) {text : String}
    (htext : text.toList = (Hosted.base port).toList ++ pathAndQuery segments query) :
    Url.parse text = .ok (hostedUrl port segments query) := by
  obtain ⟨rest, hrest⟩ := pathAndQuery_eq_cons hne query
  have hvisible : ∀ c ∈ pathAndQuery segments query, ' ' < c := by
    intro c hc
    rcases kept_of_mem_pathAndQuery h hquery c hc with rfl | rfl | hc
    · decide
    · decide
    · exact of_decide_eq_true (forall_isQuiet (fun c => ' ' < c) (by decide +kernel) hc)
  have hkept : (pathAndQuery segments query).filter (fun c => !isDropped c) =
      pathAndQuery segments query := by
    rw [List.filter_eq_self]
    intro c hc
    have hne {d : Char} (hd : d ≤ ' ') : (c == d) = false := by
      rw [beq_eq_false_iff_ne]
      rintro rfl
      exact Char.not_le.mpr (hvisible c hc) hd
    rw [isDropped, hne (by decide), hne (by decide), hne (by decide)]
    rfl
  have hsegments : Url.pathBehind .http (segments.flatMap ('/' :: ·)) = .parts segments := by
    obtain ⟨before, last, rfl⟩ := (List.eq_nil_or_concat segments).resolve_left hne
    rw [List.concat_eq_append] at h ⊢
    have hlast : Quiet last := h last (by simp)
    rw [pathBehind_segments fun segment hs => h segment (List.mem_append_left _ hs)]
    rw [splitBy_eq_singleton fun c hc => (Bool.not_eq_true' _).mp
      (forall_isQuiet (fun c => !Url.isSlash .http c) (by decide +kernel) (hlast.2 c hc))]
    rw [resolve_quiet (List.cons_ne_nil _ _) (List.forall_mem_singleton.mpr hlast)]
  rw [hrest] at htext
  rw [parse_below htext fun c hc => hvisible c (hrest ▸ List.mem_of_mem_getLast? hc), ← hrest,
    hkept, below, parts_pathAndQuery (fun segment hs => (h segment hs).unbroken) hquery]
  simp only [hsegments, hostedUrl]

theorem text_hostedUrl (port : Port) (segments : List (List Char)) (query : Option (List Char)) :
    (hostedUrl port segments query).text =
      String.ofList ((Hosted.base port).toList ++ pathAndQuery segments query) := by
  have hhost : loopback.text = "127.0.0.1".toList := by decide
  rw [toList_base]
  simp [Url.text, hostedUrl, hostedAuthority, Url.place, Url.marked, Authority.text, UserInfo.text,
    hhost, UrlPath.text, Protocol.name, pathAndQuery, portDigits]

/-- An address at the host of the exchange, of which nothing is told that is not asked for. -/
structure Url.IsLocal (url : Url) : Prop where
  protocol_eq : url.protocol = .http
  authority_eq : ∃ number, url.authority = some ⟨.nobody, loopback, number⟩

theorem Url.IsLocal.anonymous {url : Url} (h : url.IsLocal) : url.anonymous = url := by
  have hnobody : UserInfo.nobody.isReadable = false := by
    have hdecode : percentDecode? [] = some [] := percentDecode?_of_plain (by simp)
    simp [UserInfo.isReadable, UserInfo.nobody, hdecode]
  obtain ⟨number, hauthority⟩ := h.authority_eq
  simp [Url.anonymous, hauthority, hnobody]

/-- The address is asked as it is if a request can hold it, and else not at all. -/
theorem Url.IsLocal.asked {url : Url} (h : url.IsLocal) :
    url.asked = if url.text.utf8ByteSize ≤ Url.maxLength then .ok url
      else .error (.unsendable url) := by
  have hserved : url.protocol.isServed = true := by rw [h.protocol_eq]; rfl
  have hsendable : url.isSendable = decide (url.text.utf8ByteSize ≤ Url.maxLength) := by
    have hhost : loopback.text.any Url.isUnsendable = false := by decide
    obtain ⟨number, hauthority⟩ := h.authority_eq
    rw [Url.isSendable, hauthority]
    change (_ && !loopback.text.any Url.isUnsendable) = _
    rw [hhost, Bool.not_false, Bool.and_true]
  rw [Url.asked, h.anonymous]
  simp only [hserved, hsendable, Bool.not_true, Bool.false_eq_true, if_false,
    Bool.not_eq_true', decide_eq_false_iff_not]
  split <;> simp_all

theorem isLocal_hostedUrl : (hostedUrl port segments query).IsLocal := ⟨rfl, _, rfl⟩

theorem asked_hostedUrl :
    (hostedUrl port segments query).asked =
      if (hostedUrl port segments query).text.utf8ByteSize ≤ Url.maxLength then
        .ok (hostedUrl port segments query)
      else .error (.unsendable (hostedUrl port segments query)) :=
  isLocal_hostedUrl.asked

end SweepAudit.Http
