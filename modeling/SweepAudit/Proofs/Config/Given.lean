import SweepAudit.Config.Load
import SweepAudit.Proofs.Except
import SweepAudit.Proofs.Text.Cutting
import SweepAudit.Proofs.Text.Digits

/-!
What becomes of the texts that variables give. Every text is first taken for a truth value or a
number if it can be, so that a field of text keeps it only if it is in the usual form of what it
has been taken for, and a field of a number takes some texts that are not of whole numbers.
-/

namespace SweepAudit

open Text

namespace Setting

variable {text : String} {n : Int}

/-- The text is in the form in which a setting of its type is given back. -/
def Usual (text : String) : Prop :=
  match ofText text with
  | .flag _ => text = "true" ∨ text = "false"
  | .whole n => text = toString n
  | .float x => text = x.plainText
  | .text _ => True

/-- A field of a number takes the text, but as a truth value or as a double. -/
def Guessed (text : String) : Prop :=
  (wordValue? text).isSome = true ∨ ∃ x, ofText text = .float x

theorem ofText_cases (text : String) :
    (∃ b : Bool, ofText text = .flag b ∧ Text.lowered text = toString b) ∨
      (∃ n, ofText text = .whole n ∧ parseSigned wholeBound text.toList = .ok n) ∨
      (∃ x, ofText text = .float x) ∨ ofText text = .text text := by
  rw [ofText]
  split
  · rename_i hword
    exact .inl ⟨true, rfl, hword⟩
  · split
    · rename_i hword
      exact .inl ⟨false, rfl, hword⟩
    · split
      · rename_i n hread
        exact .inr (.inl ⟨n, rfl, hread⟩)
      · split
        · rename_i x _
          exact .inr (.inr (.inl ⟨x, rfl⟩))
        · exact .inr (.inr (.inr rfl))

/-- The texts that a field of text takes as they are. -/
theorem toText_eq_iff (text : String) : (ofText text).toText = text ↔ Usual text := by
  rw [Usual]
  obtain ⟨b, h, hword⟩ | ⟨n, h, -⟩ | ⟨x, h⟩ | h := ofText_cases text
  · rw [h]
    constructor
    · intro htext
      rw [← htext]
      cases b
      · exact .inr rfl
      · exact .inl rfl
    · rintro (rfl | rfl)
      · exact hword.symm.trans (by decide)
      · exact hword.symm.trans (by decide)
  · rw [h]
    exact eq_comm
  · rw [h]
    exact eq_comm
  · rw [h]
    exact iff_of_true rfl trivial

theorem lowerToAscii_digit {c : Char} (h : c.isDigit) : lowerToAscii c = c := by
  have hle : c ≤ '9' := by
    simp only [Char.isDigit, Bool.and_eq_true, decide_eq_true_eq] at h
    exact h.2
  rw [lowerToAscii, if_neg, lowerAscii, if_neg]
  · rintro ⟨hA, -⟩
    exact absurd (Char.le_trans hA hle) (by decide)
  · rintro rfl
    cases h

theorem lowered_toString_ne (n : Int) {letter : Char} {letters : List Char}
    (hdigit : letter.isDigit = false) (hminus : letter ≠ '-') :
    Text.lowered (toString n) ≠ String.ofList (letter :: letters) := by
  intro hword
  have hword := String.ofList_injective hword
  cases n with
  | ofNat n =>
    have htext : (toString (Int.ofNat n)).toList = Nat.toDigits 10 n := String.toList_ofList
    obtain ⟨c, cs, hcons, hc⟩ := exists_head_toDigits n
    rw [htext, hcons, List.map_cons, lowerToAscii_digit hc] at hword
    rw [(List.cons.inj hword).1, hdigit] at hc
    cases hc
  | negSucc n =>
    rw [toList_toString_negSucc, List.map_cons] at hword
    exact hminus (List.cons.inj hword).1.symm

theorem ofText_toString (h : -(wholeBound : Int) ≤ n ∧ n < wholeBound) :
    ofText (toString n) = .whole n := by
  have htrue : Text.lowered (toString n) ≠ "true" :=
    @lowered_toString_ne n 't' "rue".toList (by decide) (by decide)
  have hfalse : Text.lowered (toString n) ≠ "false" :=
    @lowered_toString_ne n 'f' "alse".toList (by decide) (by decide)
  simp only [ofText, htrue, hfalse, if_false, parseSigned_toString h]

/-- A whole number in the form in which numbers are written is left as it is. -/
theorem usual_toString (h : -(wholeBound : Int) ≤ n ∧ n < wholeBound) : Usual (toString n) := by
  rw [Usual, ofText_toString h]

theorem toNat_eq_ok {m : Nat} (hguess : ¬Guessed text)
    (h : (ofText text).toNat = .ok m) : Whole text.toList m := by
  obtain ⟨b, hsetting, hword⟩ | ⟨n, hsetting, hread⟩ | ⟨x, hsetting⟩ | hsetting :=
    ofText_cases text
  · refine absurd (.inl ?_) hguess
    rw [wordValue?, hword]
    cases b <;> decide
  · rw [hsetting, toNat] at h
    split at h
    · cases h
    · rename_i hn
      cases h
      rw [Int.toNat_of_nonneg (Int.not_lt.mp hn)]
      exact parseSigned_eq_ok hread
  · exact absurd (.inr ⟨x, hsetting⟩) hguess
  · rw [hsetting, toNat] at h
    split at h
    · rename_i hword
      exact absurd (.inl (by rw [hword]; rfl)) hguess
    · cases h

theorem toUnsigned_eq_ok {setting : Setting} {bits m : Nat}
    (h : setting.toUnsigned bits = .ok m) : setting.toNat = .ok m ∧ m < twoTo bits := by
  rw [toUnsigned] at h
  obtain ⟨n, hread, h⟩ := bind_eq_ok h
  split at h
  · cases h
    exact ⟨hread, ‹_›⟩
  · cases h

end Setting

namespace Config

open Setting

variable {env : Variables} {field text : String} {entry : Option Entry}

/-- What is given for a field: the text of the last variable that leads to it. -/
def given? (env : Variables) (field : String) : Option String :=
  (env.filter fun (name, _) => (Name.ofText name).field = field).getLast?.map (·.2)

theorem given?_cons (name value : String) (env : Variables) (field : String) :
    given? ((name, value) :: env) field =
      (given? env field).or (if (Name.ofText name).field = field then some value else none) := by
  rw [given?, given?, List.filter_cons]
  by_cases hfield : (Name.ofText name).field = field
  · simp only [hfield, decide_true, if_true, List.getLast?_cons]
    cases (env.filter _).getLast? <;> rfl
  · simp [hfield]

theorem putAll_ungiven (h : given? env field = none) : Entry.putAll field entry env = entry := by
  induction env with
  | nil => rfl
  | cons v env ih =>
    obtain ⟨name, value⟩ := v
    rw [given?_cons, Option.or_eq_none_iff] at h
    obtain ⟨hrest, hname⟩ := h
    split at hname
    · cases hname
    · rename_i hfield
      simp only [Entry.putAll, hfield, if_false]
      exact ih hrest

theorem put_cases (entry : Option Entry) (value : String) (steps : List Step) :
    Entry.put entry value steps = .setting (.ofText value) ∨
      ∃ found, Entry.put entry value steps = .composite found := by
  cases steps with
  | nil => exact .inl rfl
  | cons step steps =>
    cases step with
    | item index => exact .inr ⟨_, rfl⟩
    | member key =>
      right
      rw [Entry.put.eq_def]
      dsimp only
      split <;> exact ⟨_, rfl⟩

/-- The entry is a setting by the text that is given, or the variable leads deeper into it. -/
theorem putAll_given (h : given? env field = some text) :
    Entry.putAll field entry env = some (.setting (.ofText text)) ∨
      ∃ found, Entry.putAll field entry env = some (.composite found) := by
  induction env generalizing entry with
  | nil => cases h
  | cons v env ih =>
    obtain ⟨name, value⟩ := v
    rw [given?_cons] at h
    cases hrest : given? env field with
    | some text' =>
      rw [hrest, Option.some_or] at h
      cases h
      simp only [Entry.putAll]
      split <;> exact ih hrest
    | none =>
      rw [hrest, Option.none_or] at h
      split at h
      · rename_i hfield
        cases h
        simp only [Entry.putAll, hfield, if_true]
        rw [putAll_ungiven hrest]
        exact (put_cases entry text _).imp (congrArg some)
          fun ⟨found, h⟩ => ⟨found, congrArg some h⟩
      · cases h

/-! The fields of a configuration -/

theorem textField?_given {value : Option String} (hgiven : given? env field = some text)
    (h : textField? env field = .ok value) : value = some (ofText text).toText := by
  rw [textField?, entry?] at h
  rcases @putAll_given env field text none hgiven with hentry | ⟨found, hentry⟩
  · rw [hentry] at h
    cases h
    rfl
  · rw [hentry] at h
    cases h

theorem textField_given {default value : String} (hgiven : given? env field = some text)
    (h : textField env field default = .ok value) : value = (ofText text).toText := by
  rw [textField] at h
  cases hread : textField? env field with
  | error e =>
    rw [hread] at h
    cases h
  | ok value' =>
    rw [hread] at h
    cases h
    rw [textField?_given hgiven hread]
    rfl

theorem numberField_given {bits default n : Nat} (hgiven : given? env field = some text)
    (hguess : ¬Guessed text) (h : numberField env field bits default = .ok n) :
    Whole text.toList n ∧ n < twoTo bits := by
  rw [numberField, entry?] at h
  rcases @putAll_given env field text none hgiven with hentry | ⟨found, hentry⟩
  · rw [hentry] at h
    obtain ⟨hread, hbits⟩ := toUnsigned_eq_ok (mapError_eq_ok h)
    exact ⟨toNat_eq_ok hguess hread, hbits⟩
  · rw [hentry] at h
    cases h

/-- What has been read for the fields of a configuration. -/
theorem read_eq_ok {config : Config} (h : read env = .ok config) :
    ∃ host depthLimit metricsPort,
      textField env "orderbook_host" "http://localhost:8080" = .ok host ∧
      config.orderbookHost = tidyHost host ∧
      textField env "api_key" "abcdef12345" = .ok config.apiKey ∧
      textField? env "pub_key" = .ok config.publicKey ∧
      textField env "symbol" "ETH-USD" = .ok config.symbol ∧
      numberField env "depth_limit" 32 20 = .ok depthLimit ∧
      config.depthLimit = .ofNat depthLimit ∧
      numberField env "metrics_port" 16 9000 = .ok metricsPort ∧
      config.metricsPort = .ofNat metricsPort := by
  rw [read] at h
  obtain ⟨host, hhost, h⟩ := bind_eq_ok h
  obtain ⟨scheme, -, h⟩ := bind_eq_ok h
  obtain ⟨apiKey, hapi, h⟩ := bind_eq_ok h
  obtain ⟨publicKey, hpublic, h⟩ := bind_eq_ok h
  obtain ⟨symbol, hsymbol, h⟩ := bind_eq_ok h
  obtain ⟨depthLimit, hdepth, h⟩ := bind_eq_ok h
  obtain ⟨metricsPort, hport, h⟩ := bind_eq_ok h
  have hconfig := Except.ok.inj h
  subst hconfig
  exact ⟨host, depthLimit, metricsPort, hhost, rfl, hapi, hpublic, hsymbol, hdepth, rfl, hport, rfl⟩

theorem load_eq_ok {config : Config} (h : load env = .ok config) : read env = .ok config := by
  rw [load] at h
  cases hmisplaced : misplaced? env with
  | some cause =>
    rw [hmisplaced] at h
    cases h
  | none =>
    simp only [hmisplaced] at h
    obtain ⟨config', hread, h⟩ := bind_eq_ok h
    obtain ⟨_, -, h⟩ := bind_eq_ok h
    cases h
    exact mapError_eq_ok hread

/-- One text is the other but for white space around it and slashes at its end. -/
def Tidied (text host : String) : Prop :=
  ∃ before slashes behind : List Char,
    text.toList = before ++ host.toList ++ slashes ++ behind ∧
    (∀ c ∈ before, isBlank c = true) ∧ (∀ c ∈ slashes, c = '/') ∧ ∀ c ∈ behind, isBlank c = true

theorem tidied_tidyHost (text : String) : Tidied text (tidyHost text) := by
  obtain ⟨before, behind, htext, hbefore, hbehind⟩ := exists_trimBy isBlank text.toList
  obtain ⟨slashes, htrimmed, hslashes⟩ :=
    exists_trimEnd (· == '/') (trimBy isBlank text.toList)
  refine ⟨before, slashes, behind, ?_, hbefore, fun c hc => beq_iff_eq.mp (hslashes c hc), hbehind⟩
  rw [tidyHost, trimEnd, Text.trim, String.toList_ofList, String.toList_ofList, List.append_assoc
    before, ← htrimmed]
  exact htext

/-- A loaded configuration has just the texts that are in their usual form; a host that is so is
only tidied. Its numbers are those that the texts are of, unless a text has been taken for a truth
value or for a double. -/
theorem load_given {config : Config} (h : load env = .ok config) :
    (∀ text, given? env "api_key" = some text → (config.apiKey = text ↔ Usual text)) ∧
    (∀ text, given? env "pub_key" = some text → (config.publicKey = some text ↔ Usual text)) ∧
    (∀ text, given? env "symbol" = some text → (config.symbol = text ↔ Usual text)) ∧
    (∀ text, given? env "orderbook_host" = some text → Usual text →
      Tidied text config.orderbookHost) ∧
    (∀ text, given? env "depth_limit" = some text → ¬Guessed text →
      Whole text.toList config.depthLimit.toNat) ∧
    ∀ text, given? env "metrics_port" = some text → ¬Guessed text →
      Whole text.toList config.metricsPort.toNat := by
  obtain ⟨host, depthLimit, metricsPort, hhost, htidy, hapi, hpublic, hsymbol, hdepth, hdepth',
    hport, hport'⟩ := read_eq_ok (load_eq_ok h)
  refine ⟨?_, ?_, ?_, ?_, ?_, ?_⟩
  · intro text hgiven
    rw [textField_given hgiven hapi, toText_eq_iff]
  · intro text hgiven
    rw [textField?_given hgiven hpublic, Option.some_inj, toText_eq_iff]
  · intro text hgiven
    rw [textField_given hgiven hsymbol, toText_eq_iff]
  · intro text hgiven usual
    rw [htidy, textField_given hgiven hhost, (toText_eq_iff text).mpr usual]
    exact tidied_tidyHost text
  · intro text hgiven hguess
    obtain ⟨hwhole, hlt⟩ := numberField_given hgiven hguess hdepth
    rwa [hdepth', UInt32.toNat_ofNat_of_lt' hlt]
  · intro text hgiven hguess
    obtain ⟨hwhole, hlt⟩ := numberField_given hgiven hguess hport
    rwa [hport', UInt16.toNat_ofNat_of_lt' hlt]

/-- The usual forms are kept. -/
def usualVariables : Variables :=
  [("API_KEY", "Zm9vYmFy=="), ("PUB_KEY", "-7"), ("SYMBOL", "BTC-USD"),
    ("ORDERBOOK_HOST", " http://orderbook:8080// "), ("DEPTH_LIMIT", "+050"),
    ("METRICS_PORT", "9100")]

theorem usual_usualVariables : Usual "Zm9vYmFy==" ∧ Usual "-7" ∧ Usual "BTC-USD" ∧
    Usual " http://orderbook:8080// " ∧ ¬Guessed "+050" ∧ ¬Guessed "9100" := by
  have htext (text : String) (h : ofText text = .text text) : Usual text := by
    rw [Usual, h]
    trivial
  have hwhole (text : String) (n : Int) (hword : wordValue? text = none)
      (h : ofText text = .whole n) : ¬Guessed text := by
    rintro (hsome | ⟨x, hfloat⟩)
    · rw [hword] at hsome
      cases hsome
    · rw [h] at hfloat
      cases hfloat
  have hnegative : Usual "-7" := by
    have htoString : toString (-7 : Int) = "-7" := by decide
    rw [← htoString]
    exact usual_toString (by decide +kernel)
  exact ⟨htext "Zm9vYmFy==" (by decide +kernel), hnegative, htext "BTC-USD" (by decide +kernel),
    htext " http://orderbook:8080// " (by decide +kernel),
    hwhole "+050" 50 (by decide) (by decide +kernel),
    hwhole "9100" 9100 (by decide) (by decide +kernel)⟩

theorem load_given_usual : ∃ config, load usualVariables = .ok config ∧
    config.apiKey = "Zm9vYmFy==" ∧ config.publicKey = some "-7" ∧ config.symbol = "BTC-USD" ∧
    Tidied " http://orderbook:8080// " config.orderbookHost ∧
    Whole "+050".toList config.depthLimit.toNat ∧ Whole "9100".toList config.metricsPort.toNat := by
  obtain ⟨hapi, hpublic, hsymbol, hhost, hdepth, hport⟩ := usual_usualVariables
  cases hload : load usualVariables with
  | error e =>
    have hloads : (load usualVariables).toOption.isSome = true := by decide +kernel
    rw [hload] at hloads
    cases hloads
  | ok config =>
    obtain ⟨apiGiven, publicGiven, symbolGiven, hostGiven, depthGiven, portGiven⟩ :=
      load_given hload
    exact ⟨config, rfl, (apiGiven "Zm9vYmFy==" (by decide +kernel)).mpr hapi,
      (publicGiven "-7" (by decide +kernel)).mpr hpublic,
      (symbolGiven "BTC-USD" (by decide +kernel)).mpr hsymbol,
      hostGiven " http://orderbook:8080// " (by decide +kernel) hhost,
      depthGiven "+050" (by decide +kernel) hdepth, portGiven "9100" (by decide +kernel) hport⟩

/-- A symbol of digits loses the zeros at its front, and a limit can have an exponent. -/
theorem load_alters :
    given? [("SYMBOL", "007")] "symbol" = some "007" ∧
      (load [("SYMBOL", "007")]).toOption.map (·.symbol) = some "7" ∧
      given? [("DEPTH_LIMIT", "1e2")] "depth_limit" = some "1e2" ∧
      (load [("DEPTH_LIMIT", "1e2")]).toOption.map (·.depthLimit) = some 100 := by
  decide +kernel

end Config

end SweepAudit
