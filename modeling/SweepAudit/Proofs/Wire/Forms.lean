import SweepAudit.Proofs.Audit.Alike
import SweepAudit.Proofs.Json.Literal
import SweepAudit.Proofs.Json.Value
import SweepAudit.Wire.Auction

/-!
Amounts on the wire, bare or in quotes. A quoted amount is kept as it is. A bare one goes through a
64-bit whole number or a double and comes back as the same number if it is a whole number of 64
bits, or if it has at most fifteen digits and a moderate power of ten. With more digits the two
forms can differ.
-/

namespace SweepAudit

open Json Text Decimal

/-- How an amount stands on the wire. -/
inductive Form where
  | bare
  | quoted
  deriving DecidableEq

/-- A literal whose number a decimal holds, and which survives without quotes. -/
structure Literal.Faithful (l : Literal) : Prop where
  held : Representable l.value
  kept : Plain l ∨ Short l

namespace Literal.Faithful

variable {l : Literal}

theorem fits (h : l.Faithful) : l.Fits := h.kept.elim Plain.fits fun hshort => hshort.fits h.held

end Literal.Faithful

namespace Wire

variable {α : Type} {l p s : Literal} {form f g : Form} {fuel room : Nat} {rest : List Char}
  {source : Source} {j : Json} {text : String} {auctionId : Option String}

def amountChars (form : Form) (l : Literal) : List Char :=
  match form with
  | .bare => l.chars
  | .quoted => '"' :: (l.chars ++ ['"'])

def levelText (f g : Form) (price size : Literal) : String :=
  String.ofList ('[' :: (amountChars f price ++ ',' :: (amountChars g size ++ [']'])))

def payoutChars (form : Form) (amountOut : Literal) : List Char :=
  stringChars "amountOut" ++ ':' :: (amountChars form amountOut ++ ['\x7d'])

/-- A settlement, which may name the auction that it is of. -/
def settlementText (auctionId : Option String) (form : Form) (amountOut : Literal) : String :=
  match auctionId with
  | none => String.ofList ('\x7b' :: payoutChars form amountOut)
  | some id =>
    String.ofList ('\x7b' :: (stringChars "auctionId" ++
      ':' :: (stringChars id ++ ',' :: payoutChars form amountOut)))

/-! Reading either form -/

theorem escapeChar_digit {c : Char} (h : c.isDigit) : Json.escapeChar c = [c] := by
  unfold Json.escapeChar
  split
  case h_8 =>
    have : ¬c.toNat < 0x20 := by
      have hrange : 48 ≤ c.toNat ∧ c.toNat ≤ 57 := by
        simpa [Char.isDigit, UInt32.le_iff_toNat_le] using h
      omega
    rw [if_neg this]
  all_goals simp at h

/-- Nothing in a literal is escaped. -/
theorem escaped_chars (l : Literal) : l.chars.flatMap Json.escapeChar = l.chars := by
  have hsigns : ['-', '+', '.', 'e', 'E'].all (fun c => Json.escapeChar c == [c]) = true := by
    decide
  have hchars : ∀ c ∈ l.chars, Json.escapeChar c = [c] := fun c hc =>
    (Literal.mem_chars hc).elim (fun hc => beq_iff_eq.mp (List.all_eq_true.mp hsigns c hc))
      escapeChar_digit
  rw [List.flatMap_congr hchars, List.flatMap_singleton']

/-- The tree of an amount. -/
def amountNode (form : Form) (l : Literal) : Node :=
  match form with
  | .bare => .number (numeral l).value
  | .quoted => .string (some l.text)

theorem chars_eq_cons (l : Literal) :
    ∃ c cs, l.chars = c :: cs ∧ isSpace c = false ∧ c ≠ ']' := by
  rw [Literal.chars]
  split
  · exact ⟨'-', _, rfl, by decide, by decide⟩
  · obtain ⟨c, cs, hcons, hc⟩ := l.mantissa_eq_cons
    refine ⟨c, cs ++ l.exponentChars, by rw [hcons, List.cons_append], isSpace_of_isDigit hc, ?_⟩
    rintro rfl
    simp at hc

theorem amountChars_eq_cons (form : Form) (l : Literal) :
    ∃ c cs, amountChars form l = c :: cs ∧ isSpace c = false ∧ c ≠ ']' := by
  cases form with
  | bare => exact chars_eq_cons l
  | quoted => exact ⟨'"', _, rfl, by decide, by decide⟩

theorem readValue_amount (form : Form) (l : Literal) (hfuel : (amountChars form l).length < fuel)
    (h : Ends rest) :
    readValue fuel (amountChars form l ++ rest) = ⟨amountNode form l, some rest⟩ := by
  obtain ⟨fuel, rfl⟩ := Nat.exists_eq_add_one_of_ne_zero (Nat.ne_zero_of_lt hfuel)
  cases form with
  | bare => exact readValue_literal l fuel h
  | quoted =>
    simp only [amountChars, List.length_cons, List.length_append, List.length_nil] at hfuel
    have hstring := readString_stringChars (by omega : l.chars.length < fuel) rest
    rw [escaped_chars] at hstring
    have hchars : amountChars .quoted l ++ rest = '"' :: (l.chars ++ '"' :: rest) := by
      simp [amountChars]
    rw [hchars, readValue, skipSpaces_cons (by decide)]
    simp only [hstring, Option.map_some]
    rfl

theorem readDocument_level (f g : Form) (p s : Literal) :
    readDocument (levelText f g p s) =
      ⟨.array [amountNode f p, amountNode g s] none, true⟩ := by
  obtain ⟨fuel, hfuel⟩ : ∃ fuel, fuel = 2 * (levelText f g p s).toList.length - 1 := ⟨_, rfl⟩
  have hlength : (levelText f g p s).toList.length =
      (amountChars f p).length + (amountChars g s).length + 3 := by
    simp only [levelText, String.toList_ofList, List.length_cons, List.length_append,
      List.length_nil]
    omega
  have hstart : 2 * (levelText f g p s).toList.length + 2 = fuel + 3 := by omega
  have hprice := @readValue_amount (fuel + 1) (',' :: (amountChars g s ++ [']'])) f p (by omega)
    (.inl rfl)
  have hsize := @readValue_amount fuel [']'] g s (by omega) (.inr (.inl rfl))
  have hcontinue : readContinuation ']' (',' :: (amountChars g s ++ [']'])) =
      .another (amountChars g s ++ [']']) := by
    obtain ⟨c, cs, hcons, hspace, -⟩ := amountChars_eq_cons g s
    rw [hcons]
    exact readContinuation_comma ']' _ hspace
  have hitems : readItems (fuel + 2) (amountChars f p ++ ',' :: (amountChars g s ++ [']'])) =
      ([amountNode f p, amountNode g s], none, some []) := by
    rw [readItems, hprice]
    simp only [hcontinue]
    rw [readItems, hsize]
    rfl
  obtain ⟨c, cs, hcons, hspace, hc⟩ := amountChars_eq_cons f p
  have hchars : (levelText f g p s).toList =
      '[' :: c :: (cs ++ ',' :: (amountChars g s ++ [']'])) := by
    rw [levelText, String.toList_ofList, hcons, List.cons_append]
  rw [hcons, List.cons_append] at hitems
  rw [readDocument, readFirst, hstart, hchars, readValue_items _ _ hspace hc, hitems]
  rfl

theorem readMembers_payout (form : Form) (l : Literal)
    (hfuel : (payoutChars form l).length < fuel) :
    readMembers fuel (payoutChars form l) =
      ([(some "amountOut", amountNode form l)], none, some []) := by
  obtain ⟨fuel, rfl⟩ := Nat.exists_eq_add_one_of_ne_zero (Nat.ne_zero_of_lt hfuel)
  simp only [payoutChars, List.length_append, List.length_cons, List.length_nil] at hfuel
  have hkey := readString_string "amountOut" fuel (by omega)
    (':' :: (amountChars form l ++ ['\x7d']))
  have hvalue := @readValue_amount fuel ['\x7d'] form l (by omega) (.inr (.inr rfl))
  have hchars : payoutChars form l =
      '"' :: ("amountOut".toList.flatMap Json.escapeChar ++
        '"' :: ':' :: (amountChars form l ++ ['\x7d'])) := by
    simp [payoutChars, stringChars]
  rw [hchars, readMembers]
  simp only [hkey, skipSpaces_cons (c := ':') (by decide), hvalue, Option.map_some,
    String.ofList_toList]
  rfl

/-- The value of a settlement. -/
def settlementJson (auctionId : Option String) (amountOut : Json) : Json :=
  match auctionId with
  | none => .object [("amountOut", amountOut)]
  | some id => .object [("auctionId", .string id), ("amountOut", amountOut)]

theorem readDocument_settlement (auctionId : Option String) (hnode : amountNode form l = node j) :
    readDocument (settlementText auctionId form l) =
      ⟨node (settlementJson auctionId j), true⟩ := by
  cases auctionId with
  | none =>
    have hchars : (settlementText none form l).toList = '\x7b' :: payoutChars form l :=
      String.toList_ofList
    obtain ⟨cs, hcons⟩ : ∃ cs, payoutChars form l = '"' :: cs := ⟨_, rfl⟩
    have hmembers := @readMembers_payout (2 * (payoutChars form l).length + 3) form l (by omega)
    rw [hnode] at hmembers
    rw [readDocument, readFirst, hchars, List.length_cons, mul_add, hcons, readValue_members,
      ← hcons, hmembers]
    rfl
  | some id =>
    obtain ⟨length, hlength⟩ : ∃ length,
        length = (payoutChars form l).length + (stringChars id).length := ⟨_, rfl⟩
    have hkeyLength : (stringChars "auctionId").length = 11 := rfl
    have hkey := readString_string "auctionId" (2 * length + 28) (by omega)
      (':' :: (stringChars id ++ ',' :: payoutChars form l))
    have hid := readValue_chars (.string id) trivial (2 * length + 28) (',' :: payoutChars form l)
      (by rw [chars]; omega) (.inl rfl)
    have hpayout := @readMembers_payout (2 * length + 28) form l (by omega)
    have hcontinue : readContinuation '\x7d' (',' :: payoutChars form l) =
        .another (payoutChars form l) := readContinuation_comma '\x7d' _ (by decide)
    have hchars : (settlementText (some id) form l).toList = '\x7b' :: '"' ::
        ("auctionId".toList.flatMap Json.escapeChar ++
          '"' :: ':' :: (stringChars id ++ ',' :: payoutChars form l)) := by
      rw [settlementText, String.toList_ofList]
      simp [stringChars]
    have hfuel : 2 * (settlementText (some id) form l).toList.length + 2 = 2 * length + 30 := by
      simp only [settlementText, String.toList_ofList, List.length_cons, List.length_append]
      omega
    rw [hnode] at hpayout
    rw [chars] at hid
    rw [readDocument, readFirst, hfuel, hchars, readValue_members, readMembers]
    simp only [hkey, skipSpaces_cons (c := ':') (by decide), hid, hcontinue, hpayout,
      Option.map_some, String.ofList_toList]
    rfl

/-! Decoding either form -/

/-- A value that can be an amount, and the text that is taken for it. -/
inductive Amount : Json → String → Prop
  | number (n : Number) : Amount (.number n) n.text
  | string (s : String) : Amount (.string s) s

theorem Amount.nesting_eq (h : Amount j text) : nesting j = 0 := by cases h <;> rfl

/-- In either form a faithful literal stands for a text of its number. -/
theorem amountNode_faithful (h : l.Faithful) (form : Form) :
    ∃ value text, amountNode form l = node value ∧ Amount value text ∧ Reads text l.value := by
  cases form with
  | bare =>
    obtain ⟨n, hn, l', hfits, htext, hvalue⟩ := value_kept h.kept h.held
    refine ⟨.number n, n.text, ?_, .number n, ?_⟩
    · rw [amountNode, hn, node]
    · rw [htext, ← hvalue]
      exact Literal.reads_text hfits
  | quoted => exact ⟨.string l.text, l.text, rfl, .string l.text, Literal.reads_text h.fits⟩

/-- What a text is decoded to, whether on the spot or after the value in it has been parsed. -/
def Decodes (decode : Decoder α) (text : String) (a : α) : Prop :=
  decodeText decode text = .ok a ∧
    ∃ value, Json.parse text = .ok value ∧ decodeValue decode value = .ok a

theorem Decodes.of_document {decode : Decoder α} {a : α}
    (hread : readDocument text = ⟨node j, true⟩) (hnesting : nesting j < depthLimit)
    (htext : decode .text depthLimit (node j) = .ok a)
    (hvalue : decode .value depthLimit (node (sorted j)) = .ok a) : Decodes decode text a := by
  refine ⟨?_, sorted j, ?_, hvalue⟩
  · rw [decodeText, hread, htext]
    rfl
  · rw [Json.parse, hread, value_node j hnesting]
    rfl

theorem decodeLevel_amounts {price size : Json} {priceText sizeText : String}
    (hprice : Amount price priceText) (hsize : Amount size sizeText) :
    sorted (.array [price, size]) = .array [price, size] ∧
      ∀ source, decodeLevel source depthLimit (node (.array [price, size])) =
        .ok ⟨priceText, sizeText⟩ := by
  cases hprice <;> cases hsize <;> exact ⟨rfl, fun _ => rfl⟩

/-- Both amounts of a level are decoded to texts of their numbers, each in its own form. -/
theorem decodes_level (hp : p.Faithful) (hs : s.Faithful) (f g : Form) :
    ∃ level, Decodes decodeLevel (levelText f g p s) level ∧
      Reads level.price p.value ∧ Reads level.size s.value := by
  obtain ⟨price, priceText, hpriceNode, hprice, hpriceReads⟩ := amountNode_faithful hp f
  obtain ⟨size, sizeText, hsizeNode, hsize, hsizeReads⟩ := amountNode_faithful hs g
  have hread : readDocument (levelText f g p s) = ⟨node (.array [price, size]), true⟩ := by
    rw [readDocument_level, hpriceNode, hsizeNode]
    rfl
  have hnesting : nesting (.array [price, size]) < depthLimit := by
    simp only [nesting, itemsNesting, hprice.nesting_eq, hsize.nesting_eq]
    decide
  obtain ⟨hsorted, hdecode⟩ := decodeLevel_amounts hprice hsize
  exact ⟨⟨priceText, sizeText⟩,
    .of_document hread hnesting (hdecode .text) (hsorted.symm ▸ hdecode .value),
    hpriceReads, hsizeReads⟩

theorem decodeSettlement_amount (auctionId : Option String) (h : Amount j text) (source : Source) :
    decodeSettlement source depthLimit (node (settlementJson auctionId j)) =
        .ok ⟨auctionId, text⟩ ∧
      decodeSettlement source depthLimit (node (sorted (settlementJson auctionId j))) =
        .ok ⟨auctionId, text⟩ := by
  cases auctionId <;> cases h <;> exact ⟨rfl, rfl⟩

/-- The payout of a settlement is decoded to a text of its number. -/
theorem decodes_settlement (h : l.Faithful) (auctionId : Option String) (form : Form) :
    ∃ amountOut, Decodes decodeSettlement (settlementText auctionId form l)
        ⟨auctionId, amountOut⟩ ∧
      Reads amountOut l.value := by
  obtain ⟨value, amountOut, hnode, hamount, hreads⟩ := amountNode_faithful h form
  have hnesting : nesting (settlementJson auctionId value) < depthLimit := by
    cases auctionId <;>
      simp only [settlementJson, nesting, membersNesting, hamount.nesting_eq] <;> decide
  exact ⟨amountOut,
    .of_document (readDocument_settlement auctionId hnode) hnesting
      (decodeSettlement_amount auctionId hamount .text).1
      (decodeSettlement_amount auctionId hamount .value).2,
    hreads⟩

/-! Totals and verdicts -/

/-- A level that is decoded from these literals, each in one of the forms. -/
def DecodedFrom (literals : Literal × Literal) (level : Level) : Prop :=
  ∃ f g, Decodes decodeLevel (levelText f g literals.1 literals.2) level

/-- All of the literals of a side are faithful. -/
def FaithfulSide (side : List (Literal × Literal)) : Prop :=
  ∀ literals ∈ side, literals.1.Faithful ∧ literals.2.Faithful

theorem DecodedFrom.reads {literals : Literal × Literal} {level : Level}
    (h : DecodedFrom literals level) (hfaithful : literals.1.Faithful ∧ literals.2.Faithful) :
    Reads level.price literals.1.value ∧ Reads level.size literals.2.value := by
  obtain ⟨f, g, hdecode, -⟩ := h
  obtain ⟨level', ⟨hdecode', -⟩, hreads⟩ := decodes_level hfaithful.1 hfaithful.2 f g
  rwa [Except.ok.inj (hdecode.symm.trans hdecode')]

theorem DecodedFrom.of_text {level : Level} (hp : p.Faithful) (hs : s.Faithful)
    (h : decodeText decodeLevel (levelText f g p s) = .ok level) : DecodedFrom (p, s) level := by
  obtain ⟨level', hdecodes, -⟩ := decodes_level hp hs f g
  obtain rfl : level' = level := Except.ok.inj (hdecodes.1.symm.trans h)
  exact ⟨f, g, hdecodes⟩

/-- Two sides that are decoded from the same literals name the same numbers. -/
theorem alike_of_decodedFrom {side : List (Literal × Literal)} {levels levels' : List Level}
    (hfaithful : FaithfulSide side) (h : List.Forall₂ DecodedFrom side levels)
    (h' : List.Forall₂ DecodedFrom side levels') : List.Forall₂ Level.Alike levels levels' := by
  induction h generalizing levels' with
  | nil =>
    cases h'
    exact .nil
  | cons hlevel _ ih =>
    cases h' with
    | cons hlevel' hlevels' =>
      have hhead := hfaithful _ List.mem_cons_self
      obtain ⟨hprice, hsize⟩ := hlevel.reads hhead
      obtain ⟨hprice', hsize'⟩ := hlevel'.reads hhead
      refine .cons ⟨.inr ⟨_, hprice, hprice'⟩, .inr ⟨_, hsize, hsize'⟩⟩ (ih ?_ hlevels')
      exact fun literals hliterals => hfaithful literals (List.mem_cons_of_mem _ hliterals)

/-- Faithful amounts mean the same bare and in quotes: either way they are decoded to a text of
their number, so that the totals of a side do not depend on the forms of its amounts. Nor do the
verdicts of an audit, whatever two venues write for the same numbers. -/
theorem forms_agree {side : List (Literal × Literal)} {payout : Literal}
    (hside : FaithfulSide side) (hpayout : payout.Faithful) :
    (∀ literals ∈ side, ∀ f g : Form,
      ∃ level, Decodes decodeLevel (levelText f g literals.1 literals.2) level ∧
        Reads level.price literals.1.value ∧ Reads level.size literals.2.value) ∧
    (∀ (auctionId : Option String) (form : Form),
      ∃ amountOut, Decodes decodeSettlement (settlementText auctionId form payout)
          ⟨auctionId, amountOut⟩ ∧
        Reads amountOut payout.value) ∧
    (∀ {levels levels' : List Level},
      List.Forall₂ DecodedFrom side levels → List.Forall₂ DecodedFrom side levels' →
      Both LevelError.Alike Liquidity.Same (Liquidity.ofLevels levels)
        (Liquidity.ofLevels levels')) ∧
    ∀ {σ : Type} {venue venue' : Venue σ}, venue.Alike venue' → ∀ symbol : String,
      (∀ (scenario : Scenario) (id : Uuid),
        Guarded.Alike (fun report report' => report.verdict = report'.verdict)
          (scenario.run venue symbol id) (scenario.run venue' symbol id)) ∧
      ∀ idFor : Scenario → Uuid,
        Guarded.Alike
          (fun audit audit' => audit.reports.map Report.verdict =
            audit'.reports.map Report.verdict)
          (Audit.run venue symbol idFor) (Audit.run venue' symbol idFor) := by
  refine ⟨fun literals hliterals => ?_, decodes_settlement hpayout, fun h h' => ?_,
    fun h symbol => ⟨Scenario.run_alike h symbol, Audit.run_alike h symbol⟩⟩
  · exact decodes_level (hside literals hliterals).1 (hside literals hliterals).2
  · exact Liquidity.ofLevels_alike (alike_of_decodedFrom hside h h')

def two : Literal := wholeLiteral 2

/-- The number 60.50, of which a double does not keep the last zero. -/
def sixtyHalf : Literal :=
  ⟨false, ['6', '0'], ['5', '0'], none, by decide, List.all_eq_true.mp rfl, by decide,
    List.all_eq_true.mp rfl⟩

theorem faithful_two : two.Faithful :=
  have hplain : Plain two := plain_wholeLiteral ⟨by decide, by decide⟩
  ⟨hplain.fits.representable, .inl hplain⟩

theorem faithful_sixtyHalf : sixtyHalf.Faithful :=
  ⟨@Literal.representable_value sixtyHalf 2 (by decide) (by decide) (by decide),
    .inr ⟨by decide, by decide, by decide, by decide, by decide⟩⟩

/-- A venue with one ask, of this size at 2, which pays so much for any auction. -/
def asking (size amountOut : String) : Venue Unit where
  depth := fun _ => pure (.ok ⟨[⟨"2", size⟩], []⟩)
  placeOrder := fun _ => pure (.ok "order")
  cancelAll := pure (.ok ())
  beginAuction := fun _ => pure (.ok ⟨none, amountOut⟩)
  abortAuction := fun _ => pure (.ok ())

/-- An ask of 60.50 at 2 and the payout for it, bare and in quotes. -/
theorem forms_agree_sixtyHalf :
    (∃ level, Decodes decodeLevel (levelText .bare .quoted two sixtyHalf) level ∧
      Reads level.price two.value ∧ Reads level.size sixtyHalf.value) ∧
    (∃ amountOut, Decodes decodeSettlement (settlementText (some "7") .bare sixtyHalf)
        ⟨some "7", amountOut⟩ ∧
      Reads amountOut sixtyHalf.value) ∧
    Both LevelError.Alike Liquidity.Same (Liquidity.ofLevels [⟨"2", "60.5"⟩])
      (Liquidity.ofLevels [⟨"2", "60.50"⟩]) ∧
    Guarded.Alike (fun report report' => report.verdict = report'.verdict)
      (Scenario.run (asking "60.5" "60.5") "A" ⟨.buy, false⟩ ⟨0⟩)
      (Scenario.run (asking "60.50" "60.50") "A" ⟨.buy, false⟩ ⟨0⟩) := by
  have hfaithful : FaithfulSide [(two, sixtyHalf)] :=
    List.forall_mem_singleton.mpr ⟨faithful_two, faithful_sixtyHalf⟩
  obtain ⟨hlevel, hsettlement, htotals, hverdicts⟩ := forms_agree hfaithful faithful_sixtyHalf
  have hbare : DecodedFrom (two, sixtyHalf) ⟨"2", "60.5"⟩ :=
    .of_text (f := .bare) (g := .bare) faithful_two faithful_sixtyHalf (by decide +kernel)
  have hquoted : DecodedFrom (two, sixtyHalf) ⟨"2", "60.50"⟩ :=
    .of_text (f := .quoted) (g := .quoted) faithful_two faithful_sixtyHalf (by decide +kernel)
  have hside := List.Forall₂.cons hbare .nil
  have hside' := List.Forall₂.cons hquoted .nil
  have hsize := (hbare.reads ⟨faithful_two, faithful_sixtyHalf⟩).2
  have hsize' := (hquoted.reads ⟨faithful_two, faithful_sixtyHalf⟩).2
  have hvenues : (asking "60.5" "60.5").Alike (asking "60.50" "60.50") :=
    ⟨fun _ _ => ⟨.ok ⟨alike_of_decodedFrom hfaithful hside hside', .nil⟩, rfl⟩,
      fun _ _ => ⟨.ok ⟨rfl, .inr ⟨_, hsize, hsize'⟩⟩, rfl⟩, fun _ _ => rfl⟩
  exact ⟨hlevel (two, sixtyHalf) List.mem_cons_self .bare .quoted, hsettlement (some "7") .bare,
    htotals hside hside', (hverdicts hvenues "A").1 ⟨.buy, false⟩ ⟨0⟩⟩

/-- The number 1 + 10⁻¹⁸, which has too many digits for a double. -/
def oneAndLittle : Literal :=
  ⟨false, ['1'], "000000000000000001".toList, none, by decide, List.all_eq_true.mp rfl, by decide,
    List.all_eq_true.mp rfl⟩

/-- In quotes the number is kept, and bare its last digit is lost, although a decimal holds it. -/
theorem forms_differ :
    Representable oneAndLittle.value ∧
    decodeText decodeLevel (levelText .quoted .bare two oneAndLittle) = .ok ⟨"2", "1.0"⟩ ∧
    decodeText decodeLevel (levelText .quoted .quoted two oneAndLittle) =
      .ok ⟨"2", "1.000000000000000001"⟩ ∧
    ¬Decimal.Alike "1.0" "1.000000000000000001" := by
  refine ⟨@Literal.representable_value oneAndLittle 18 (by decide) (by decide) (by decide),
    by decide +kernel, by decide +kernel, ?_⟩
  rintro (heq | ⟨q, ⟨-, x, hx, hvalue⟩, -, y, hy, hvalue'⟩)
  · exact absurd heq (by decide)
  · have hdiffer : (do
        let x ← Decimal.parse "1.0"
        let y ← Decimal.parse "1.000000000000000001"
        return decide (x.Same y)) = .ok false := by
      decide +kernel
    rw [hx, hy] at hdiffer
    exact of_decide_eq_false (Except.ok.inj hdiffer) (same_iff.mpr (hvalue.trans hvalue'.symm))

end Wire

end SweepAudit
