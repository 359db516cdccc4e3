import Mathlib.Data.Nat.Digits.Defs
import SweepAudit.Ladder
import SweepAudit.Proofs.Client.Hosted

/-!
The bodies that a client sends. Numbers and ids are short, so a body is as long as the symbol
in it, with its escapes. A symbol that an address can hold leaves it short enough to be read.
-/

namespace SweepAudit

open Http String

namespace Json

theorem utf8Len_escapeChar (c : Char) : utf8Len (escapeChar c) ≤ 6 * c.utf8Size := by
  have hpos := c.utf8Size_pos
  have hdigit : ∀ n < 16, (Nat.digitChar n).utf8Size = 1 := by decide
  have hplaces (n : Nat) : utf8Len (Text.hexPlaces n 4) = 4 := by
    have hmod (m : Nat) := hdigit (m % 16) (Nat.mod_lt m (by decide))
    simp [Text.hexPlaces, hmod]
  have hsmall (d : Char) (hd : utf8Len [d] = 1) : utf8Len ['\\', d] ≤ 6 * c.utf8Size := by
    have hslash : utf8Len ['\\'] = 1 := by decide
    rw [← List.singleton_append, utf8Len_append]
    omega
  unfold escapeChar
  split
  case h_8 =>
    split
    · have hlead : utf8Len ['\\', 'u'] = 2 := by decide
      rw [utf8Len_append, hplaces, hlead]
      omega
    · rw [utf8Len_cons, utf8Len_nil]
      omega
  all_goals exact hsmall _ (by decide)

theorem utf8Len_stringChars (s : String) : utf8Len (stringChars s) ≤ 6 * s.utf8ByteSize + 2 := by
  have hescaped (cs : List Char) : utf8Len (cs.flatMap escapeChar) ≤ 6 * utf8Len cs := by
    induction cs with
    | nil => exact Nat.le_refl _
    | cons c cs ih =>
      have := utf8Len_escapeChar c
      rw [List.flatMap_cons, utf8Len_append, utf8Len_cons]
      omega
  have hquote : Char.utf8Size '"' = 1 := by decide
  have hs : s.utf8ByteSize = utf8Len s.toList := by rw [← utf8ByteSize_ofList, ofList_toList]
  have := hescaped s.toList
  simp only [stringChars, utf8Len_cons, utf8Len_append, utf8Len_nil, hquote]
  omega

theorem le_utf8Len_stringChars (s : String) : s.utf8ByteSize ≤ utf8Len (stringChars s) := by
  have hescape (c : Char) : c.utf8Size ≤ utf8Len (escapeChar c) := by
    unfold escapeChar
    split
    case h_8 =>
      have hsize := c.utf8Size_le_four
      split
      · have hlength := length_le_utf8ByteSize (['\\', 'u'] ++ Text.hexPlaces c.toNat 4)
        rw [utf8ByteSize_ofList, List.length_append, Text.length_hexPlaces] at hlength
        exact hsize.trans ((by decide : 4 ≤ 6).trans hlength)
      · rw [utf8Len_cons, utf8Len_nil]
        omega
    all_goals decide
  have hescaped (cs : List Char) : utf8Len cs ≤ utf8Len (cs.flatMap escapeChar) := by
    induction cs with
    | nil => exact Nat.le_refl _
    | cons c cs ih =>
      have := hescape c
      rw [List.flatMap_cons, utf8Len_append, utf8Len_cons]
      omega
  have hs : s.utf8ByteSize = utf8Len s.toList := by rw [← utf8ByteSize_ofList, ofList_toList]
  have := hescaped s.toList
  simp only [stringChars, utf8Len_cons, utf8Len_append]
  omega

end Json

namespace Decimal

theorem length_canonical (x : Decimal) : x.canonical.toList.length ≤ 31 := by
  have hpadded (coefficient scale : Nat) (hc : coefficient < twoTo 96) (hs : scale ≤ 28) :
      (paddedDigits coefficient scale).length ≤ 29 := by
    have hdigits := Nat.toDigits_length 10 coefficient 29 (by decide)
      (Nat.lt_trans hc (by decide))
    simp only [paddedDigits, List.length_append, List.length_replicate]
    omega
  have hpointed (digits : List Char) (scale : Nat) :
      (pointed digits scale).length ≤ digits.length + 1 := by
    rw [pointed]
    split
    · omega
    · simp only [List.length_append, List.length_cons, List.length_take, List.length_drop]
      omega
  have hnormal := hpadded _ _ x.normalize.coefficient_lt x.normalize.scale_le
  have := hpointed (paddedDigits x.normalize.coefficient x.normalize.scale) x.normalize.scale
  rw [canonical, display, toList_ofList, displayChars]
  split
  · rw [List.length_cons]
    omega
  · omega

end Decimal

theorem length_clientOrderId {n : Nat} (h : n < 16 ^ 9) : (clientOrderId n).toList.length ≤ 37 := by
  have hdigits := Nat.toDigits_length 16 n 9 (by decide) h
  have hword : "-0000-0000-0000-".toList.length = 16 := rfl
  simp only [clientOrderId, toList_ofList, List.length_append, hword, Text.hexPadded,
    List.length_replicate]
  omega

namespace Client

variable {client : Client} {presented : Presented} {symbol : String}

theorem orderText_fits {order : Order} (hsymbol : order.symbol.utf8ByteSize ≤ 2 * Url.maxLength)
    {n : Nat} (hn : n < 16 ^ 9) (hid : order.clientOrderId = clientOrderId n) :
    (orderText order).utf8ByteSize ≤ bodyLimit := by
  have hprice := Json.utf8Len_stringChars order.price.canonical
  have hsize := Json.utf8Len_stringChars order.size.canonical
  have hside := Json.utf8Len_stringChars order.side.orderWord
  have hname := Json.utf8Len_stringChars order.symbol
  have hnumber := Json.utf8Len_stringChars order.clientOrderId
  have hp := (Text.utf8ByteSize_le order.price.canonical).trans
    (Nat.mul_le_mul_left 4 order.price.length_canonical)
  have hq := (Text.utf8ByteSize_le order.size.canonical).trans
    (Nat.mul_le_mul_left 4 order.size.length_canonical)
  have hi := (Text.utf8ByteSize_le order.clientOrderId).trans
    (Nat.mul_le_mul_left 4 (hid ▸ length_clientOrderId hn))
  have hw : order.side.orderWord.utf8ByteSize ≤ 4 := by cases order.side <;> decide
  have hkeys : utf8Len (Json.stringChars "price") = 7 ∧ utf8Len (Json.stringChars "size") = 6 ∧
      utf8Len (Json.stringChars "side") = 6 ∧ utf8Len (Json.stringChars "symbol") = 8 ∧
      utf8Len (Json.stringChars "ClientOrderId") = 15 := by decide
  have hmarks : Char.utf8Size ':' = 1 ∧ Char.utf8Size ',' = 1 ∧ Char.utf8Size '\x7b' = 1 ∧
      Char.utf8Size '\x7d' = 1 := by decide
  rw [orderText, Json.text, utf8ByteSize_ofList]
  simp only [Wire.encodeOrderBody, orderBody, Json.chars, Json.memberChars, utf8Len_cons,
    utf8Len_append, utf8Len_nil, hkeys, hmarks, bodyLimit, Url.maxLength] at *
  omega

theorem symbol_le_orderText (order : Order) :
    order.symbol.utf8ByteSize ≤ (orderText order).utf8ByteSize := by
  have hname := Json.le_utf8Len_stringChars order.symbol
  rw [orderText, Json.text, utf8ByteSize_ofList]
  simp only [Wire.encodeOrderBody, orderBody, Json.chars, Json.memberChars, utf8Len_cons,
    utf8Len_append]
  omega

theorem auctionText_fits {request : AuctionRequest} {amount : Decimal}
    (hsymbol : request.symbol.utf8ByteSize ≤ Url.maxLength)
    (hamount : request.amountIn = amount.canonical) :
    (auctionText request).utf8ByteSize ≤ bodyLimit := by
  have hsize := Json.utf8Len_stringChars request.amountIn
  have hname := Json.utf8Len_stringChars request.symbol
  have hside := Json.utf8Len_stringChars request.side.auctionWord
  have ha := (Text.utf8ByteSize_le request.amountIn).trans
    (Nat.mul_le_mul_left 4 (hamount ▸ amount.length_canonical))
  have hw : request.side.auctionWord.utf8ByteSize ≤ 4 := by cases request.side <;> decide
  have hkeys : utf8Len (Json.stringChars "amountIn") = 10 ∧
      utf8Len (Json.stringChars "symbol") = 8 ∧ utf8Len (Json.stringChars "side") = 6 := by decide
  have hmarks : Char.utf8Size ':' = 1 ∧ Char.utf8Size ',' = 1 ∧ Char.utf8Size '\x7b' = 1 ∧
      Char.utf8Size '\x7d' = 1 := by decide
  rw [auctionText, Json.text, utf8ByteSize_ofList]
  simp only [Wire.encodeAuctionBody, auctionBody, Json.chars, Json.memberChars, utf8Len_cons,
    utf8Len_append, utf8Len_nil, hkeys, hmarks, bodyLimit, Url.maxLength] at *
  omega

/-! The symbol in an address -/

theorem sublist_behindAuthority (cs : List Char) : (Target.behindAuthority cs).Sublist cs := by
  unfold Target.behindAuthority
  split
  · rename_i rest hdrop
    have hrest : rest.Sublist cs := by
      have hwhole := List.dropWhile_sublist (l := cs) Target.isSchemeChar
      rw [hdrop] at hwhole
      exact (((List.sublist_cons_self _ _).trans (List.sublist_cons_self _ _)).trans
        (List.sublist_cons_self _ _)).trans hwhole
    split
    · exact List.Sublist.refl _
    · rename_i behind hspan
      rw [List.span_eq_takeWhile_dropWhile] at hspan
      obtain ⟨-, rfl⟩ := Prod.mk.inj hspan
      exact (List.dropWhile_sublist _).trans hrest
  · exact List.Sublist.refl _

/-- A parameter of a path is a part of the target. -/
theorem sublist_of_depth {target : String} {segment : List Char}
    (h : Resource.ofTarget? (Target.ofText target) = some (.depth segment)) :
    segment.Sublist target.toList := by
  have hmem := List.mem_of_getLast? (Resource.getLast?_of_depth h).1
  exact (((Text.sublist_of_mem_splitBy hmem).trans (Text.cutBy_isPrefix _ _).sublist).trans
    (Text.cutBy_isPrefix _ _).sublist).trans (sublist_behindAuthority _)

theorem utf8ByteSize_target_le (url : Url) : url.target.utf8ByteSize ≤ url.text.utf8ByteSize := by
  rw [Url.target, Url.text, utf8ByteSize_ofList, utf8ByteSize_ofList]
  simp only [utf8Len_append, utf8Len_cons]
  omega

theorem utf8ByteSize_asked_le {url asked : Url} (h : url.asked = .ok asked) :
    asked.text.utf8ByteSize ≤ Url.maxLength := by
  rw [Url.asked] at h
  split at h
  · cases h
  · split at h
    · cases h
    · rename_i hsendable
      cases h
      rw [Bool.not_eq_true', Bool.not_eq_false, Url.isSendable, Bool.and_eq_true,
        decide_eq_true_eq] at hsendable
      exact hsendable.1

/-- The depth can be asked for only if the symbol fits an address. -/
theorem Reaches.utf8ByteSize_le (h : client.Reaches presented symbol) :
    symbol.utf8ByteSize ≤ Url.maxLength := by
  obtain ⟨segment, hsegment, url, asked, -, hasked, hresource, -⟩ := h.leads
  calc symbol.utf8ByteSize = utf8Len symbol.toList := by rw [← utf8ByteSize_ofList, ofList_toList]
    _ ≤ utf8Len segment := Text.utf8Len_percentDecode? hsegment
    _ ≤ utf8Len asked.target.toList := utf8Len_le_of_sublist (sublist_of_depth hresource)
    _ = asked.target.utf8ByteSize := by rw [← utf8ByteSize_ofList, ofList_toList]
    _ ≤ asked.text.utf8ByteSize := utf8ByteSize_target_le asked
    _ ≤ Url.maxLength := utf8ByteSize_asked_le hasked

end Client

end SweepAudit
