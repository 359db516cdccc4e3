import SweepAudit.Exchange.Service
import SweepAudit.Proofs.Http.Target
import SweepAudit.Proofs.Uuid

/-!
What an exchange makes of well-formed requests whose credentials it accepts. Each is routed
to its resource, its body is decoded to what was encoded, and the answer is what the book
of the symbol has to say.
-/

namespace SweepAudit

open Http

/-! Where the addresses lead -/

namespace Resource

/-- The segments of the path that leads to a resource. -/
def segments : Resource → List (List Char)
  | depth symbol => ["api".toList, "v1".toList, "orderbook".toList, symbol]
  | order => ["api".toList, "v1".toList, "order".toList]
  | orders => ["api".toList, "v1".toList, "orders".toList]
  | beginAuction id => ["lh".toList, "v1".toList, "begin_auction".toList, id]
  | abortAuction id => ["lh".toList, "v1".toList, "abort_auction".toList, id]

def target (resource : Resource) (query : List Char) : Target :=
  ⟨resource.segments.flatMap ('/' :: ·), query⟩

/-- The parameter in the path, if there is one, is kept as it is. -/
def IsQuiet : Resource → Prop
  | depth segment | beginAuction segment | abortAuction segment => Quiet segment
  | order | orders => True

theorem segments_ne_nil (resource : Resource) : resource.segments ≠ [] := by
  cases resource <;> exact List.cons_ne_nil _ _

theorem quiet_segments {resource : Resource} (h : resource.IsQuiet) :
    ∀ segment ∈ resource.segments, Quiet segment := by
  have hwords : ["api", "v1", "orderbook", "order", "orders", "lh", "begin_auction",
      "abort_auction"].all (fun word => decide (Quiet word.toList)) = true := rfl
  simp only [List.all_cons, Bool.and_eq_true, decide_eq_true_eq] at hwords
  cases resource <;> simp_all [segments, IsQuiet]

/-- The parts of an address that are found again: none is empty or is broken up. -/
def IsWhole (resource : Resource) : Prop :=
  ∀ segment ∈ resource.segments, segment ≠ [] ∧ Unbroken segment

theorem IsQuiet.isWhole {resource : Resource} (h : resource.IsQuiet) : resource.IsWhole :=
  fun segment hs => ⟨(quiet_segments h segment hs).1, (quiet_segments h segment hs).unbroken⟩

theorem parameter_ofList {segment : List Char} (h : segment ≠ []) :
    ofTarget?.parameter? (String.ofList segment) = some segment := by
  have hne : ¬(String.ofList segment).isEmpty = true := by
    rw [String.isEmpty_iff]
    intro hempty
    exact h (by simpa using congrArg String.toList hempty)
  rw [ofTarget?.parameter?, if_neg hne, String.toList_ofList]

theorem ofText_target {resource : Resource} (h : resource.IsWhole) {query : Option (List Char)}
    (hquery : ∀ q ∈ query, ∀ c ∈ q, c ≠ '#') :
    Target.ofText (String.ofList (pathAndQuery resource.segments query)) =
      resource.target (query.getD []) :=
  ofText_pathAndQuery resource.segments_ne_nil (fun segment hs => (h segment hs).2) hquery

/-- A resource is found where its address leads. -/
theorem ofTarget_target {resource : Resource} (h : resource.IsWhole) (query : List Char) :
    ofTarget? (resource.target query) = some resource := by
  have hsegments : (resource.target query).segments = [] :: resource.segments :=
    segments_path resource.segments_ne_nil (fun segment hs => (h segment hs).2) query
  rw [ofTarget?, hsegments]
  cases resource with
  | order | orders => rfl
  | depth segment | beginAuction segment | abortAuction segment =>
    have hne : segment ≠ [] := (h segment (by simp [segments])).1
    simp only [segments, List.map_cons, List.map_nil, String.ofList_toList]
    change (ofTarget?.parameter? (String.ofList segment)).map _ = _
    rw [parameter_ofList hne]
    rfl

/-- The parameter of a path is the last part of it. -/
theorem getLast?_of_depth {target : Target} {segment : List Char}
    (h : ofTarget? target = some (.depth segment)) :
    target.segments.getLast? = some segment ∧ segment ≠ [] := by
  rw [ofTarget?] at h
  split at h
  case h_3 symbol hsegments =>
    obtain ⟨found, hfound, heq⟩ := Option.map_eq_some_iff.mp h
    cases heq
    rw [ofTarget?.parameter?] at hfound
    split at hfound
    · cases hfound
    · rename_i hne
      cases hfound
      have hlast : (target.segments.getLast?).map String.ofList = some symbol := by
        rw [← List.getLast?_map, hsegments]
        rfl
      obtain ⟨part, hpart, rfl⟩ := Option.map_eq_some_iff.mp hlast
      rw [String.toList_ofList]
      refine ⟨hpart, ?_⟩
      rintro rfl
      exact hne rfl
  case h_4 | h_5 =>
    obtain ⟨_, -, heq⟩ := Option.map_eq_some_iff.mp h
    cases heq
  all_goals cases h

end Resource

namespace Exchange

variable {exchange : Exchange} {stamp : Stamp} {request : Request} {presented : Presented}

/-- The exchange once it has accepted a request's credentials. -/
def remember (exchange : Exchange) (presented : Presented) : Exchange :=
  { exchange with lastPresented := some presented }

@[simp] theorem book_remember (symbol : String) :
    (exchange.remember presented).book symbol = exchange.book symbol := rfl

/-- What an admitted request comes to, a refusal being an answer that changes nothing. -/
theorem answer_served (haccess : Presented.ofHeaders request.headers = .ok presented)
    {resource : Resource}
    (hresource : Resource.ofTarget? (Target.ofText request.target) = some resource)
    (hallows : resource.allows request.method = true) :
    exchange.answer stamp request =
      match ((exchange.remember presented).serve stamp request (Target.ofText request.target)
        resource).run with
      | .error o => (.error o, exchange.remember presented)
      | .ok (.error response) =>
        (.ok (if wantsHead request then response.withoutBody else response),
          exchange.remember presented)
      | .ok (.ok (response, exchange')) =>
        (.ok (if wantsHead request then response.withoutBody else response), exchange') := by
  have hroute : (exchange.remember presented).route stamp request =
      (exchange.remember presented).serve stamp request (Target.ofText request.target)
        resource := by
    rw [route]
    simp only [hresource, hallows, if_true]
  rw [answer, haccess, ← hroute]
  rfl

/-- Unless only its head is asked for, the answer is sent as it is. -/
theorem answer_admitted (haccess : Presented.ofHeaders request.headers = .ok presented)
    (hhead : request.method ≠ .head) {resource : Resource}
    (hresource : Resource.ofTarget? (Target.ofText request.target) = some resource)
    (hallows : resource.allows request.method = true) :
    exchange.answer stamp request =
      match ((exchange.remember presented).serve stamp request (Target.ofText request.target)
        resource).run with
      | .error o => (.error o, exchange.remember presented)
      | .ok (.error response) => (.ok response, exchange.remember presented)
      | .ok (.ok (response, exchange')) => (.ok response, exchange') := by
  have hwants : wantsHead request = false := by
    rw [wantsHead, decide_eq_false hhead, Bool.false_and]
  rw [answer_served haccess hresource hallows, hwants]
  rfl

theorem readBody_json {α : Type} {decode : Json.Decoder α} {a : α}
    (hjson : plainHeader? contentType request.headers = some Response.jsonType)
    (hsize : request.body.utf8ByteSize ≤ bodyLimit)
    (hdecode : Json.decodeLeading decode request.body = .ok a) :
    readBody decode request = .ok a := by
  have hmedia : (MediaType.parse? Response.jsonType).map MediaType.isJson = some true := by
    decide
  obtain ⟨media, hparse, hmedia⟩ := Option.map_eq_some_iff.mp hmedia
  rw [readBody, hjson, Option.bind_some, hparse]
  simp only [hmedia, if_true, Nat.not_lt.mpr hsize, if_false, hdecode]

theorem readBody_oversized {α : Type} {decode : Json.Decoder α}
    (hjson : plainHeader? contentType request.headers = some Response.jsonType)
    (hsize : bodyLimit < request.body.utf8ByteSize) :
    readBody decode request = .error .bodySize := by
  have hmedia : (MediaType.parse? Response.jsonType).map MediaType.isJson = some true := by
    decide
  obtain ⟨media, hparse, hmedia⟩ := Option.map_eq_some_iff.mp hmedia
  rw [readBody, hjson, Option.bind_some, hparse]
  simp only [hmedia, if_true, hsize]

/-! What the resources answer -/

theorem readParameter_plain {name : String} {segment : List Char} (h : Quiet segment) :
    readParameter name segment = .ok (String.ofList segment) := by
  rw [readParameter, Text.percentDecode?_of_plain (ne_percent_of_isQuiet h.2)]

theorem readParameter_text (name : String) (id : Uuid) :
    readParameter name id.text.toList = .ok id.text := by
  rw [readParameter_plain id.quiet_text, String.ofList_toList]

theorem readLimit_digits {limit : Nat} (h : limit < limitBound) :
    readLimit (limitName.toList ++ '=' :: Nat.toDigits 10 limit) = .ok (some limit) := by
  have hdigits : ∀ c ∈ Nat.toDigits 10 limit, isQuiet c = true := by
    intro c hc
    simp [isQuiet, Char.isAlphanum, Text.isDigit_toDigits c hc]
  have hname : Quiet limitName.toList := by decide
  have hmark : ∀ c ∈ limitName.toList, c ≠ '=' := by simp [limitName]
  rw [readLimit, formFields_single hname.2 hmark hdigits]
  simp only [limitAmong, if_true, Text.parseUnsigned_toDigits h]
  rfl

/-- A request for depth, within the limits, is answered if the book has got the depth. -/
theorem showDepth_found {segment : List Char} {symbol : String}
    (hsymbol : readParameter "symbol" segment = .ok symbol) {target : Target} {found : Option Nat}
    (hfound : readLimit target.query = .ok found)
    (hlimit : 1 ≤ found.getD defaultLimit ∧ found.getD defaultLimit ≤ maxLimit) :
    (exchange.showDepth stamp segment target).run =
      ((exchange.book symbol).depth (found.getD defaultLimit)).map fun snapshot =>
        .ok (.json 200 (Wire.encodeMarketDepth symbol (.ofNat stamp.time) snapshot),
          exchange.opened symbol) := by
  have hrange : ¬(found.getD defaultLimit = 0 ∨ maxLimit < found.getD defaultLimit) := by omega
  rw [showDepth, hsymbol, hfound]
  simp only [readable, pure_bind, hrange, if_false]
  cases (exchange.book symbol).depth (found.getD defaultLimit) <;> rfl

theorem showDepth_run {segment : List Char} {symbol : String}
    (hsegment : Text.percentDecode? segment = some symbol.toList) {target : Target}
    {limit : Nat} (hlimit : 1 ≤ limit ∧ limit ≤ maxLimit)
    (hquery : target.query = limitName.toList ++ '=' :: Nat.toDigits 10 limit)
    {snapshot : Snapshot} (hdepth : (exchange.book symbol).depth limit = .ok snapshot) :
    (exchange.showDepth stamp segment target).run =
      .ok (.ok (.json 200 (Wire.encodeMarketDepth symbol (.ofNat stamp.time) snapshot),
        exchange.opened symbol)) := by
  have hbound : limit < limitBound := Nat.lt_of_le_of_lt hlimit.2 (by decide)
  have hsymbol : readParameter "symbol" segment = .ok symbol := by
    rw [readParameter, hsegment]
    simp only [String.ofList_toList]
  have hfound : readLimit target.query = .ok (some limit) := by
    rw [hquery, readLimit_digits hbound]
  rw [showDepth_found hsymbol hfound hlimit, Option.getD_some, hdepth]
  rfl

theorem placeOrder_run {body : Wire.OrderBody}
    (hbody : readBody Wire.decodeOrderBody request = .ok body) {side : Side}
    (hside : Side.parse body.side = some side) {price size : Decimal}
    (hprice : Decimal.parse body.price = .ok price) (hsize : Decimal.parse body.size = .ok size)
    (hid : Text.isBlankText body.clientOrderId = false) :
    (exchange.placeOrder stamp request).run =
      match (exchange.book body.symbol).place stamp.orderId side price size
        body.clientOrderId with
      | .error e => .ok (.ok (errorReply (refusalStatus e) e.message,
          exchange.opened body.symbol))
      | .ok book => .ok (.ok (.json 200 (Wire.encodeOrderReply ⟨stamp.orderId.text⟩),
          exchange.setBook body.symbol book)) := by
  rw [placeOrder, hbody]
  simp only [readable, pure_bind, hside, hprice, hsize, hid, Bool.false_eq_true, if_false]
  split <;> simp_all <;> rfl

theorem placeOrder_unread {e : Unreadable}
    (hbody : readBody Wire.decodeOrderBody request = .error e) :
    (exchange.placeOrder stamp request).run = .ok (.error e.reply) := by
  rw [placeOrder, hbody]
  rfl

theorem beginAuction_run {segment : List Char} {id : String}
    (hread : readParameter auctionParameter segment = .ok id)
    {body : Wire.AuctionBody} (hbody : readBody Wire.decodeAuctionBody request = .ok body)
    (hid : Uuid.isAccepted id = true) {side : Side}
    (hside : Side.parse body.side = some side) {amountIn : Decimal}
    (hamount : Decimal.parse body.amountIn = .ok amountIn) :
    (exchange.beginAuction segment request).run =
      match ((exchange.book body.symbol).beginAuction id side amountIn).run with
      | .error o => .error o
      | .ok (.error e) => .ok (.ok (.plain 400 e.message, exchange.opened body.symbol))
      | .ok (.ok (out, book)) =>
        .ok (.ok (.json 200 (Wire.encodeAuctionReply ⟨id, out.canonical⟩),
          exchange.setBook body.symbol book)) := by
  rw [beginAuction, hread, hbody]
  simp only [readable, pure_bind, hid, not_true, if_false, hside, hamount]
  cases ((exchange.book body.symbol).beginAuction id side amountIn).run with
  | error o => rfl
  | ok result => cases result <;> rfl

/-- An auction that no book has is not aborted, and nothing else happens. -/
theorem abortAuction_run {segment : List Char} {id : String}
    (hread : readParameter auctionParameter segment = .ok id) :
    (exchange.abortAuction stamp segment).run =
      .ok (match exchange.abort? stamp.books id with
        | some exchange => .ok (.json 200 (.object [("auctionId", .string id)]), exchange)
        | none => .error (errorReply 404 "Auction not found")) := by
  rw [abortAuction, hread]
  simp only [readable, pure_bind]
  split <;> simp_all <;> rfl

theorem cancelOrders_run :
    ∃ response : Response,
      (exchange.cancelOrders stamp).run = .ok (.ok (response, exchange.cancelled)) ∧
      (response = errorReply 404 "No orders found" ∨
        ∃ ids, response = .json 200 (Wire.encodeCancelReply ⟨ids⟩)) := by
  rw [cancelOrders]
  split
  · exact ⟨_, rfl, .inl rfl⟩
  · exact ⟨_, rfl, .inr ⟨_, rfl⟩⟩

end Exchange

end SweepAudit
