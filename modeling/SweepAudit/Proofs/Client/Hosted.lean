import SweepAudit.Proofs.Client.Answers
import SweepAudit.Proofs.Decimal.Text
import SweepAudit.Proofs.Exchange.Replies
import SweepAudit.Proofs.Text.Size
import SweepAudit.Proofs.Wire

/-!
The calls of a client on an exchange that is hosted here, from the arguments of the call to
the client's reading of the answer and the exchange afterwards. Amounts are written on one
side and read on the other, so an order arrives with numbers of the same value.
-/

namespace SweepAudit

open Http

namespace Http

theorem run_bind_of_run {σ α β : Type} {first : StateM σ α} {next : α → StateM σ β}
    {state state' : σ} {a : α} (h : first.run state = (a, state')) :
    (first >>= next).run state = (next a).run state' := by
  rw [StateT.run_bind, h]
  rfl

/-- An answer that points nowhere else is the one that is fetched. -/
theorem fetch_answered {σ : Type} {network : Network σ} {url asked : Url} {request : Request}
    {response : Response} {state state' : σ} (hasked : url.asked = .ok asked)
    (hnetwork : (network asked { request with target := asked.target }).run state =
      (some response, state'))
    (hstay : redirect? asked request response = none) {redirects : Nat} :
    (fetch network redirects url request).run state = (.ok response, state') := by
  rw [fetch.eq_def, hasked]
  simp only [run_bind_of_run hnetwork, hstay]
  rfl

theorem fetch_unanswered {σ : Type} {network : Network σ} {url asked : Url} {request : Request}
    {state state' : σ} (hasked : url.asked = .ok asked)
    (hnetwork : (network asked { request with target := asked.target }).run state =
      (none, state')) {redirects : Nat} :
    (fetch network redirects url request).run state = (.error (.noAnswer asked), state') := by
  rw [fetch.eq_def, hasked]
  simp only [run_bind_of_run hnetwork]
  rfl

theorem fetch_unasked {σ : Type} {network : Network σ} {url : Url} {request : Request}
    {lost : Lost} {state : σ} (hasked : url.asked = .error lost) {redirects : Nat} :
    (fetch network redirects url request).run state = (.error lost, state) := by
  rw [fetch.eq_def, hasked]
  rfl

end Http

namespace Client

/-- A client of an exchange that is hosted here, at whichever port. -/
def IsLocal (client : Client) : Prop := ∃ port, client.base = Hosted.base port

/-- A client of a hosted exchange with a credential that is accepted there. -/
structure Admitted (client : Client) (presented : Presented) : Prop where
  isLocal : client.IsLocal
  accepted : Presented.ofHeaders
    [client.credential.header, (contentType, Response.jsonType)] = .ok presented

variable {client : Client} {presented : Presented} {hosted : Hosted} {stamps : Stamps}

/-- The request of a call as it is sent to a target. -/
def sent (client : Client) (method : Method) (body : Option Json) (target : String) : Request :=
  { client.request method body with target := target }

theorem declares_json (client : Client) (method : Method) (body : Option Json)
    (target : String) :
    plainHeader? contentType (client.sent method body target).headers =
      some Response.jsonType := by
  have hscheme : Text.sameLetters client.credential.header.1 contentType = false := by
    change Text.sameLetters client.credential.scheme.header contentType = false
    cases client.credential.scheme <;> decide
  have hheader : header? contentType (client.sent method body target).headers =
      some Response.jsonType := by
    change header? contentType [client.credential.header, (contentType, Response.jsonType)] = _
    rw [header?, List.find?_cons_of_neg (by rw [hscheme]; decide)]
    decide
  rw [plainHeader?, hheader]
  decide

section Asked

variable {α : Type} {method : Method} {path : String} {body : Option Json} {url asked : Url}

/-- What a hosted exchange makes of a call that has come to a target. -/
def answered (client : Client) (stamps : Stamps) (hosted : Hosted) (method : Method)
    (body : Option Json) (target : String) : Except Overflow Response × Exchange :=
  hosted.exchange.answer (stamps hosted.served) (client.sent method body target)

theorem fetched_asked (hparse : Url.parse (client.base ++ path) = .ok url)
    (hasked : url.asked = .ok asked) :
    (client.fetched (Hosted.network stamps) method path body).run hosted =
      ((client.answered stamps hosted method body asked.target).1.mapError
          fun _ => .noAnswer asked,
        ⟨(client.answered stamps hosted method body asked.target).2, hosted.served + 1⟩) := by
  have hnetwork :
      (Hosted.network stamps asked (client.sent method body asked.target)).run hosted =
      ((client.answered stamps hosted method body asked.target).1.toOption,
        ⟨(client.answered stamps hosted method body asked.target).2, hosted.served + 1⟩) := rfl
  rw [fetched, hparse]
  cases hanswer : (client.answered stamps hosted method body asked.target).1 with
  | error o =>
    rw [hanswer] at hnetwork
    exact fetch_unanswered hasked hnetwork
  | ok response =>
    rw [hanswer] at hnetwork
    exact fetch_answered hasked hnetwork (Exchange.answer_stays hanswer asked _)

theorem call_asked (hparse : Url.parse (client.base ++ path) = .ok url)
    (hasked : url.asked = .ok asked) (read : Response → CallResult α) :
    (client.call (Hosted.network stamps) method path body read).run hosted =
      (concluding read ((client.answered stamps hosted method body asked.target).1.mapError
          fun _ => .noAnswer asked),
        ⟨(client.answered stamps hosted method body asked.target).2, hosted.served + 1⟩) := by
  rw [call_eq, StateT.run_map, fetched_asked hparse hasked]
  rfl

end Asked

/-- What a request comes to at an exchange that has admitted it: a refusal changes nothing. -/
def concluded (exchange : Exchange) : Except Response (Response × Exchange) → Response × Exchange
  | .error response => (response, exchange)
  | .ok answered => answered

/-- How an admitting exchange serves a call. -/
def served (client : Client) (stamps : Stamps) (presented : Presented) (hosted : Hosted)
    (method : Method) (body : Option Json) (target : String) (resource : Resource) :
    Except Overflow (Except Response (Response × Exchange)) :=
  ((hosted.exchange.remember presented).serve (stamps hosted.served)
    (client.sent method body target) (Target.ofText target) resource).run

/-- The address of a call leads to a resource of the exchange, with a query. -/
def Leads (client : Client) (path : String) (resource : Resource) (query : List Char) : Prop :=
  ∃ url asked : Url, Url.parse (client.base ++ path) = .ok url ∧ url.asked = .ok asked ∧
    Resource.ofTarget? (Target.ofText asked.target) = some resource ∧
    (Target.ofText asked.target).query = query

/-- A call that an admitting exchange serves reads the answer. -/
theorem call_run {α : Type} (h : client.Admitted presented) {path : String} {resource : Resource}
    {query : List Char} (hleads : client.Leads path resource query)
    {method : Method} (hmethod : method ≠ .head) (hallows : resource.allows method = true)
    {body : Option Json} {outcome : Except Response (Response × Exchange)}
    (hserved : ∀ target : String, (Target.ofText target).query = query →
      client.served stamps presented hosted method body target resource = .ok outcome)
    (read : Response → CallResult α) :
    (client.call (Hosted.network stamps) method path body read).run hosted =
      (read (concluded (hosted.exchange.remember presented) outcome).1,
        ⟨(concluded (hosted.exchange.remember presented) outcome).2, hosted.served + 1⟩) := by
  obtain ⟨url, asked, hparse, hasked, hresource, hquery⟩ := hleads
  have hserve := hserved asked.target hquery
  rw [served] at hserve
  have hanswer : client.answered stamps hosted method body asked.target =
      (.ok (concluded (hosted.exchange.remember presented) outcome).1,
        (concluded (hosted.exchange.remember presented) outcome).2) := by
    have htarget : (client.sent method body asked.target).target = asked.target := rfl
    rw [answered, Exchange.answer_admitted h.accepted hmethod (by rw [htarget, hresource])
      hallows, htarget, hserve]
    cases outcome <;> rfl
  rw [call_asked hparse hasked, hanswer]
  rfl

/-! Addresses of the calls -/

/-- The query of a request for the depth. -/
def limitQuery (client : Client) : List Char :=
  Exchange.limitName.toList ++ '=' :: Nat.toDigits 10 client.depthLimit.toNat

theorem quiet_limitQuery (client : Client) :
    ∀ q ∈ some client.limitQuery, ∀ c ∈ q, isQuiet c = true := by
  rintro q ⟨⟩ c hc
  rcases List.mem_append.mp hc with hc | hc
  · have hname : Quiet Exchange.limitName.toList := by decide
    exact hname.2 c hc
  · rcases List.mem_cons.mp hc with rfl | hc
    · decide
    · simp [isQuiet, Char.isAlphanum, Text.isDigit_toDigits c hc]

theorem toList_depthPath (client : Client) (symbol : String) :
    (client.depthPath symbol).toList =
      pathAndQuery (Resource.depth symbol.toList).segments (some client.limitQuery) := by
  have hlimit : client.depthLimit.toNat.repr.toList =
      Nat.toDigits 10 client.depthLimit.toNat := Nat.toList_repr
  change ("/api/v1/orderbook/" ++ symbol ++ "?limit=" ++ client.depthLimit.toNat.repr).toList = _
  rw [String.toList_append, String.toList_append, String.toList_append, hlimit]
  simp [pathAndQuery, Resource.segments, Url.marked, limitQuery, Exchange.limitName]

theorem toList_beginAuctionPath (id : String) :
    (beginAuctionPath id).toList =
      pathAndQuery (Resource.beginAuction id.toList).segments none := by
  change ("/lh/v1/begin_auction/" ++ id).toList = _
  rw [String.toList_append]
  simp [pathAndQuery, Resource.segments, Url.marked]

theorem toList_abortAuctionPath (id : String) :
    (abortAuctionPath id).toList =
      pathAndQuery (Resource.abortAuction id.toList).segments none := by
  change ("/lh/v1/abort_auction/" ++ id).toList = _
  rw [String.toList_append]
  simp [pathAndQuery, Resource.segments, Url.marked]

/-- Short addresses can be sent. -/
theorem sendable_of_base (hbase : client.IsLocal) {path : String}
    (hpath : path.toList.length ≤ 1000) :
    (client.base ++ path).utf8ByteSize ≤ Url.maxLength := by
  obtain ⟨port, hbase⟩ := hbase
  have hfront := (Text.utf8ByteSize_le (Hosted.base port)).trans
    (Nat.mul_le_mul_left 4 (length_base_le port))
  have hsize := Text.utf8ByteSize_le path
  rw [String.utf8ByteSize_append, hbase, Url.maxLength]
  omega

/-- An address that is read as it is meant leads where it is meant to, unless it is too long. -/
theorem leads_of_parse {resource : Resource} (hwhole : resource.IsWhole) {port : Port}
    {query : Option (List Char)} (hquery : ∀ q ∈ query, ∀ c ∈ q, c ≠ '#') {path : String}
    (hparse : Url.parse (client.base ++ path) = .ok (hostedUrl port resource.segments query))
    (hlength : (hostedUrl port resource.segments query).text.utf8ByteSize ≤ Url.maxLength) :
    client.Leads path resource (query.getD []) := by
  have htarget : Target.ofText (hostedUrl port resource.segments query).target =
      resource.target (query.getD []) := Resource.ofText_target hwhole hquery
  refine ⟨_, _, hparse, asked_hostedUrl.trans (if_pos hlength), ?_, ?_⟩
  · rw [htarget]
    exact Resource.ofTarget_target hwhole _
  · rw [htarget]
    rfl

/-- Addresses of quiet segments are read as they are meant. -/
theorem leads_of_quiet (hbase : client.IsLocal) {resource : Resource}
    (hquiet : resource.IsQuiet) {query : Option (List Char)}
    (hquery : ∀ q ∈ query, ∀ c ∈ q, isQuiet c = true) {path : String}
    (hpath : path.toList = pathAndQuery resource.segments query)
    (hlength : (client.base ++ path).utf8ByteSize ≤ Url.maxLength) :
    client.Leads path resource (query.getD []) := by
  obtain ⟨port, hbase⟩ := hbase
  have htext : (client.base ++ path).toList =
      (Hosted.base port).toList ++ pathAndQuery resource.segments query := by
    rw [String.toList_append, hpath, hbase]
  have hwritten : (hostedUrl port resource.segments query).text = client.base ++ path := by
    rw [text_hostedUrl, ← htext, String.ofList_toList]
  refine leads_of_parse hquiet.isWhole (ne_fragment_of_isQuiet hquery) ?_ (hwritten ▸ hlength)
  exact parse_hosted resource.segments_ne_nil (Resource.quiet_segments hquiet) hquery htext

theorem leads_beginAuction (hbase : client.IsLocal) (id : Uuid) :
    client.Leads (beginAuctionPath id.text) (.beginAuction id.text.toList) [] := by
  have hpath := toList_beginAuctionPath id.text
  refine @leads_of_quiet client hbase (.beginAuction _) id.quiet_text none (by simp) _ hpath
    (sendable_of_base hbase ?_)
  simp [hpath, pathAndQuery, Resource.segments, Url.marked, id.length_text]

theorem leads_abortAuction (hbase : client.IsLocal) (id : Uuid) :
    client.Leads (abortAuctionPath id.text) (.abortAuction id.text.toList) [] := by
  have hpath := toList_abortAuctionPath id.text
  refine @leads_of_quiet client hbase (.abortAuction _) id.quiet_text none (by simp) _ hpath
    (sendable_of_base hbase ?_)
  simp [hpath, pathAndQuery, Resource.segments, Url.marked, id.length_text]

/-- A client that can ask a hosted exchange for the depth of a symbol. -/
structure Reaches (client : Client) (presented : Presented) (symbol : String) : Prop where
  admitted : client.Admitted presented
  limit : 1 ≤ client.depthLimit.toNat ∧ client.depthLimit.toNat ≤ Exchange.maxLimit
  leads : ∃ segment, Text.percentDecode? segment = some symbol.toList ∧
    client.Leads (client.depthPath symbol) (.depth segment) client.limitQuery

theorem reaches_of_quiet (h : client.Admitted presented) {symbol : String}
    (hsymbol : Quiet symbol.toList)
    (hlimit : 1 ≤ client.depthLimit.toNat ∧ client.depthLimit.toNat ≤ Exchange.maxLimit)
    (hlength : (client.base ++ client.depthPath symbol).utf8ByteSize ≤ Url.maxLength) :
    client.Reaches presented symbol := by
  refine ⟨h, hlimit, symbol.toList, ?_, ?_⟩
  · exact Text.percentDecode?_of_plain (ne_percent_of_isQuiet hsymbol.2)
  · exact @leads_of_quiet client h.isLocal (.depth _) hsymbol (some _) client.quiet_limitQuery _
      (toList_depthPath client symbol) hlength

/-! What the calls come to -/

theorem depth_run (stamps : Stamps) {symbol : String} (h : client.Reaches presented symbol)
    {snapshot : Snapshot}
    (hdepth : (hosted.exchange.book symbol).depth client.depthLimit.toNat = .ok snapshot) :
    ∃ hosted', ((client.venue (Hosted.network stamps)).depth symbol).run hosted =
      (.ok snapshot, hosted') ∧ ∀ s, hosted'.exchange.book s = hosted.exchange.book s := by
  obtain ⟨segment, hsegment, hleads⟩ := h.leads
  have hserved : ∀ target : String, (Target.ofText target).query = client.limitQuery →
      client.served stamps presented hosted .get none target (.depth segment) =
      .ok (.ok (.json 200
          (Wire.encodeMarketDepth symbol (.ofNat (stamps hosted.served).time) snapshot),
        (hosted.exchange.remember presented).opened symbol)) := by
    intro target hquery
    exact Exchange.showDepth_run hsegment h.limit hquery hdepth
  have hrun := call_run h.admitted hleads (by decide) rfl hserved Reading.depth
  rw [concluded, Reading.depth_reported] at hrun
  exact ⟨_, hrun, Exchange.book_opened _ symbol⟩

/-- An address that is too long for a request leads to no answer. -/
theorem depth_unsendable (stamps : Stamps) (h : client.Admitted presented) {symbol : String}
    (hsymbol : Quiet symbol.toList)
    (hlength : Url.maxLength < (client.base ++ client.depthPath symbol).utf8ByteSize) :
    ∃ e, ((client.venue (Hosted.network stamps)).depth symbol).run hosted = (.error e, hosted) := by
  obtain ⟨port, hbase⟩ := h.isLocal
  have htext : (client.base ++ client.depthPath symbol).toList = (Hosted.base port).toList ++
      pathAndQuery (Resource.depth symbol.toList).segments (some client.limitQuery) := by
    rw [String.toList_append, toList_depthPath, hbase]
  have hparse := parse_hosted (Resource.segments_ne_nil _)
    (@Resource.quiet_segments (.depth symbol.toList) hsymbol) client.quiet_limitQuery htext
  generalize hurl : hostedUrl port (Resource.depth symbol.toList).segments
    (some client.limitQuery) = url at hparse
  have hasked : url.asked = .error (.unsendable url) := by
    rw [← hurl, asked_hostedUrl, text_hostedUrl, ← htext, String.ofList_toList,
      if_neg (Nat.not_le.mpr hlength)]
  refine ⟨lostCall (.unsendable url), ?_⟩
  change (client.call (Hosted.network stamps) .get (client.depthPath symbol) none Reading.depth).run
    hosted = _
  rw [call, hparse]
  simp only [run_bind_of_run (fetch_unasked hasked)]
  rfl

/-- What is sent to place an order. -/
def orderText (order : Order) : String := (Wire.encodeOrderBody (orderBody order)).text

/-- What is sent to begin an auction. -/
def auctionText (request : AuctionRequest) : String :=
  (Wire.encodeAuctionBody (auctionBody request)).text

/-- How an auction is served that the book of the symbol has answered. -/
theorem beginAuction_served (client : Client) (stamps : Stamps) (presented : Presented)
    (hosted : Hosted) {request : AuctionRequest}
    (hsize : (auctionText request).utf8ByteSize ≤ bodyLimit) {amount : Decimal}
    (hamount : Decimal.parse request.amountIn = .ok amount)
    {outcome : Except BookError (Decimal × Book)}
    (hbook : ((hosted.exchange.book request.symbol).beginAuction request.auctionId.text
      request.side amount).run = .ok outcome) (target : String) :
    client.served stamps presented hosted .post
      (some (Wire.encodeAuctionBody (auctionBody request))) target
      (.beginAuction request.auctionId.text.toList) =
    .ok (match outcome with
      | .error e =>
        .ok (.plain 400 e.message, (hosted.exchange.remember presented).opened request.symbol)
      | .ok (out, book) =>
        .ok (.json 200 (Wire.encodeAuctionReply ⟨request.auctionId.text, out.canonical⟩),
          (hosted.exchange.remember presented).setBook request.symbol book)) := by
  have hbody : readBody Wire.decodeAuctionBody
      (client.sent .post (some (Wire.encodeAuctionBody (auctionBody request))) target) =
      .ok (auctionBody request) :=
    Exchange.readBody_json (declares_json client _ _ _) hsize (Wire.decode_auctionBody _)
  have hside : Side.parse (auctionBody request).side = some request.side :=
    Side.parse_auctionWord request.side
  have hanswer : (((hosted.exchange.remember presented).book
      (auctionBody request).symbol).beginAuction request.auctionId.text
      request.side amount).run = .ok outcome := hbook
  change (Exchange.beginAuction _ _ _).run = _
  rw [Exchange.beginAuction_run (Exchange.readParameter_text _ _) hbody
    request.auctionId.isAccepted_text hside hamount]
  rw [hanswer]
  rcases outcome with e | ⟨out, book⟩ <;> rfl

theorem beginAuction_filled (h : client.Admitted presented) {request : AuctionRequest}
    (hsize : (auctionText request).utf8ByteSize ≤ bodyLimit) {amount out : Decimal} {book : Book}
    (hamount : Decimal.parse request.amountIn = .ok amount)
    (hbook : ((hosted.exchange.book request.symbol).beginAuction request.auctionId.text
      request.side amount).run = .ok (.ok (out, book))) :
    ((client.venue (Hosted.network stamps)).beginAuction request).run hosted =
      (.ok ⟨some request.auctionId.text, out.canonical⟩,
        ⟨(hosted.exchange.remember presented).setBook request.symbol book, hosted.served + 1⟩) := by
  refine (call_run h (leads_beginAuction h.isLocal _) (by decide) rfl
    (fun target _ => beginAuction_served client stamps presented hosted hsize hamount hbook target)
    Reading.settlement).trans ?_
  simp only [concluded, Reading.settlement_filled]

theorem beginAuction_refused (h : client.Admitted presented) {request : AuctionRequest}
    (hsize : (auctionText request).utf8ByteSize ≤ bodyLimit) {amount : Decimal} {e : BookError}
    (hamount : Decimal.parse request.amountIn = .ok amount)
    (hbook : ((hosted.exchange.book request.symbol).beginAuction request.auctionId.text
      request.side amount).run = .ok (.error e)) :
    ∃ reason hosted', ((client.venue (Hosted.network stamps)).beginAuction request).run hosted =
      (.error (.status 400 reason), hosted') ∧
      ∀ s, hosted'.exchange.book s = hosted.exchange.book s := by
  have hread := @Reading.settlement_refused (.plain 400 e.message) rfl
  have hrun := call_run h (leads_beginAuction h.isLocal _) (by decide) rfl
    (fun target _ => beginAuction_served client stamps presented hosted hsize hamount hbook target)
    Reading.settlement
  simp only [concluded, hread] at hrun
  exact ⟨_, _, hrun, Exchange.book_opened _ request.symbol⟩

/-- Whatever is made of the answer, the auction is gone afterwards. -/
theorem abortAuction_run (h : client.Admitted presented) (id : Uuid) :
    (((client.venue (Hosted.network stamps)).abortAuction id.text).run hosted).2 =
      ⟨((hosted.exchange.remember presented).abort? (stamps hosted.served).books id.text).getD
        (hosted.exchange.remember presented), hosted.served + 1⟩ := by
  have hserve := @Exchange.abortAuction_run (hosted.exchange.remember presented)
    (stamps hosted.served) _ _ (Exchange.readParameter_text _ id)
  have hcall {outcome : Except Response (Response × Exchange)}
      (hserved : ((hosted.exchange.remember presented).abortAuction (stamps hosted.served)
        id.text.toList).run = .ok outcome) :=
    @call_run client presented hosted stamps _ h _ _ _ (leads_abortAuction h.isLocal id) .post
      (by decide) rfl none outcome (fun _ _ => hserved) Reading.aborted
  cases habort :
    (hosted.exchange.remember presented).abort? (stamps hosted.served).books id.text with
  | some exchange =>
    rw [habort] at hserve
    exact congrArg Prod.snd (hcall hserve)
  | none =>
    rw [habort] at hserve
    exact congrArg Prod.snd (hcall hserve)

/-- How an order is served that the book of the symbol has answered. -/
theorem placeOrder_served (client : Client) (stamps : Stamps) (presented : Presented)
    (hosted : Hosted) {order : Order} (hsize : (orderText order).utf8ByteSize ≤ bodyLimit)
    {price size : Decimal} (hprice : Decimal.parse order.price.canonical = .ok price)
    (hamount : Decimal.parse order.size.canonical = .ok size)
    (hid : Text.isBlankText order.clientOrderId = false) {outcome : Except BookError Book}
    (hbook : (hosted.exchange.book order.symbol).place (stamps hosted.served).orderId
      order.side price size order.clientOrderId = outcome) (target : String) :
    client.served stamps presented hosted .post
      (some (Wire.encodeOrderBody (orderBody order))) target .order =
    .ok (match outcome with
      | .error e =>
        .ok (errorReply (Exchange.refusalStatus e) e.message,
          (hosted.exchange.remember presented).opened order.symbol)
      | .ok book =>
        .ok (.json 200 (Wire.encodeOrderReply ⟨(stamps hosted.served).orderId.text⟩),
          (hosted.exchange.remember presented).setBook order.symbol book)) := by
  have hbody : readBody Wire.decodeOrderBody
      (client.sent .post (some (Wire.encodeOrderBody (orderBody order))) target) =
      .ok (orderBody order) :=
    Exchange.readBody_json (declares_json client _ _ _) hsize (Wire.decode_orderBody _)
  have hside : Side.parse (orderBody order).side = some order.side :=
    Side.parse_orderWord order.side
  change (Exchange.placeOrder _ _ _).run = _
  rw [Exchange.placeOrder_run hbody hside hprice hamount hid]
  simp only [Exchange.book_remember, orderBody, hbook]
  cases outcome <;> rfl

theorem leads_order (hbase : client.IsLocal) :
    client.Leads orderPath .order [] :=
  @leads_of_quiet client hbase .order trivial none (by simp) _ rfl
    (sendable_of_base hbase (by decide))

theorem placeOrder_run (h : client.Admitted presented) {order : Order}
    (hsize : (orderText order).utf8ByteSize ≤ bodyLimit) {price size : Decimal}
    (hprice : Decimal.parse order.price.canonical = .ok price)
    (hamount : Decimal.parse order.size.canonical = .ok size)
    (hid : Text.isBlankText order.clientOrderId = false) {book : Book}
    (hbook : (hosted.exchange.book order.symbol).place (stamps hosted.served).orderId
      order.side price size order.clientOrderId = .ok book) :
    ((client.venue (Hosted.network stamps)).placeOrder order).run hosted =
      (.ok (stamps hosted.served).orderId.text,
        ⟨(hosted.exchange.remember presented).setBook order.symbol book, hosted.served + 1⟩) := by
  refine (call_run h (leads_order h.isLocal) (by decide) rfl
    (fun target _ =>
      placeOrder_served client stamps presented hosted hsize hprice hamount hid hbook target)
    Reading.order).trans ?_
  rw [concluded, Reading.order_placed (Uuid.isEmpty_text _)]

theorem placeOrder_refused (h : client.Admitted presented) {order : Order}
    (hsize : (orderText order).utf8ByteSize ≤ bodyLimit) {price size : Decimal}
    (hprice : Decimal.parse order.price.canonical = .ok price)
    (hamount : Decimal.parse order.size.canonical = .ok size)
    (hid : Text.isBlankText order.clientOrderId = false) {e : BookError}
    (hbook : (hosted.exchange.book order.symbol).place (stamps hosted.served).orderId
      order.side price size order.clientOrderId = .error e) :
    ((client.venue (Hosted.network stamps)).placeOrder order).run hosted =
      (.error (.status (Exchange.refusalStatus e)
          (Text.trim (Payload.bodyText (errorReply (Exchange.refusalStatus e) e.message)))),
        ⟨(hosted.exchange.remember presented).opened order.symbol, hosted.served + 1⟩) := by
  have hrefused :
      isErrorStatus (errorReply (Exchange.refusalStatus e) e.message).status = true := by
    cases e <;> rfl
  refine (call_run h (leads_order h.isLocal) (by decide) rfl
    (fun target _ =>
      placeOrder_served client stamps presented hosted hsize hprice hamount hid hbook target)
    Reading.order).trans ?_
  rw [concluded, Reading.order_refused hrefused]
  rfl

/-- An order that takes more to read than an exchange reads never gets to the book. -/
theorem placeOrder_oversized (h : client.Admitted presented) {order : Order}
    (hsize : bodyLimit < (orderText order).utf8ByteSize) :
    ((client.venue (Hosted.network stamps)).placeOrder order).run hosted =
      (.error (.status 413 (Text.trim (Payload.bodyText Unreadable.bodySize.reply))),
        ⟨hosted.exchange.remember presented, hosted.served + 1⟩) := by
  have hserved (target : String) : client.served stamps presented hosted .post
      (some (Wire.encodeOrderBody (orderBody order))) target .order =
      .ok (.error Unreadable.bodySize.reply) := by
    change (Exchange.placeOrder _ _ _).run = _
    exact Exchange.placeOrder_unread
      (Exchange.readBody_oversized (declares_json client _ _ _) hsize)
  refine (call_run h (leads_order h.isLocal) (by decide) rfl (fun target _ => hserved target)
    Reading.order).trans ?_
  rw [concluded, Reading.order_refused rfl]
  rfl

theorem cancelAll_run (h : client.Admitted presented) :
    ((client.venue (Hosted.network stamps)).cancelAll).run hosted =
      (.ok (), ⟨(hosted.exchange.remember presented).cancelled, hosted.served + 1⟩) := by
  obtain ⟨response, hserve, hresponse⟩ :=
    @Exchange.cancelOrders_run (hosted.exchange.remember presented) (stamps hosted.served)
  have hleads : client.Leads ordersPath .orders [] :=
    @leads_of_quiet client h.isLocal .orders trivial none (by simp) _ rfl
      (sendable_of_base h.isLocal (by decide))
  have hcall := @call_run client presented hosted stamps _ h _ _ _ hleads .delete (by decide) rfl
    none (.ok (response, _)) (fun _ _ => hserve) Reading.cancelled
  rcases hresponse with rfl | ⟨ids, rfl⟩
  · refine hcall.trans ?_
    simp only [concluded, Reading.cancelled_nothing]
  · refine hcall.trans ?_
    simp only [concluded, Reading.cancelled_orders]

end Client

end SweepAudit
