import SweepAudit.Proofs.Except
import SweepAudit.Proofs.Exchange.Books
import SweepAudit.Proofs.Exchange.Requests

/-!
What a request can do to the books of an exchange. It places an order, cancels all orders,
begins an auction or aborts one, and tells so by the status of the answer; or it leaves the
books as they are, but for one that it may have opened. A refusal or an overflow always does
the latter.
-/

namespace SweepAudit

open Http

namespace Exchange

variable {exchange exchange' : Exchange} {stamp : Stamp} {request : Request}
  {response : Response} {segment : List Char}

/-! Going back through a handler -/

theorem readable_eq_ok {α : Type} {result : Except Unreadable α} {a : α}
    (h : (readable result).run = .ok (.ok a)) : result = .ok a := by
  cases result with
  | error e => cases h
  | ok a' =>
    cases h
    rfl

/-- The body of the request is an order in full. -/
def Orders (request : Request) (symbol clientOrderId : String) (side : Side)
    (price size : Decimal) : Prop :=
  ∃ body, readBody Wire.decodeOrderBody request = .ok body ∧ body.symbol = symbol ∧
    body.clientOrderId = clientOrderId ∧ Text.isBlankText clientOrderId = false ∧
    Side.parse body.side = some side ∧ Decimal.parse body.price = .ok price ∧
    Decimal.parse body.size = .ok size

theorem showDepth_eq_ok {target : Target}
    (h : (exchange.showDepth stamp segment target).run = .ok (.ok (response, exchange'))) :
    ∃ symbol, exchange' = exchange.opened symbol := by
  rw [showDepth] at h
  obtain ⟨symbol, -, h⟩ := run_bind_eq_ok h
  obtain ⟨limit, -, h⟩ := run_bind_eq_ok h
  by_cases hlimit : limit.getD defaultLimit = 0 ∨ maxLimit < limit.getD defaultLimit
  · simp only [hlimit, if_true] at h
    cases h
  · simp only [hlimit, if_false] at h
    obtain ⟨snapshot, -, h⟩ := run_bind_eq_ok h
    cases h
    exact ⟨symbol, rfl⟩

theorem placeOrder_eq_ok
    (h : (exchange.placeOrder stamp request).run = .ok (.ok (response, exchange'))) :
    (∃ symbol, exchange' = exchange.opened symbol) ∨
      response.status = 200 ∧ ∃ symbol clientOrderId side price size book,
        Orders request symbol clientOrderId side price size ∧
        (exchange.book symbol).place stamp.orderId side price size clientOrderId = .ok book ∧
        exchange' = exchange.setBook symbol book := by
  rw [placeOrder] at h
  obtain ⟨body, hbody, h⟩ := run_bind_eq_ok h
  split at h
  · cases h
  · rename_i side hside
    split at h
    · rename_i price size hprice hsize
      split at h
      · cases h
      · rename_i hnamed
        split at h
        · cases h
          exact .inl ⟨body.symbol, rfl⟩
        · rename_i book hplace
          cases h
          exact .inr ⟨rfl, body.symbol, body.clientOrderId, side, price, size, book,
            ⟨body, readable_eq_ok hbody, rfl, rfl, Bool.eq_false_iff.mpr hnamed, hside, hprice,
              hsize⟩, hplace, rfl⟩
    · cases h

theorem cancelOrders_eq_ok
    (h : (exchange.cancelOrders stamp).run = .ok (.ok (response, exchange'))) :
    (response.status = 404 ∧ (∀ s, (exchange.book s).index = []) ∨ response.status = 200) ∧
      exchange' = exchange.cancelled := by
  rw [cancelOrders] at h
  split at h
  · rename_i hnone
    cases h
    exact ⟨.inl ⟨rfl, cancelledIds_eq_nil_iff.mp hnone⟩, rfl⟩
  · cases h
    exact ⟨.inr rfl, rfl⟩

theorem beginAuction_eq_ok
    (h : (exchange.beginAuction segment request).run = .ok (.ok (response, exchange'))) :
    response.status = 400 ∧ (∃ symbol, exchange' = exchange.opened symbol) ∨
      ∃ id body side amountIn out book,
        response = .json 200 (Wire.encodeAuctionReply ⟨id, out.canonical⟩) ∧
        readParameter auctionParameter segment = .ok id ∧
        readBody Wire.decodeAuctionBody request = .ok body ∧ Uuid.isAccepted id = true ∧
        ((exchange.book body.symbol).beginAuction id side amountIn).run = .ok (.ok (out, book)) ∧
        exchange' = exchange.setBook body.symbol book := by
  have hstart := h
  rw [beginAuction] at h
  obtain ⟨id, hid, h⟩ := run_bind_eq_ok h
  obtain ⟨body, hbody, h⟩ := run_bind_eq_ok h
  have hid := readable_eq_ok hid
  have hbody := readable_eq_ok hbody
  by_cases haccepted : Uuid.isAccepted id = true
  · simp only [haccepted, not_true, if_false] at h
    split at h
    · cases h
    · rename_i side hside
      split at h
      · cases h
      · rename_i amountIn hamount
        rw [beginAuction_run hid hbody haccepted hside hamount] at hstart
        split at hstart
        · cases hstart
        · cases hstart
          exact .inl ⟨rfl, body.symbol, rfl⟩
        · rename_i out book hbegin
          cases hstart
          exact .inr ⟨id, body, side, amountIn, out, book, rfl, hid, hbody, haccepted, hbegin, rfl⟩
  · simp only [haccepted] at h
    cases h

theorem abortAuction_eq_ok
    (h : (exchange.abortAuction stamp segment).run = .ok (.ok (response, exchange'))) :
    response.status = 200 ∧ ∃ id, readParameter auctionParameter segment = .ok id ∧
      exchange.abort? stamp.books id = some exchange' := by
  rw [abortAuction] at h
  obtain ⟨id, hid, h⟩ := run_bind_eq_ok h
  split at h
  · rename_i habort
    cases h
    exact ⟨rfl, id, readable_eq_ok hid, habort⟩
  · cases h

/-! What a request asks for -/

/-- The request has credentials that are accepted, and asks for a resource by a method that the
resource takes. -/
structure Calls (request : Request) (resource : Resource) : Prop where
  admitted : ∃ presented, Presented.ofHeaders request.headers = .ok presented
  leads : Resource.ofTarget? (Target.ofText request.target) = some resource
  allowed : resource.allows request.method = true

/-- The request asks to begin an auction on the book of a symbol, under the id as it is written. -/
def Begins (request : Request) (symbol id : String) : Prop :=
  ∃ segment body, Calls request (.beginAuction segment) ∧
    readParameter auctionParameter segment = .ok id ∧
    readBody Wire.decodeAuctionBody request = .ok body ∧ body.symbol = symbol

def Aborts (request : Request) (id : String) : Prop :=
  ∃ segment, Calls request (.abortAuction segment) ∧
    readParameter auctionParameter segment = .ok id

/-- What a request comes to: a result, and the books afterwards. -/
inductive Step (exchange : Exchange) (stamp : Stamp) (request : Request) :
    Except Overflow Response → List (String × Book) → Prop
  | unchanged (result : Except Overflow Response) :
      Step exchange stamp request result exchange.books
  | opened (response : Response) (symbol : String) :
      Step exchange stamp request (.ok response) (exchange.opened symbol).books
  | placed {response : Response} {symbol clientOrderId : String} {side : Side}
      {price size : Decimal} {book : Book} (calls : Calls request .order)
      (orders : Orders request symbol clientOrderId side price size)
      (place : (exchange.book symbol).place stamp.orderId side price size clientOrderId = .ok book)
      (status : response.status = 200) :
      Step exchange stamp request (.ok response) (replace symbol book exchange.books)
  | cancelled {response : Response} (calls : Calls request .orders)
      (status : response.status = 404 ∧ (∀ s, (exchange.book s).index = []) ∨
        response.status = 200) :
      Step exchange stamp request (.ok response) exchange.cancelled.books
  | begun {response : Response} {symbol id : String} {side : Side} {amountIn out : Decimal}
      {book : Book} (begins : Begins request symbol id) (accepted : Uuid.isAccepted id = true)
      (begin : ((exchange.book symbol).beginAuction id side amountIn).run = .ok (.ok (out, book)))
      (status : response.status = 200) :
      Step exchange stamp request (.ok response) (replace symbol book exchange.books)
  | aborted {response : Response} {symbol id : String} {auction : Auction} {book : Book}
      (aborts : Aborts request id)
      (abort : (exchange.book symbol).abortAuction id = some (auction, book))
      (status : response.status = 200) :
      Step exchange stamp request (.ok response) (replace symbol book exchange.books)

theorem Step.withoutBody {books : List (String × Book)}
    (h : Step exchange stamp request (.ok response) books) :
    Step exchange stamp request (.ok response.withoutBody) books := by
  cases h with
  | unchanged => exact .unchanged _
  | opened _ symbol => exact .opened _ symbol
  | placed calls orders place status => exact .placed calls orders place status
  | cancelled calls status => exact .cancelled calls status
  | begun begins accepted begin status => exact .begun begins accepted begin status
  | aborted aborts abort status => exact .aborted aborts abort status

/-- What has been presented does not matter. -/
theorem Step.of_remember {presented : Presented} {result : Except Overflow Response}
    {books : List (String × Book)}
    (h : Step (exchange.remember presented) stamp request result books) :
    Step exchange stamp request result books := by
  cases h with
  | unchanged => exact .unchanged _
  | opened _ symbol => exact .opened _ symbol
  | placed calls orders place status => exact .placed calls orders place status
  | cancelled calls status => exact .cancelled calls status
  | begun begins accepted begin status => exact .begun begins accepted begin status
  | aborted aborts abort status => exact .aborted aborts abort status

theorem serve_step {resource : Resource} {target : Target} (hcalls : Calls request resource)
    (h : (exchange.serve stamp request target resource).run = .ok (.ok (response, exchange'))) :
    Step exchange stamp request (.ok response) exchange'.books := by
  cases resource with
  | depth segment =>
    obtain ⟨symbol, rfl⟩ := showDepth_eq_ok h
    exact .opened _ symbol
  | order =>
    obtain ⟨symbol, rfl⟩ | ⟨hstatus, symbol, clientOrderId, side, price, size, book, horders,
      hplace, rfl⟩ := placeOrder_eq_ok h
    · exact .opened _ symbol
    · exact .placed hcalls horders hplace hstatus
  | orders =>
    obtain ⟨hstatus, rfl⟩ := cancelOrders_eq_ok h
    exact .cancelled hcalls hstatus
  | beginAuction segment =>
    obtain ⟨-, symbol, rfl⟩ | ⟨id, body, side, amountIn, out, book, rfl, hid, hbody, haccepted,
      hbegin, rfl⟩ := beginAuction_eq_ok h
    · exact .opened _ symbol
    · exact .begun ⟨segment, body, hcalls, hid, hbody, rfl⟩ haccepted hbegin rfl
  | abortAuction segment =>
    obtain ⟨hstatus, id, hid, habort⟩ := abortAuction_eq_ok h
    obtain ⟨symbol, auction, book, hbook, rfl⟩ := abort?_eq_some habort
    exact .aborted ⟨segment, hcalls, hid⟩ hbook hstatus

/-- Every request is one of these steps. -/
theorem answer_step (exchange : Exchange) (stamp : Stamp) (request : Request) :
    Step exchange stamp request (exchange.answer stamp request).1
      (exchange.answer stamp request).2.books := by
  rw [answer]
  cases haccess : Presented.ofHeaders request.headers with
  | error e => exact .unchanged _
  | ok presented =>
    dsimp only
    split
    · exact .unchanged _
    · exact .unchanged _
    · rename_i response exchange' hroute
      have hstep : Step exchange stamp request (.ok response) exchange'.books := by
        rw [route] at hroute
        split at hroute
        · cases hroute
        · rename_i resource hresource
          split at hroute
          · rename_i hallows
            exact (serve_step ⟨⟨presented, haccess⟩, hresource, hallows⟩ hroute).of_remember
          · cases hroute
      split
      · exact hstep.withoutBody
      · exact hstep

/-! Runs -/

/-- The exchange after some requests. -/
def afterAll (exchange : Exchange) : List (Stamp × Request) → Exchange
  | [] => exchange
  | (stamp, request) :: requests => (exchange.answer stamp request).2.afterAll requests

theorem afterAll_concat (exchange : Exchange) (requests : List (Stamp × Request))
    (asked : Stamp × Request) :
    exchange.afterAll (requests ++ [asked]) =
      ((exchange.afterAll requests).answer asked.1 asked.2).2 := by
  induction requests generalizing exchange with
  | nil => rfl
  | cons first requests ih => exact ih _

end Exchange

end SweepAudit
