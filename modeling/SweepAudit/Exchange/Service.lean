import SweepAudit.Exchange.Basic
import SweepAudit.Decimal.Reader
import SweepAudit.Exchange.Reply
import SweepAudit.Http.Target
import SweepAudit.Wire.Auction
import SweepAudit.Wire.Order

/-!
An exchange as a service. A request is checked for credentials first, whatever it asks
for; what they present is remembered. Then its path is looked up, its method checked,
and what it carries is read in the order path, query, body. Once all of that is in order
the book of its symbol is asked for, which may still refuse. The head of a request may be
of any length here; a server with a limit to it keeps longer ones from the exchange.
-/

namespace SweepAudit

open Http

/-- What a request may use up: the id of the order that it places, and the time. Its ways through
the books and through the orders of one belong to it, as nothing fixes them. -/
structure Stamp where
  orderId : Uuid
  time : Nat
  books : Walk String
  orders : Walk Uuid

def Stamp.plain (orderId : Uuid) (time : Nat) : Stamp := ⟨orderId, time, .standing, .standing⟩

/-- What a path leads to; the parts of a path that are parameters still have their escapes. -/
inductive Resource where
  | depth (symbol : List Char)
  | order
  | orders
  | beginAuction (id : List Char)
  | abortAuction (id : List Char)
  deriving DecidableEq

namespace Resource

/-- The resource of a path. A parameter is a whole part of the path and not empty. -/
def ofTarget? (target : Target) : Option Resource :=
  match target.segments.map String.ofList with
  | ["", "api", "v1", "order"] => some .order
  | ["", "api", "v1", "orders"] => some .orders
  | ["", "api", "v1", "orderbook", symbol] => (parameter? symbol).map .depth
  | ["", "lh", "v1", "begin_auction", id] => (parameter? id).map .beginAuction
  | ["", "lh", "v1", "abort_auction", id] => (parameter? id).map .abortAuction
  | _ => none
where
  parameter? (s : String) : Option (List Char) := if s.isEmpty then none else some s.toList

def allows : Resource → Method → Bool
  | .depth _, method => method = .get || method = .head
  | .orders, method => method = .delete
  | .order, method | .beginAuction _, method | .abortAuction _, method => method = .post

def allowed : Resource → String
  | .depth _ => "GET,HEAD"
  | .orders => "DELETE"
  | .order | .beginAuction _ | .abortAuction _ => "POST"

def refuse (resource : Resource) (method : Method) (refusal : Response) : Response :=
  if resource.allows method then refusal
  else { refusal with headers := refusal.headers ++ [("allow", resource.allowed)] }

end Resource

namespace Exchange

/-- What comes of a request: it is turned down with an answer, or answered together with the
exchange as it is then, or an overflow ends it. -/
abbrev Handled := ExceptT Response (Except Overflow) (Response × Exchange)

def readable {α : Type} : Except Unreadable α → ExceptT Response (Except Overflow) α
  | .ok a => pure a
  | .error e => throw e.reply

def readParameter (name : String) (segment : List Char) : Except Unreadable String :=
  match Text.percentDecode? segment with
  | some cs => .ok (String.ofList cs)
  | none => .error (.path name)

def limitName : String := "limit"

def limitBound : Nat := twoTo 64

def limitAmong (found : Option Nat) : List (List Char × List Char) → Except QueryError (Option Nat)
  | [] => .ok found
  | (name, value) :: fields =>
    if name = limitName.toList then
      match found with
      | some _ => .error (.duplicate limitName)
      | none =>
        match Text.parseUnsigned limitBound value with
        | .ok n => limitAmong (some n) fields
        | .error cause => .error (.number cause)
    else limitAmong found fields

def readLimit (query : List Char) : Except Unreadable (Option Nat) :=
  (limitAmong none (formFields query)).mapError .query

def defaultLimit : Nat := 10

def maxLimit : Nat := 1000

def showDepth (exchange : Exchange) (stamp : Stamp) (segment : List Char) (target : Target) :
    Handled := do
  let symbol ← readable (readParameter "symbol" segment)
  let limit ← readable (readLimit target.query)
  let limit := limit.getD defaultLimit
  if limit = 0 ∨ maxLimit < limit then
    throw (errorReply 400 s!"Invalid limit: must be between 1 and {maxLimit}")
  let snapshot ← liftM ((exchange.book symbol).depth limit)
  return (.json 200 (Wire.encodeMarketDepth symbol (.ofNat stamp.time) snapshot),
    exchange.opened symbol)

def refusalStatus : BookError → Nat
  | .duplicateClientOrderId _ => 409
  | _ => 400

def placeOrder (exchange : Exchange) (stamp : Stamp) (request : Request) : Handled := do
  let body ← readable (readBody Wire.decodeOrderBody request)
  match Side.parse body.side with
  | none => throw (errorReply 400 "'side' is not valid")
  | some side =>
    match Decimal.parse body.price, Decimal.parse body.size with
    | .ok price, .ok size =>
      if Text.isBlankText body.clientOrderId then
        throw (errorReply 400 "'clientOrderId' is required")
      else
        match (exchange.book body.symbol).place stamp.orderId side price size
            body.clientOrderId with
        | .error e =>
          return (errorReply (refusalStatus e) e.message, exchange.opened body.symbol)
        | .ok book =>
          return (.json 200 (Wire.encodeOrderReply ⟨stamp.orderId.text⟩),
            exchange.setBook body.symbol book)
    | _, _ => throw (errorReply 400 "'price' or 'size' is not a valid number format")

def cancelOrders (exchange : Exchange) (stamp : Stamp) : Handled :=
  match exchange.cancelledIds stamp.books stamp.orders with
  | [] => pure (errorReply 404 "No orders found", exchange.cancelled)
  | ids => pure (.json 200 (Wire.encodeCancelReply ⟨ids.map (·.text)⟩), exchange.cancelled)

def auctionParameter : String := "auction_id"

def beginAuction (exchange : Exchange) (segment : List Char) (request : Request) : Handled := do
  let id ← readable (readParameter auctionParameter segment)
  let body ← readable (readBody Wire.decodeAuctionBody request)
  if ¬ Uuid.isAccepted id then throw (.plain 400 "invalid auctionId")
  match Side.parse body.side with
  | none => throw (.plain 400 "'side' is not valid")
  | some side =>
    match Decimal.parse body.amountIn with
    | .error _ => throw (.plain 400 "'amountIn' is not a valid number format")
    | .ok amountIn =>
      match ← liftM ((exchange.book body.symbol).beginAuction id side amountIn).run with
      | .error e => return (.plain 400 e.message, exchange.opened body.symbol)
      | .ok (out, book) =>
        return (.json 200 (Wire.encodeAuctionReply ⟨id, out.canonical⟩),
          exchange.setBook body.symbol book)

def abortAuction (exchange : Exchange) (stamp : Stamp) (segment : List Char) : Handled := do
  let id ← readable (readParameter auctionParameter segment)
  match exchange.abort? stamp.books id with
  | some exchange => return (.json 200 (.object [("auctionId", .string id)]), exchange)
  | none => throw (errorReply 404 "Auction not found")

def serve (exchange : Exchange) (stamp : Stamp) (request : Request) (target : Target) :
    Resource → Handled
  | .depth symbol => exchange.showDepth stamp symbol target
  | .order => exchange.placeOrder stamp request
  | .orders => exchange.cancelOrders stamp
  | .beginAuction id => exchange.beginAuction id request
  | .abortAuction id => exchange.abortAuction stamp id

def route (exchange : Exchange) (stamp : Stamp) (request : Request) : Handled :=
  let target := Target.ofText request.target
  match Resource.ofTarget? target with
  | none => throw (.bare 404)
  | some resource =>
    if resource.allows request.method then exchange.serve stamp request target resource
    else throw (resource.refuse request.method (.bare 405))

def refuseAccess (request : Request) (e : AccessError) : Response :=
  let refusal := errorReply 401 e.message
  match Resource.ofTarget? (Target.ofText request.target) with
  | some resource => resource.refuse request.method refusal
  | none => refusal

/-- Whether a request is answered without a body: it asks for the head only of what could be
had as a whole. -/
def wantsHead (request : Request) : Bool :=
  request.method = .head &&
    ((Resource.ofTarget? (Target.ofText request.target)).map (·.allows .head)).getD false

def answer (exchange : Exchange) (stamp : Stamp) (request : Request) :
    Except Overflow Response × Exchange :=
  let sent (response : Response) : Response :=
    if wantsHead request then response.withoutBody else response
  match Presented.ofHeaders request.headers with
  | .error e => (.ok (sent (refuseAccess request e)), exchange)
  | .ok presented =>
    let exchange := { exchange with lastPresented := some presented }
    match (exchange.route stamp request).run with
    | .error o => (.error o, exchange)
    | .ok (.error response) => (.ok (sent response), exchange)
    | .ok (.ok (response, exchange)) => (.ok (sent response), exchange)

end Exchange

end SweepAudit
