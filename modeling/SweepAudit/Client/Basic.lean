import SweepAudit.Client.Payload
import SweepAudit.Credential

/-!
A client of an exchange that is reached over a network. A call is one request, which
carries the credential and declares its body to be JSON; it is never repeated.
-/

namespace SweepAudit

open Http

structure Client where
  /-- The address of the exchange, to which the paths of the calls are added. -/
  base : String
  credential : Credential
  /-- How many levels of either side are asked for. -/
  depthLimit : UInt32

namespace Client

def defaultDepthLimit : UInt32 := 20

def ofBase (base : String) (credential : Credential) : Client :=
  ⟨Text.trimEnd (· == '/') base, credential, defaultDepthLimit⟩

/-- The request of a call; its target is that of the address to which it goes. -/
def request (client : Client) (method : Method) (body : Option Json) : Request where
  method
  target := ""
  headers := [client.credential.header, (contentType, Response.jsonType)]
  body := (body.map (·.text)).getD ""

def lostCall (lost : Lost) : CallError := .transport lost.reason lost.cause?

variable {σ α : Type}

def call (client : Client) (network : Network σ) (method : Method) (path : String)
    (body : Option Json) (read : Response → CallResult α) : StateM σ (CallResult α) := do
  match Url.parse (client.base ++ path) with
  | .error e => return .error (lostCall (.badUrl e))
  | .ok url =>
    match ← fetch network maxRedirects url (client.request method body) with
    | .error lost => return .error (lostCall lost)
    | .ok response => return read response

def depthPath (client : Client) (symbol : String) : String :=
  s!"/api/v1/orderbook/{symbol}?limit={client.depthLimit}"

def orderPath : String := "/api/v1/order"

def ordersPath : String := "/api/v1/orders"

def beginAuctionPath (id : String) : String := s!"/lh/v1/begin_auction/{id}"

def abortAuctionPath (id : String) : String := s!"/lh/v1/abort_auction/{id}"

def orderBody (order : Order) : Wire.OrderBody where
  price := order.price.canonical
  size := order.size.canonical
  side := order.side.orderWord
  symbol := order.symbol
  clientOrderId := order.clientOrderId

def auctionBody (request : AuctionRequest) : Wire.AuctionBody where
  amountIn := request.amountIn
  symbol := request.symbol
  side := request.side.auctionWord

def venue (client : Client) (network : Network σ) : Venue σ where
  depth := fun symbol => client.call network .get (client.depthPath symbol) none Reading.depth
  placeOrder := fun order =>
    client.call network .post orderPath (some (Wire.encodeOrderBody (orderBody order)))
      Reading.order
  cancelAll := client.call network .delete ordersPath none Reading.cancelled
  beginAuction := fun request =>
    client.call network .post (beginAuctionPath request.auctionId.text)
      (some (Wire.encodeAuctionBody (auctionBody request))) Reading.settlement
  abortAuction := fun id => client.call network .post (abortAuctionPath id) none Reading.aborted

end Client

end SweepAudit
