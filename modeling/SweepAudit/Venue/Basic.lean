import SweepAudit.Depth
import SweepAudit.Http.Status
import SweepAudit.Wire.Auction
import SweepAudit.Decimal.Text
import SweepAudit.Decimal.Overflow
import SweepAudit.Uuid

/-!
A venue is whatever answers the five calls that seeding and auditing make. It may
keep a state of any kind and answer as it likes; a call is made once and never
repeated.
-/

namespace SweepAudit

inductive CallError where
  /-- There was no answer at all; `cause` is what is known of the cause behind the reason. -/
  | transport (reason : String) (cause : Option String)
  | status (code : Nat) (body : String)
  | application (code : String)
  | decode (reason : String)
  | missingOrderId
  | invalidCredential (reason : String)
  deriving DecidableEq

namespace CallError

def message : CallError → String
  | .transport reason _ => s!"transport error: {reason}"
  | .status code body => s!"HTTP {Http.statusText code}: {body}"
  | .application code => s!"service answered with code {code}"
  | .decode reason => s!"unexpected response body: {reason}"
  | .missingOrderId => "order response carried no orderId"
  | .invalidCredential reason => s!"invalid credential header value: {reason}"

/-- Whether the venue itself turned the call down. An answer that is lost or garbled says
nothing about that. -/
def isRejection : CallError → Bool
  | .status _ _ | .application _ => true
  | _ => false

end CallError

structure Order where
  symbol : String
  side : Side
  price : Decimal
  size : Decimal
  clientOrderId : String
  deriving DecidableEq

/-- An auction to be begun, with the amount in its canonical text. -/
structure AuctionRequest where
  auctionId : Uuid
  symbol : String
  side : Side
  amountIn : String
  deriving DecidableEq

def AuctionRequest.ofAmount (id : Uuid) (symbol : String) (side : Side) (amount : Decimal) :
    AuctionRequest :=
  ⟨id, symbol, side, amount.canonical⟩

abbrev CallResult (α : Type) := Except CallError α

structure Venue (σ : Type) where
  depth : String → StateM σ (CallResult Snapshot)
  /-- Puts an order to rest and tells its id. -/
  placeOrder : Order → StateM σ (CallResult String)
  cancelAll : StateM σ (CallResult Unit)
  beginAuction : AuctionRequest → StateM σ (CallResult Settlement)
  abortAuction : String → StateM σ (CallResult Unit)

/-- A computation on a venue's state that an overflow may end. The state it has reached by
then remains. -/
abbrev Guarded (σ : Type) := ExceptT Overflow (StateM σ)

def Guarded.ofExcept {σ α : Type} (x : Except Overflow α) : Guarded σ α := ExceptT.mk (pure x)

end SweepAudit
