import SweepAudit.Venue.Basic

/-!
Watching a venue: the same venue with a record of the calls made to it, in order.
-/

namespace SweepAudit

inductive Call where
  | depth (symbol : String)
  | placeOrder (order : Order)
  | cancelAll
  | beginAuction (request : AuctionRequest)
  | abortAuction (auctionId : String)
  deriving DecidableEq

/-- A venue's state with the calls it has seen. -/
structure Traced (σ : Type) where
  state : σ
  calls : List Call

namespace Venue

variable {σ α : Type}

def noting (call : Call) (answer : StateM σ α) : StateM (Traced σ) α := fun traced =>
  let (a, state) := answer.run traced.state
  (a, ⟨state, traced.calls ++ [call]⟩)

def traced (venue : Venue σ) : Venue (Traced σ) where
  depth := fun symbol => noting (.depth symbol) (venue.depth symbol)
  placeOrder := fun order => noting (.placeOrder order) (venue.placeOrder order)
  cancelAll := noting .cancelAll venue.cancelAll
  beginAuction := fun request => noting (.beginAuction request) (venue.beginAuction request)
  abortAuction := fun id => noting (.abortAuction id) (venue.abortAuction id)

end Venue

end SweepAudit
