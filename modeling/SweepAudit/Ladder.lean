import SweepAudit.Decimal.Overflow
import SweepAudit.Venue.Basic

/-!
The ladder of orders that a market is seeded with: asks first, then bids, the i-th of
either at `base + i * priceStep` with size `i * sizeStep`. Their ids number the orders
from one on. Seeding clears the market and then places the ladder, up to the first
order that is not accepted.
-/

namespace SweepAudit

def clientOrderId (n : Nat) : String :=
  String.ofList
    (Text.hexPadded 8 n ++ "-0000-0000-0000-".toList ++ Text.hexPadded 12 n)

structure Ladder where
  symbol : String
  /-- How many levels either side has. -/
  depth : UInt32
  priceStep : Decimal
  sizeStep : Decimal

inductive SeedError where
  | cancel (cause : CallError)
  | place (clientOrderId : String) (cause : CallError)
  deriving DecidableEq

namespace SeedError

def message : SeedError → String
  | .cancel cause => s!"cancelling resting orders failed: {cause.message}"
  | .place id cause => s!"placing order {id} failed: {cause.message}"

def cause : SeedError → CallError
  | .cancel cause | .place _ cause => cause

end SeedError

namespace Ladder

def defaultDepth : UInt32 := 3

def ofSymbol (symbol : String) : Ladder := ⟨symbol, defaultDepth, .one, .ten⟩

/-- The order of a level, which is the `n`-th of all. Orders are counted without a bound here; a
counter of 32 bits comes to the same as long as the depth is less than `2 ^ 31`. -/
def order (ladder : Ladder) (base : Decimal) (side : Side) (level n : Nat) :
    Except Overflow Order := do
  let factor := Decimal.ofUInt32 (.ofNat level)
  let step ← factor.mul ladder.priceStep
  let price ← base.add step
  let size ← factor.mul ladder.sizeStep
  return ⟨ladder.symbol, side, price, size, clientOrderId n⟩

/-- One side of the ladder, its orders counted from `first` on. -/
def half (ladder : Ladder) (base : Decimal) (side : Side) (first : Nat) :
    Except Overflow (List Order) :=
  (List.range ladder.depth.toNat).mapM fun i => ladder.order base side (i + 1) (first + i)

def orders (ladder : Ladder) (base : Decimal) : Except Overflow (List Order) := do
  let asks ← ladder.half base .sell 1
  let bids ← ladder.half base .buy (ladder.depth.toNat + 1)
  return asks ++ bids

variable {σ : Type}

def placeAll (venue : Venue σ) : List Order → StateM σ (Except SeedError Unit)
  | [] => pure (.ok ())
  | order :: orders => do
    match ← venue.placeOrder order with
    | .ok _ => placeAll venue orders
    | .error cause => pure (.error (.place order.clientOrderId cause))

/-- Cancels whatever rests and places the ladder around a price. What has been placed before a
failure stays, since the next seeding cancels it. -/
def seed (ladder : Ladder) (venue : Venue σ) (base : Decimal) :
    Guarded σ (Except SeedError Unit) := do
  match ← venue.cancelAll with
  | .error cause => return .error (.cancel cause)
  | .ok () =>
    let orders ← Guarded.ofExcept (ladder.orders base)
    placeAll venue orders

end Ladder

end SweepAudit
