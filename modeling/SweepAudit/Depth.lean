import SweepAudit.Side

/-!
Depth as a market reports it: price levels in the decimal text in which they came,
best first on either side.
-/

namespace SweepAudit

/-- One price with the size that rests there. -/
structure Level where
  price : String
  size : String
  deriving DecidableEq, Repr

/-- Asks ascending by price, bids descending. -/
structure Snapshot where
  asks : List Level
  bids : List Level
  deriving DecidableEq, Repr

namespace Snapshot

def empty : Snapshot := ⟨[], []⟩

/-- The levels an auction on a side sweeps: a buyer lifts asks, a seller hits bids. -/
def liquidityFor (snapshot : Snapshot) : Side → List Level
  | .buy => snapshot.asks
  | .sell => snapshot.bids

end Snapshot

end SweepAudit
