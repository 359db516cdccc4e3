import SweepAudit.Side

/-!
The scenarios of an audit: a sweep of either side funded exactly, and one funded with
one unit more than the side can take.
-/

namespace SweepAudit

structure Scenario where
  side : Side
  overfund : Bool
  deriving DecidableEq, Repr

namespace Scenario

def all : List Scenario :=
  [⟨.buy, false⟩, ⟨.sell, false⟩, ⟨.buy, true⟩, ⟨.sell, true⟩]

def name (s : Scenario) : String :=
  if s.overfund then s!"{s.side.auctionWord}-overfund" else s.side.auctionWord

end Scenario

end SweepAudit
