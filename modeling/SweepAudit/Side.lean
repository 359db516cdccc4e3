import SweepAudit.Text.Case

/-!
The two sides of a market and their spellings on the wire.
-/

namespace SweepAudit

inductive Side where
  | buy
  | sell
  deriving DecidableEq, Repr

namespace Side

def orderWord : Side → String
  | .buy => "buy"
  | .sell => "sell"

def auctionWord : Side → String
  | .buy => "BUY"
  | .sell => "SELL"

/-- Reads either spelling; the case of ASCII letters does not matter. -/
def parse (s : String) : Option Side :=
  let word := s.toList.map Text.lowerAscii
  if word = "buy".toList then some .buy
  else if word = "sell".toList then some .sell
  else none

theorem parse_orderWord (side : Side) : parse side.orderWord = some side := by
  cases side <;> decide

theorem parse_auctionWord (side : Side) : parse side.auctionWord = some side := by
  cases side <;> decide

end Side

end SweepAudit
