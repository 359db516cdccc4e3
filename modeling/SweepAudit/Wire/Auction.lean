import SweepAudit.Wire.Depth

/-!
Auctions on the wire: the body that begins one, the reply as a market writes it, and
the settlement as a client reads it, which need not name the auction.
-/

namespace SweepAudit

/-- What a market answers to an auction: the amount it pays out, in its own text. -/
structure Settlement where
  auctionId : Option String
  amountOut : String
  deriving DecidableEq

namespace Wire

open Json

structure AuctionBody where
  amountIn : String
  symbol : String
  side : String
  deriving DecidableEq

def auctionBodyFields : Fields AuctionBody :=
  .map (fun (amountIn, symbol, side) => ⟨amountIn, symbol, side⟩)
    (.both (.required "amountIn" decodeString)
      (.both (.required "symbol" decodeString) (.required "side" decodeString)))

def decodeAuctionBody : Decoder AuctionBody := auctionBodyFields.decode "BeginAuctionBody"

def encodeAuctionBody (body : AuctionBody) : Json :=
  .object
    [("amountIn", .string body.amountIn), ("symbol", .string body.symbol),
      ("side", .string body.side)]

structure AuctionReply where
  auctionId : String
  amountOut : String
  deriving DecidableEq

def auctionReplyFields : Fields AuctionReply :=
  .map (fun (auctionId, amountOut) => ⟨auctionId, amountOut⟩)
    (.both (.required "auctionId" decodeString) (.required "amountOut" decodeString))

def decodeAuctionReply : Decoder AuctionReply :=
  auctionReplyFields.decode "BeginAuctionResponse"

def encodeAuctionReply (reply : AuctionReply) : Json :=
  .object [("auctionId", .string reply.auctionId), ("amountOut", .string reply.amountOut)]

def settlementFields : Fields Settlement :=
  .map (fun (auctionId, amountOut) => ⟨auctionId, amountOut⟩)
    (.both (.withDefault "auctionId" (decodeOption decodeString) none)
      (.required "amountOut" decodeAmount))

def decodeSettlement : Decoder Settlement := settlementFields.decode "Settlement"

end Wire

end SweepAudit
