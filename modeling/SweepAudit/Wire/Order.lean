import SweepAudit.Json.Decode

/-!
Placing and cancelling orders on the wire: the body that places one and the two
replies.
-/

namespace SweepAudit.Wire

open Json

structure OrderBody where
  price : String
  size : String
  side : String
  symbol : String
  clientOrderId : String
  deriving DecidableEq

def orderBodyFields : Fields OrderBody :=
  .map (fun (price, size, side, symbol, clientOrderId) =>
      ⟨price, size, side, symbol, clientOrderId⟩)
    (.both (.required "price" decodeString)
      (.both (.required "size" decodeString)
        (.both (.required "side" decodeString)
          (.both (.required "symbol" decodeString)
            (.field "ClientOrderId" decodeString none ["clientOrderId"])))))

def decodeOrderBody : Decoder OrderBody := orderBodyFields.decode "CreateOrderBody"

def encodeOrderBody (body : OrderBody) : Json :=
  .object
    [("price", .string body.price), ("size", .string body.size), ("side", .string body.side),
      ("symbol", .string body.symbol), ("ClientOrderId", .string body.clientOrderId)]

structure OrderReply where
  orderId : String
  deriving DecidableEq

def orderReplyFields : Fields OrderReply :=
  .map (⟨·⟩) (.withDefault "orderId" decodeString "")

def decodeOrderReply : Decoder OrderReply := orderReplyFields.decode "CreateOrderResponse"

def encodeOrderReply (reply : OrderReply) : Json :=
  .object [("orderId", .string reply.orderId)]

structure CancelReply where
  cancelledOrderIds : List String
  deriving DecidableEq

def cancelReplyFields : Fields CancelReply :=
  .map (⟨·⟩) (.withDefault "cancelledOrderIds" (decodeList decodeString) [])

def decodeCancelReply : Decoder CancelReply := cancelReplyFields.decode "CancelOrdersResponse"

def encodeCancelReply (reply : CancelReply) : Json :=
  .object [("cancelledOrderIds", .array (reply.cancelledOrderIds.map .string))]

end SweepAudit.Wire
