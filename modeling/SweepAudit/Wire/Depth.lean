import SweepAudit.Depth
import SweepAudit.Json.Decode

/-!
Depth on the wire. A level is a pair of price and size; either may be a string,
which is kept as it is, or a number, which is turned into its text. A side that is
missing or `null` is empty.
-/

namespace SweepAudit.Wire

open Json

def decodeAmount : Decoder String := fun _ room node => do
  match ← ofFault (node.value room) with
  | .string s => return s
  | .number n => return n.text
  | _ => mismatch (.noVariant "WireDecimal")

def pairText : String := "a tuple of size 2"

def decodePair (source : Source) (room : Nat) (flaw : Option Flaw) :
    List Node → Decoded (Level × List Node)
  | [] => do
    ofFault (useFlaw flaw)
    mismatch (.wrongLength 0 pairText)
  | [price] => do
    let _ ← (decodeAmount source room price).mapError (.below (.index 0))
    ofFault (useFlaw flaw)
    mismatch (.wrongLength 1 pairText)
  | price :: size :: rest => do
    let p ← (decodeAmount source room price).mapError (.below (.index 0))
    let s ← (decodeAmount source room size).mapError (.below (.index 1))
    return (⟨p, s⟩, rest)

def decodeLevel : Decoder Level := fun source room node =>
  match node with
  | .array items flaw =>
    enter room fun room => do
      let (level, rest) ← decodePair source room flaw items
      closeArray source items.length rest flaw
      return level
  | node => unexpected pairText node

def encodeLevel (level : Level) : Json := .array [.string level.price, .string level.size]

def decodeLevels : Decoder (List Level) := fun source room node =>
  (decodeOption (decodeList decodeLevel) source room node).map (·.getD [])

def snapshotFields : Fields Snapshot :=
  .map (fun (asks, bids) => ⟨asks, bids⟩)
    (.both (.withDefault "asks" decodeLevels []) (.withDefault "bids" decodeLevels []))

def decodeSnapshot : Decoder Snapshot := snapshotFields.decode "DepthSnapshot"

def encodeSnapshot (snapshot : Snapshot) : Json :=
  .object
    [("asks", .array (snapshot.asks.map encodeLevel)),
      ("bids", .array (snapshot.bids.map encodeLevel))]

def codeOk : String := "OK"

structure DepthReply where
  code : String
  data : Option Snapshot
  deriving DecidableEq

def depthReplyFields : Fields DepthReply :=
  .map (fun (code, data) => ⟨code, data⟩)
    (.both (.required "code" decodeString)
      (.withDefault "data" (decodeOption decodeSnapshot) none))

def decodeDepthReply : Decoder DepthReply := depthReplyFields.decode "DepthResponse"

def encodeDepthReply (reply : DepthReply) : Json :=
  .object
    [("code", .string reply.code),
      ("data", (reply.data.map encodeSnapshot).getD .null)]

def encodeMarketDepth (symbol : String) (time : Int64) (snapshot : Snapshot) : Json :=
  .object
    [("code", .string codeOk),
      ("data", .object
        [("asks", .array (snapshot.asks.map encodeLevel)),
          ("bids", .array (snapshot.bids.map encodeLevel)),
          ("symbol", .string symbol), ("time", .number (.whole time.toInt))])]

end SweepAudit.Wire
