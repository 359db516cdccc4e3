import SweepAudit.Proofs.Json.Record
import SweepAudit.Proofs.Json.Value
import SweepAudit.Wire.Auction
import SweepAudit.Wire.Depth
import SweepAudit.Wire.Order

/-!
What either end writes the other end reads. A body is decoded from its text, and a reply
from the value that its text holds, where the members come in the order of their keys.
-/

namespace SweepAudit

namespace Wire

open Json

theorem decode_orderBody (body : OrderBody) :
    decodeLeading decodeOrderBody (encodeOrderBody body).text = .ok body := by
  have hreadable : Readable (encodeOrderBody body) := by
    simp [encodeOrderBody, Readable, MembersReadable]
  rw [decodeLeading_text _ hreadable]
  rfl

theorem decode_auctionBody (body : AuctionBody) :
    decodeLeading decodeAuctionBody (encodeAuctionBody body).text = .ok body := by
  have hreadable : Readable (encodeAuctionBody body) := by
    simp [encodeAuctionBody, Readable, MembersReadable]
  rw [decodeLeading_text _ hreadable]
  rfl

/-! Levels -/

theorem sorted_levels (levels : List Level) :
    sortedItems (levels.map encodeLevel) = levels.map encodeLevel :=
  sortedItems_map encodeLevel (fun _ => rfl) levels

theorem readable_levels (levels : List Level) : ItemsReadable (levels.map encodeLevel) :=
  itemsReadable_map encodeLevel (fun _ => ⟨trivial, trivial, trivial⟩) levels

theorem itemsNesting_levels (levels : List Level) :
    itemsNesting (levels.map encodeLevel) ≤ 1 :=
  itemsNesting_map encodeLevel (fun _ => Nat.le_refl _) levels

theorem decode_level (source : Source) {room : Nat} (h : 1 < room) (level : Level) :
    decodeLevel source room (node (encodeLevel level)) = .ok level := by
  rw [encodeLevel, node, decodeLevel, enter, if_neg (Nat.not_le.mpr h)]
  rfl

theorem decode_levels (source : Source) {room : Nat} (h : 2 < room) (levels : List Level) :
    decodeLevels source room (node (.array (levels.map encodeLevel))) = .ok levels := by
  have hitems := decodeItems_map (decode_level source (by omega : 1 < room - 1)) 0 levels
  change decodeLevels source room (.array (itemNodes (levels.map encodeLevel)) none) = _
  simp only [decodeLevels, decodeOption, decodeList, enter, if_neg (by omega : ¬room ≤ 1), hitems]
  rfl

/-! Depth -/

variable {source : Source} {room : Nat} {members : List (String × Json)}

theorem snapshot_injective :
    Function.Injective fun (asks, bids) => (⟨asks, bids⟩ : Snapshot) := by
  rintro ⟨asks, bids⟩ ⟨asks', bids'⟩ h
  cases h
  rfl

/-- A snapshot is read of its two sides, whatever else is there. -/
theorem decodeSnapshot_object (hroom : 1 < room) (hkeys : (members.map (·.1)).Nodup)
    {snapshot : Snapshot} :
    decodeSnapshot source room (node (.object members)) = .ok snapshot ↔
      Fields.Reads decodeLevels (some []) source (room - 1) (members.lookup "asks")
          snapshot.asks ∧
        Fields.Reads decodeLevels (some []) source (room - 1) (members.lookup "bids")
          snapshot.bids := by
  rw [decodeSnapshot, Fields.decode_eq_read _ hroom]
  exact (Fields.read_map snapshot_injective).trans (Fields.read_fields (by decide) hkeys)

/-- A reply to a depth request is read of its code and its data, whatever else is there. -/
theorem decodeDepthReply_object (hroom : 1 < room) (hkeys : (members.map (·.1)).Nodup)
    {reply : DepthReply} :
    decodeDepthReply source room (node (.object members)) = .ok reply ↔
      Fields.Reads decodeString none source (room - 1) (members.lookup "code") reply.code ∧
        Fields.Reads (decodeOption decodeSnapshot) (some none) source (room - 1)
          (members.lookup "data") reply.data := by
  have hinjective : Function.Injective fun (code, data) => (⟨code, data⟩ : DepthReply) := by
    rintro ⟨code, data⟩ ⟨code', data'⟩ h
    cases h
    rfl
  rw [decodeDepthReply, Fields.decode_eq_read _ hroom]
  exact (Fields.read_map hinjective).trans (Fields.read_fields (by decide) hkeys)

theorem decode_snapshot (hroom : 3 < room) (hkeys : (members.map (·.1)).Nodup)
    {snapshot : Snapshot}
    (hasks : members.lookup "asks" = some (.array (snapshot.asks.map encodeLevel)))
    (hbids : members.lookup "bids" = some (.array (snapshot.bids.map encodeLevel))) :
    decodeSnapshot source room (node (.object members)) = .ok snapshot := by
  rw [decodeSnapshot_object (by omega) hkeys, hasks, hbids]
  exact ⟨decode_levels source (by omega) _, decode_levels source (by omega) _⟩

/-- The depth that a market reports is the depth that a client reads. -/
theorem read_marketDepth (symbol : String) (time : Int64) (snapshot : Snapshot) :
    ∃ value, Json.parse (encodeMarketDepth symbol time snapshot).text = .ok value ∧
      decodeValue decodeDepthReply value = .ok ⟨codeOk, some snapshot⟩ := by
  have hwide : Wide time.toInt := ⟨time.le_toInt, Int.lt_trans time.toInt_lt (by decide)⟩
  have hreadable : Readable (encodeMarketDepth symbol time snapshot) :=
    ⟨trivial, ⟨readable_levels _, readable_levels _, trivial, hwide, trivial⟩, trivial⟩
  have hnesting : nesting (encodeMarketDepth symbol time snapshot) < depthLimit := by
    have hasks := itemsNesting_levels snapshot.asks
    have hbids := itemsNesting_levels snapshot.bids
    simp only [encodeMarketDepth, nesting, membersNesting, depthLimit]
    omega
  -- The members are written in the order of their keys.
  have hsorted : sorted (encodeMarketDepth symbol time snapshot) =
      encodeMarketDepth symbol time snapshot := by
    rw [encodeMarketDepth]
    simp only [sorted, sortedMembers, sorted_levels]
    rfl
  refine ⟨_, parse_text hreadable hnesting, ?_⟩
  rw [hsorted, decodeValue, encodeMarketDepth]
  have hdata := @decode_snapshot .value 127
    [("asks", .array (snapshot.asks.map encodeLevel)),
      ("bids", .array (snapshot.bids.map encodeLevel)), ("symbol", .string symbol),
      ("time", .number (.whole time.toInt))]
    (by decide) (by simp) snapshot rfl rfl
  refine (decodeDepthReply_object (by decide) (by simp)).mpr ⟨rfl, ?_⟩
  change (decodeSnapshot .value 127 _).map some = _
  rw [hdata]
  rfl

theorem read_auctionReply (reply : AuctionReply) :
    ∃ value, Json.parse (encodeAuctionReply reply).text = .ok value ∧
      decodeValue decodeSettlement value = .ok ⟨some reply.auctionId, reply.amountOut⟩ :=
  ⟨_, parse_text ⟨trivial, trivial, trivial⟩ (by decide : 1 < 128), rfl⟩

theorem read_orderReply (reply : OrderReply) :
    ∃ value, Json.parse (encodeOrderReply reply).text = .ok value ∧
      decodeValue decodeOrderReply value = .ok reply :=
  ⟨_, parse_text ⟨trivial, trivial⟩ (by decide : 1 < 128), rfl⟩

/-! Lists of ids -/

theorem readable_strings (ids : List String) : ItemsReadable (ids.map .string) :=
  itemsReadable_map .string (fun _ => trivial) ids

theorem itemsNesting_strings (ids : List String) : itemsNesting (ids.map .string) ≤ 0 :=
  itemsNesting_map .string (fun _ => Nat.le_refl _) ids

theorem nesting_cancelReply (reply : CancelReply) :
    nesting (encodeCancelReply reply) < depthLimit := by
  have hids := itemsNesting_strings reply.cancelledOrderIds
  simp only [encodeCancelReply, nesting, membersNesting, depthLimit]
  omega

/-- The ids of cancelled orders can be read, which is all that a client asks of them. -/
theorem read_cancelReply (reply : CancelReply) :
    ∃ value, Json.parse (encodeCancelReply reply).text = .ok value :=
  ⟨_, parse_text ⟨readable_strings _, trivial⟩ (nesting_cancelReply reply)⟩

end Wire

end SweepAudit
