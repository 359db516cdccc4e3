import SweepAudit.Proofs.Client.Payload

/-!
Nothing is lost on the wire. Every record comes back from its text, whichever way the text is
read; and where the two ends of a message use different records, a client reads what a market
has written.
-/

namespace SweepAudit.Wire

open Json

/-- Every record comes back from its text: where the text is decoded as a whole, where only its
front is, and where the value that it holds is parsed first and then decoded. -/
structure Lossless {α : Type} (encode : α → Json) (decode : Decoder α) : Prop where
  text (a : α) : decodeText decode (encode a).text = .ok a
  front (a : α) : decodeLeading decode (encode a).text = .ok a
  value (a : α) : ∃ value, Json.parse (encode a).text = .ok value ∧ decodeValue decode value = .ok a

theorem Lossless.of_decode {α : Type} {encode : α → Json} {decode : Decoder α}
    (hreadable : ∀ a, Readable (encode a)) (hnesting : ∀ a, nesting (encode a) < depthLimit)
    (hwritten : ∀ a, decode .text depthLimit (node (encode a)) = .ok a)
    (hsorted : ∀ a, decode .value depthLimit (node (sorted (encode a))) = .ok a) :
    Lossless encode decode where
  text a := by
    rw [decodeText, readDocument_text (hreadable a), hwritten a]
    rfl
  front a := by rw [decodeLeading_text decode (hreadable a), hwritten a]
  value a := ⟨sorted (encode a), parse_text (hreadable a) (hnesting a), hsorted a⟩

/-! Orders -/

theorem orderBody_lossless : Lossless encodeOrderBody decodeOrderBody :=
  .of_decode (fun _ => ⟨trivial, trivial, trivial, trivial, trivial, trivial⟩)
    (fun _ => (by decide : 1 < depthLimit)) (fun _ => rfl) (fun _ => rfl)

theorem orderReply_lossless : Lossless encodeOrderReply decodeOrderReply :=
  .of_decode (fun _ => ⟨trivial, trivial⟩) (fun _ => (by decide : 1 < depthLimit))
    (fun _ => rfl) (fun _ => rfl)

theorem decode_strings (source : Source) {room : Nat} (hroom : 1 < room) (ids : List String) :
    decodeList decodeString source room (node (.array (ids.map .string))) = .ok ids := by
  have hitems := @decodeItems_map _ .string (decodeString source (room - 1)) (fun _ => rfl) 0 ids
  rw [node, decodeList, enter, if_neg (Nat.not_le.mpr hroom), hitems]
  rfl

theorem decode_cancelReply (source : Source) (reply : CancelReply) :
    decodeCancelReply source depthLimit (node (encodeCancelReply reply)) = .ok reply := by
  refine (Fields.decode_object "CancelOrdersResponse" (by decide : 1 < depthLimit)
    ((Fields.collect_put (some reply.cancelledOrderIds) rfl ?_).trans rfl)).trans rfl
  change (((decodeList decodeString source 127 _).mapError _).map some) = _
  rw [decode_strings source (by decide)]
  rfl

theorem cancelReply_lossless : Lossless encodeCancelReply decodeCancelReply := by
  have hsorted (reply : CancelReply) :
      sorted (encodeCancelReply reply) = encodeCancelReply reply := by
    simp only [encodeCancelReply, sorted, sortedMembers,
      sortedItems_map Json.string (fun _ => rfl)]
    rfl
  refine .of_decode (fun _ => ⟨readable_strings _, trivial⟩) nesting_cancelReply
    (decode_cancelReply .text) fun reply => ?_
  rw [hsorted]
  exact decode_cancelReply .value reply

/-! Auctions -/

theorem auctionBody_lossless : Lossless encodeAuctionBody decodeAuctionBody :=
  .of_decode (fun _ => ⟨trivial, trivial, trivial, trivial⟩)
    (fun _ => (by decide : 1 < depthLimit)) (fun _ => rfl) (fun _ => rfl)

theorem auctionReply_lossless : Lossless encodeAuctionReply decodeAuctionReply :=
  .of_decode (fun _ => ⟨trivial, trivial, trivial⟩) (fun _ => (by decide : 1 < depthLimit))
    (fun _ => rfl) (fun _ => rfl)

/-! Depth -/

theorem level_lossless : Lossless encodeLevel decodeLevel :=
  .of_decode (fun _ => ⟨trivial, trivial, trivial⟩) (fun _ => (by decide : 1 < depthLimit))
    (decode_level .text (by decide)) (decode_level .value (by decide))

theorem readable_snapshot (snapshot : Snapshot) : Readable (encodeSnapshot snapshot) :=
  ⟨readable_levels _, readable_levels _, trivial⟩

theorem nesting_snapshot (snapshot : Snapshot) : nesting (encodeSnapshot snapshot) ≤ 3 := by
  have hasks := itemsNesting_levels snapshot.asks
  have hbids := itemsNesting_levels snapshot.bids
  simp only [encodeSnapshot, nesting, membersNesting]
  omega

theorem sorted_snapshot (snapshot : Snapshot) :
    sorted (encodeSnapshot snapshot) = encodeSnapshot snapshot := by
  simp only [encodeSnapshot, sorted, sortedMembers, sorted_levels]
  rfl

theorem decode_encodeSnapshot (source : Source) {room : Nat} (hroom : 3 < room)
    (snapshot : Snapshot) :
    decodeSnapshot source room (node (encodeSnapshot snapshot)) = .ok snapshot :=
  decode_snapshot hroom (by simp) rfl rfl

theorem snapshot_lossless : Lossless encodeSnapshot decodeSnapshot := by
  refine .of_decode readable_snapshot
    (fun snapshot => Nat.lt_of_le_of_lt (nesting_snapshot snapshot) (by decide))
    (decode_encodeSnapshot .text (by decide)) fun snapshot => ?_
  rw [sorted_snapshot]
  exact decode_encodeSnapshot .value (by decide) snapshot

theorem decode_depthReply (source : Source) (reply : DepthReply) :
    decodeDepthReply source depthLimit (node (encodeDepthReply reply)) = .ok reply := by
  refine (decodeDepthReply_object (by decide) (by simp)).mpr ⟨rfl, ?_⟩
  obtain ⟨code, data⟩ := reply
  cases data with
  | none => rfl
  | some snapshot =>
    change (decodeSnapshot source 127 (node (encodeSnapshot snapshot))).map some = _
    rw [decode_encodeSnapshot source (by decide)]
    rfl

theorem depthReply_lossless : Lossless encodeDepthReply decodeDepthReply := by
  have hreadable (reply : DepthReply) : Readable (encodeDepthReply reply) := by
    obtain ⟨code, _ | snapshot⟩ := reply
    · exact ⟨trivial, trivial, trivial⟩
    · exact ⟨trivial, readable_snapshot snapshot, trivial⟩
  have hnesting (reply : DepthReply) : nesting (encodeDepthReply reply) < depthLimit := by
    obtain ⟨code, _ | snapshot⟩ := reply
    · exact (by decide : 1 < depthLimit)
    · have := nesting_snapshot snapshot
      simp only [encodeDepthReply, Option.map_some, Option.getD_some, nesting, membersNesting,
        depthLimit]
      omega
  have hsorted (reply : DepthReply) : sorted (encodeDepthReply reply) = encodeDepthReply reply := by
    obtain ⟨code, _ | snapshot⟩ := reply
    · rfl
    · simp only [encodeDepthReply, Option.map_some, Option.getD_some, sorted, sortedMembers,
        sorted_snapshot]
      rfl
  refine .of_decode hreadable hnesting (decode_depthReply .text) fun reply => ?_
  rw [hsorted]
  exact decode_depthReply .value reply

/-- Every record of the wire comes back from its text, and a client reads the depth and the
settlement that a market reports. -/
theorem records_lossless :
    Lossless encodeLevel decodeLevel ∧ Lossless encodeSnapshot decodeSnapshot ∧
    Lossless encodeDepthReply decodeDepthReply ∧ Lossless encodeOrderBody decodeOrderBody ∧
    Lossless encodeOrderReply decodeOrderReply ∧ Lossless encodeCancelReply decodeCancelReply ∧
    Lossless encodeAuctionBody decodeAuctionBody ∧
    Lossless encodeAuctionReply decodeAuctionReply ∧
    (∀ symbol time snapshot,
      (∃ value, Json.parse (encodeMarketDepth symbol time snapshot).text = .ok value ∧
        decodeValue decodeDepthReply value = .ok ⟨codeOk, some snapshot⟩) ∧
      Reading.depth (.json 200 (encodeMarketDepth symbol time snapshot)) = .ok snapshot) ∧
    ∀ reply : AuctionReply,
      (∃ value, Json.parse (encodeAuctionReply reply).text = .ok value ∧
        decodeValue decodeSettlement value = .ok ⟨some reply.auctionId, reply.amountOut⟩) ∧
      Reading.settlement (.json 200 (encodeAuctionReply reply)) =
        .ok ⟨some reply.auctionId, reply.amountOut⟩ := by
  refine ⟨level_lossless, snapshot_lossless, depthReply_lossless, orderBody_lossless,
    orderReply_lossless, cancelReply_lossless, auctionBody_lossless, auctionReply_lossless, ?_, ?_⟩
  · intro symbol time snapshot
    exact ⟨read_marketDepth symbol time snapshot, Reading.depth_reported symbol time snapshot⟩
  · intro reply
    exact ⟨read_auctionReply reply, Reading.settlement_filled reply⟩

end SweepAudit.Wire
