import SweepAudit.Client.Payload
import SweepAudit.Exchange.Reply
import SweepAudit.Proofs.Except
import SweepAudit.Proofs.Text.Cutting
import SweepAudit.Proofs.Wire

/-!
What a client makes of an answer. A refusal is taken for one of the same status, whoever it
comes from, and what cannot be read of any other answer is no refusal. From an exchange, a
record in JSON is read as the record that was written.
-/

namespace SweepAudit

open Http

variable {response : Response}

namespace Payload

variable {e : CallError}

/-- An answer as it arrives. Behind some statuses there is no body. -/
def received (response : Response) : Response :=
  if hasBody response.status then response else response.withoutBody

theorem status_received (response : Response) : (received response).status = response.status := by
  by_cases h : hasBody response.status = true <;> simp [received, h, Response.withoutBody]

theorem isJson_received (response : Response) : isJson (received response) = isJson response := by
  by_cases h : hasBody response.status = true <;> simp [received, h, Response.withoutBody, isJson]

theorem hasBody_of_refusal {status : Nat} (h : isErrorStatus status = true) :
    hasBody status = true := by
  simp only [isErrorStatus, Bool.and_eq_true, decide_eq_true_eq] at h
  simp only [hasBody, Bool.and_eq_true, bne_iff_ne]
  omega

theorem ofResponse_refused (h : isErrorStatus response.status = true) :
    ofResponse response = .error (.status response.status (Text.trim (bodyText response))) := by
  rw [ofResponse, hasBody_of_refusal h]
  simp [h]

theorem ofResponse_read (h : isErrorStatus response.status = false) :
    ofResponse response =
      if isJson response then
        match (received response).body.map Json.parse with
        | some (.ok value) => .ok (.json value)
        | _ => .error (.decode "error decoding response body")
      else .ok (.status response.status) := by
  rw [← isJson_received, ← status_received response]
  rw [← status_received] at h
  change (if isErrorStatus (received response).status then _ else _) = _
  rw [h]
  rfl

theorem isJson_iff : isJson response = true ↔
    ∃ value, plainHeader? contentType response.headers = some value ∧
      Response.jsonType.toList <:+: value.toList := by
  rw [isJson]
  cases plainHeader? contentType response.headers with
  | none => simp
  | some value => simp [Text.hasWord_iff]

theorem ofResponse_eq_error (h : isErrorStatus response.status = false)
    (he : ofResponse response = .error e) : ∃ reason, e = .decode reason := by
  rw [ofResponse_read h] at he
  split at he
  · split at he
    · cases he
    · cases he
      exact ⟨_, rfl⟩
  · cases he

theorem read_eq_error {α : Type} {decode : Json.Decoder α} {what : String} {payload : Payload}
    (h : payload.read decode what = .error e) : ∃ reason, e = .decode reason := by
  cases payload with
  | json value =>
    rw [read] at h
    split at h
    · cases h
    · cases h
      exact ⟨_, rfl⟩
    · cases h
      exact ⟨_, rfl⟩
  | status code =>
    cases h
    exact ⟨_, rfl⟩

theorem read_eq_ok {α : Type} {decode : Json.Decoder α} {what : String} {payload : Payload}
    {a : α} : payload.read decode what = .ok a ↔
      ∃ value, payload = .json value ∧ Json.decodeValue decode value = .ok a := by
  cases payload with
  | status code => simp [Payload.read]
  | json value =>
    cases hvalue : Json.decodeValue decode value with
    | ok a' => simp [read, hvalue]
    | error e => cases e <;> simp [read, hvalue]

theorem ofResponse_json {value parsed : Json} (h : Json.parse value.text = .ok parsed) :
    Payload.ofResponse (.json 200 value) = .ok (.json parsed) := by
  have hheader : plainHeader? contentType (Response.json 200 value).headers =
      some Response.jsonType := by
    change plainHeader? contentType [(contentType, Response.jsonType)] = _
    decide
  have hjson : isJson (.json 200 value) = true := by
    rw [isJson, hheader]
    decide
  have hbody : hasBody (Response.json 200 value).status = true := rfl
  have hfine : isErrorStatus (Response.json 200 value).status = false := rfl
  have htext : (Response.json 200 value).body.map Json.parse = some (.ok parsed) :=
    congrArg some h
  rw [ofResponse]
  simp only [hbody, hfine, hjson, htext, if_true, Bool.false_eq_true, if_false]

theorem read_record {α : Type} {decode : Json.Decoder α} {what : String} {value : Json} {a : α}
    (h : Json.decodeValue decode value = .ok a) :
    (Payload.json value).read decode what = .ok a := by
  rw [Payload.read, h]

end Payload

namespace Reading

theorem depth_reported (symbol : String) (time : Int64) (snapshot : Snapshot) :
    depth (.json 200 (Wire.encodeMarketDepth symbol time snapshot)) = .ok snapshot := by
  obtain ⟨value, hparse, hdecode⟩ := Wire.read_marketDepth symbol time snapshot
  rw [depth, Payload.ofResponse_json hparse]
  change (do
    let reply ← Payload.read Wire.decodeDepthReply "market depth" (.json value)
    _ : CallResult Snapshot) = _
  rw [Payload.read_record hdecode]
  rfl

theorem order_placed {orderId : String} (h : orderId.isEmpty = false) :
    order (.json 200 (Wire.encodeOrderReply ⟨orderId⟩)) = .ok orderId := by
  obtain ⟨value, hparse, hdecode⟩ := Wire.read_orderReply ⟨orderId⟩
  rw [order, Payload.ofResponse_json hparse]
  change (do
    let reply ← Payload.read Wire.decodeOrderReply "create order" (.json value)
    _ : CallResult String) = _
  rw [Payload.read_record hdecode]
  change (if orderId.isEmpty = true then _ else _) = _
  rw [h]
  rfl

theorem cancelled_orders (ids : List String) :
    cancelled (.json 200 (Wire.encodeCancelReply ⟨ids⟩)) = .ok () := by
  obtain ⟨value, hparse⟩ := Wire.read_cancelReply ⟨ids⟩
  rw [cancelled, Payload.ofResponse_json hparse]

theorem cancelled_nothing (message : String) : cancelled (errorReply 404 message) = .ok () := by
  rw [cancelled, Payload.ofResponse_refused rfl]
  rfl

theorem settlement_filled (reply : Wire.AuctionReply) :
    settlement (.json 200 (Wire.encodeAuctionReply reply)) =
      .ok ⟨some reply.auctionId, reply.amountOut⟩ := by
  obtain ⟨value, hparse, hdecode⟩ := Wire.read_auctionReply reply
  rw [settlement, Payload.ofResponse_json hparse]
  exact Payload.read_record hdecode

theorem order_refused (h : isErrorStatus response.status = true) :
    order response =
      .error (.status response.status (Text.trim (Payload.bodyText response))) := by
  rw [order, Payload.ofResponse_refused h]
  rfl

theorem settlement_refused (h : isErrorStatus response.status = true) :
    settlement response =
      .error (.status response.status (Text.trim (Payload.bodyText response))) := by
  rw [settlement, Payload.ofResponse_refused h]
  rfl

end Reading

end SweepAudit
