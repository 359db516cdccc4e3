import SweepAudit.Http.Network
import SweepAudit.Venue.Basic
import SweepAudit.Wire.Order

/-!
What a client makes of an answer. A status from 400 to 599 is a refusal, and its body
the reason, as far as it can be read; any other answer holds JSON if it says so, and else
nothing but its status.
-/

namespace SweepAudit

open Http

inductive Payload where
  | json (value : Json)
  | status (code : Nat)

namespace Payload

def bodyText (response : Response) : String :=
  match (response.body.getD "").toList with
  | '\ufeff' :: cs => String.ofList cs
  | cs => String.ofList cs

def isJson (response : Response) : Bool :=
  match plainHeader? contentType response.headers with
  | some value => Text.hasWord Response.jsonType.toList value.toList
  | none => false

def ofResponse (response : Response) : CallResult Payload :=
  let response := if hasBody response.status then response else response.withoutBody
  if isErrorStatus response.status then
    .error (.status response.status (Text.trim (bodyText response)))
  else if isJson response then
    match response.body.map Json.parse with
    | some (.ok value) => .ok (.json value)
    | _ => .error (.decode "error decoding response body")
  else .ok (.status response.status)

/-- The record that a payload holds; `what` names it in messages. -/
def read {α : Type} (decode : Json.Decoder α) (what : String) : Payload → CallResult α
  | .json value =>
    match Json.decodeValue decode value with
    | .ok a => .ok a
    | .error (.shape _ cause) => .error (.decode s!"{what}: {cause.message}")
    | .error (.fault _) => .error (.decode "error decoding response body")
  | .status code =>
    let status := statusText code
    .error (.decode s!"{what}: expected a JSON body, got bare status {status}")

end Payload

/-! The answer to each of the calls. -/

namespace Reading

def depth (response : Response) : CallResult Snapshot := do
  let payload ← Payload.ofResponse response
  let reply ← payload.read Wire.decodeDepthReply "market depth"
  if reply.code ≠ Wire.codeOk then throw (.application reply.code)
  match reply.data with
  | some snapshot => return snapshot
  | none => throw (.decode "market depth: missing data")

def order (response : Response) : CallResult String := do
  let payload ← Payload.ofResponse response
  let reply ← payload.read Wire.decodeOrderReply "create order"
  if reply.orderId.isEmpty then throw .missingOrderId
  return reply.orderId

def cancelled (response : Response) : CallResult Unit :=
  match Payload.ofResponse response with
  | .ok _ | .error (.status 404 _) => .ok ()
  | .error e => .error e

def settlement (response : Response) : CallResult Settlement := do
  let payload ← Payload.ofResponse response
  payload.read Wire.decodeSettlement "begin auction"

def aborted (response : Response) : CallResult Unit :=
  (Payload.ofResponse response).map fun _ => ()

end Reading

end SweepAudit
