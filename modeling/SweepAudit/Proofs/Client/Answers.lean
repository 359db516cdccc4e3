import Mathlib.Control.Monad.Basic
import SweepAudit.Client.Basic
import SweepAudit.Exchange.Hosted
import SweepAudit.Proofs.Client.Payload
import SweepAudit.Venue.Trace

/-!
What a client makes of any answer at all, whoever has given it. A status from 400 to 599 is
reported as it is by every call, with the body as the reason; only cancelling takes a 404 for
nothing to cancel. No other status is ever reported as one, whether or not the answer can be
read.
-/

namespace SweepAudit

open Http

/-- The error in which a call has ended, if it has. -/
def CallResult.error? {α : Type} : CallResult α → Option CallError
  | .ok _ => none
  | .error e => some e

theorem CallResult.error?_eq_some {α : Type} {result : CallResult α} {e : CallError} :
    result.error? = some e ↔ result = .error e := by
  cases result <;> simp [error?]

/-! Reading an answer -/

variable {response : Response}

namespace Reading

/-- The error in which a call ends on an answer, if it does. -/
def error? (response : Response) : Call → Option CallError
  | .depth _ => (depth response).error?
  | .placeOrder _ => (order response).error?
  | .cancelAll => (cancelled response).error?
  | .beginAuction _ => (settlement response).error?
  | .abortAuction _ => (aborted response).error?

theorem cancelled_status {code : Nat} {reason : String}
    (h : Payload.ofResponse response = .error (.status code reason)) :
    cancelled response = if code = 404 then .ok () else .error (.status code reason) := by
  rw [cancelled, h]
  by_cases h404 : code = 404
  · subst h404
    rfl
  · rw [if_neg h404]
    split
    · rename_i hok
      cases hok
    · rename_i hstatus
      cases hstatus
      exact absurd rfl h404
    · rename_i herror
      cases herror
      rfl

theorem error?_refused (h : isErrorStatus response.status = true) (call : Call) :
    error? response call =
      if call = .cancelAll ∧ response.status = 404 then none
      else some (.status response.status (Text.trim (Payload.bodyText response))) := by
  have hread := Payload.ofResponse_refused h
  cases call with
  | cancelAll =>
    rw [error?, cancelled_status hread]
    by_cases h404 : response.status = 404 <;> simp [h404, CallResult.error?]
  | depth symbol =>
    rw [error?, depth, hread]
    simp [bind, Except.bind, CallResult.error?]
  | placeOrder placed =>
    simp [error?, order_refused h, CallResult.error?]
  | beginAuction request =>
    simp [error?, settlement_refused h, CallResult.error?]
  | abortAuction id =>
    rw [error?, aborted, hread]
    simp [Except.map, CallResult.error?]

theorem settlement_eq_error {e : CallError} (h : isErrorStatus response.status = false)
    (he : settlement response = .error e) : ∃ reason, e = .decode reason := by
  obtain hpayload | ⟨payload, -, hread⟩ := bind_eq_error he
  · exact Payload.ofResponse_eq_error h hpayload
  · exact Payload.read_eq_error hread

/-- What is read of an answer is never a status that the answer has not. -/
theorem error?_ne_status (h : isErrorStatus response.status = false) (call : Call) {code : Nat}
    {reason : String} : error? response call ≠ some (.status code reason) := by
  have hanswer : Payload.ofResponse response ≠ .error (.status code reason) := by
    intro he
    obtain ⟨_, he⟩ := Payload.ofResponse_eq_error h he
    cases he
  have hrecord {α : Type} {decode : Json.Decoder α} {what : String} (payload : Payload) :
      payload.read decode what ≠ .error (.status code reason) := by
    intro he
    obtain ⟨_, he⟩ := Payload.read_eq_error he
    cases he
  intro he
  cases call with
  | depth symbol =>
    obtain hpayload | ⟨payload, -, he⟩ := bind_eq_error (CallResult.error?_eq_some.mp he)
    · exact hanswer hpayload
    obtain hreply | ⟨reply, -, he⟩ := bind_eq_error he
    · exact hrecord payload hreply
    by_cases hcode : reply.code = Wire.codeOk
    · rw [if_neg (Decidable.not_not.mpr hcode)] at he
      cases hdata : reply.data with
      | none =>
        rw [hdata] at he
        cases he
      | some snapshot =>
        rw [hdata] at he
        cases he
    · rw [if_pos hcode] at he
      cases he
  | placeOrder placed =>
    obtain hpayload | ⟨payload, -, he⟩ := bind_eq_error (CallResult.error?_eq_some.mp he)
    · exact hanswer hpayload
    obtain hreply | ⟨reply, -, he⟩ := bind_eq_error he
    · exact hrecord payload hreply
    split at he <;> cases he
  | cancelAll =>
    have he := CallResult.error?_eq_some.mp he
    rw [cancelled] at he
    split at he
    · cases he
    · cases he
    · rename_i hpayload
      cases he
      exact hanswer hpayload
  | beginAuction request =>
    obtain ⟨_, he⟩ := settlement_eq_error h (CallResult.error?_eq_some.mp he)
    cases he
  | abortAuction id =>
    have he := CallResult.error?_eq_some.mp he
    rw [aborted] at he
    cases hpayload : Payload.ofResponse response with
    | ok payload =>
      rw [hpayload] at he
      cases he
    | error e =>
      rw [hpayload] at he
      cases he
      exact hanswer hpayload

end Reading

/-! Calling over a network -/

variable {σ : Type}

/-- The error in which a call of a venue ends, if it does. -/
def Venue.error? (venue : Venue σ) : Call → StateM σ (Option CallError)
  | .depth symbol => CallResult.error? <$> venue.depth symbol
  | .placeOrder order => CallResult.error? <$> venue.placeOrder order
  | .cancelAll => CallResult.error? <$> venue.cancelAll
  | .beginAuction request => CallResult.error? <$> venue.beginAuction request
  | .abortAuction id => CallResult.error? <$> venue.abortAuction id

namespace Client

/-- The answer to a request, once those that point elsewhere have been followed. -/
def fetched (client : Client) (network : Network σ) (method : Method) (path : String)
    (body : Option Json) : StateM σ (Except Lost Response) :=
  match Url.parse (client.base ++ path) with
  | .error e => pure (.error (.badUrl e))
  | .ok url => fetch network maxRedirects url (client.request method body)

/-- The answer to a call. -/
def answer (client : Client) (network : Network σ) : Call → StateM σ (Except Lost Response)
  | .depth symbol => client.fetched network .get (client.depthPath symbol) none
  | .placeOrder order =>
    client.fetched network .post orderPath (some (Wire.encodeOrderBody (orderBody order)))
  | .cancelAll => client.fetched network .delete ordersPath none
  | .beginAuction request =>
    client.fetched network .post (beginAuctionPath request.auctionId.text)
      (some (Wire.encodeAuctionBody (auctionBody request)))
  | .abortAuction id => client.fetched network .post (abortAuctionPath id) none

/-- What a call makes of its answer, or of being without one. -/
def concluding {α : Type} (read : Response → CallResult α) : Except Lost Response → CallResult α
  | .error lost => .error (lostCall lost)
  | .ok response => read response

theorem call_eq {α : Type} (client : Client) (network : Network σ) (method : Method)
    (path : String) (body : Option Json) (read : Response → CallResult α) :
    client.call network method path body read =
      concluding read <$> client.fetched network method path body := by
  rw [Client.call, fetched]
  cases Url.parse (client.base ++ path) with
  | error e => rfl
  | ok url =>
    simp only [map_eq_pure_bind]
    congr 1
    funext answer
    cases answer <;> rfl

variable {client : Client} {network : Network σ} {state state' : σ}

theorem error?_answered {call : Call}
    (h : (client.answer network call).run state = (.ok response, state')) :
    ((client.venue network).error? call).run state = (Reading.error? response call, state') := by
  cases call <;> simp only [answer] at h <;>
    simp [Venue.error?, venue, call_eq, h, concluding, Reading.error?] <;> rfl

/-- A call that gets an answer ends with the status and the body of a refusal, and reports no
status but a refusal's. -/
theorem status_reported {call : Call}
    (h : (client.answer network call).run state = (.ok response, state')) :
    ∃ error?, ((client.venue network).error? call).run state = (error?, state') ∧
      (400 ≤ response.status ∧ response.status < 600 →
        error? = if call = .cancelAll ∧ response.status = 404 then none
          else some (.status response.status (Text.trim (Payload.bodyText response)))) ∧
      ∀ code reason, error? = some (.status code reason) →
        400 ≤ response.status ∧ response.status < 600 := by
  refine ⟨Reading.error? response call, error?_answered h, ?_, ?_⟩
  · intro hrefused
    apply Reading.error?_refused
    simpa [isErrorStatus] using hrefused
  · intro code reason he
    cases hstatus : isErrorStatus response.status with
    | true => simpa [isErrorStatus] using hstatus
    | false => exact absurd he (Reading.error?_ne_status hstatus call)

def localClient : Client := ⟨Hosted.base .first, ⟨.apiKey, "Bearer k"⟩, defaultDepthLimit⟩

/-- The network in which everything is answered alike. -/
def alwaysAnswering (response : Response) : Network Unit := fun _ _ => pure (some response)

theorem status_reported_unavailable :
    (localClient.answer (alwaysAnswering (.plain 503 " busy\n")) .cancelAll).run () =
      (.ok (.plain 503 " busy\n"), ()) ∧
    ((localClient.venue (alwaysAnswering (.plain 503 " busy\n"))).error? .cancelAll).run () =
      (some (.status 503 "busy"), ()) := by
  have hanswer : (localClient.answer (alwaysAnswering (.plain 503 " busy\n")) .cancelAll).run () =
      (.ok (.plain 503 " busy\n"), ()) := Prod.ext (by decide +kernel) rfl
  have hreason : Text.trim (Payload.bodyText (.plain 503 " busy\n")) = "busy" := by decide +kernel
  obtain ⟨error?, hrun, hrefused, -⟩ := status_reported hanswer
  refine ⟨hanswer, hrun.trans ?_⟩
  rw [hrefused (by decide), hreason]
  rfl

/-- An answer that would point elsewhere and does not say where. -/
def found : Response := .json 302 (Wire.encodeMarketDepth "A" 1 .empty)

theorem status_unreported_found :
    ¬(200 ≤ found.status ∧ found.status ≤ 299) ∧
    ∀ call ∈ [Call.depth "A", .cancelAll, .abortAuction "a"],
      ((localClient.answer (alwaysAnswering found) call).run ()).1 = .ok found ∧
      (((localClient.venue (alwaysAnswering found)).error? call).run ()).1 = none := by
  decide +kernel

end Client

end SweepAudit
