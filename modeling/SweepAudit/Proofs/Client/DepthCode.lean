import SweepAudit.Proofs.Client.Answers
import SweepAudit.Proofs.Wire.Grammar

/-!
A reply to a depth request that carries another code than the usual one. The code is looked at
only after the whole reply has been read, data and all; so it is reported if the data can be
read, or is not there, and else the reply counts as garbled, which is no rejection.
-/

namespace SweepAudit

open Http

variable {response : Response} {code : String}

namespace Wire

/-- A body that can be read as a reply with the code. -/
def RepliesWith (body : Option String) (code : String) : Prop :=
  ∃ members data, body.map Json.parse = some (.ok (.object members)) ∧
    members.lookup "code" = some (.string code) ∧ DataIs (members.lookup "data") data

/-- What may stand for a reply with the code: every object that has the code does. -/
def Carries (body : Option String) (code : String) : Prop :=
  ∀ value, body.map Json.parse = some (.ok value) →
    ∃ members, value = .object members ∧ members.lookup "code" = some (.string code)

end Wire

namespace Reading

theorem depth_of_reply {value : Json} {reply : Wire.DepthReply}
    (hpayload : Payload.ofResponse response = .ok (.json value))
    (hreply : Json.decodeValue Wire.decodeDepthReply value = .ok reply)
    (hcode : reply.code ≠ Wire.codeOk) : depth response = .error (.application reply.code) := by
  rw [depth, hpayload]
  change (do
    let reply ← Payload.read Wire.decodeDepthReply "market depth" (.json value)
    _ : CallResult Snapshot) = _
  rw [Payload.read_record hreply]
  exact if_pos hcode

theorem depth_garbled {payload : Payload}
    (hpayload : Payload.ofResponse response = .ok payload)
    (hreply : ∀ reply, payload.read Wire.decodeDepthReply "market depth" ≠ .ok reply) :
    ∃ reason, depth response = .error (.decode reason) := by
  rw [depth, hpayload]
  cases hread : payload.read Wire.decodeDepthReply "market depth" with
  | ok reply => exact absurd hread (hreply reply)
  | error e =>
    obtain ⟨reason, rfl⟩ := Payload.read_eq_error hread
    exact ⟨reason, by simp only [bind, Except.bind, hread]⟩

theorem depth_unparsed {e : CallError} (hpayload : Payload.ofResponse response = .error e) :
    depth response = .error e := by
  rw [depth, hpayload]
  rfl

/-- An answer with a bad code is reported by the code if it can be read, and is garbled else. -/
theorem depth_coded (hstatus : isErrorStatus response.status = false)
    (hjson : Payload.isJson response = true)
    (hcarries : Wire.Carries (Payload.received response).body code) (hcode : code ≠ Wire.codeOk) :
    ∃ e, depth response = .error e ∧
      (Wire.RepliesWith (Payload.received response).body code → e = .application code) ∧
      (¬Wire.RepliesWith (Payload.received response).body code → ∃ reason, e = .decode reason) := by
  have hpayload := Payload.ofResponse_read hstatus
  rw [hjson, if_pos rfl] at hpayload
  by_cases hparses : ∃ value, (Payload.received response).body.map Json.parse = some (.ok value)
  · obtain ⟨value, hparse⟩ := hparses
    rw [hparse] at hpayload
    obtain ⟨members, rfl, hmember⟩ := hcarries value hparse
    obtain ⟨body, -, hbody⟩ := Option.map_eq_some_iff.mp hparse
    have hkeyed := Json.keyed_parse hbody
    have hreplies (data : Option Snapshot) : Json.decodeValue Wire.decodeDepthReply
        (.object members) = .ok ⟨code, data⟩ ↔ Wire.DataIs (members.lookup "data") data :=
      (Wire.decodeDepthReply_eq_ok (by decide) hkeyed hmember).trans (by simp)
    by_cases hdata : ∃ data, Wire.DataIs (members.lookup "data") data
    · obtain ⟨data, hdata⟩ := hdata
      refine ⟨.application code, depth_of_reply hpayload ((hreplies data).mpr hdata) hcode,
        fun _ => rfl, fun hnot => absurd ⟨members, data, hparse, hmember, hdata⟩ hnot⟩
    · obtain ⟨reason, hgarbled⟩ := depth_garbled hpayload fun reply hread => by
        obtain ⟨value, hvalue, hdecode⟩ := Payload.read_eq_ok.mp hread
        cases hvalue
        have hreply := (Wire.decodeDepthReply_eq_ok (by decide) hkeyed hmember).mp hdecode
        exact hdata ⟨reply.data, hreply.2⟩
      refine ⟨.decode reason, hgarbled, ?_, fun _ => ⟨reason, rfl⟩⟩
      rintro ⟨members', data, hread, -, hdata'⟩
      rw [hparse] at hread
      cases hread
      exact absurd ⟨data, hdata'⟩ hdata
  · have hgarbled : Payload.ofResponse response =
        .error (.decode "error decoding response body") := by
      rw [hpayload]
      split
      · rename_i value hparse
        exact absurd ⟨value, hparse⟩ hparses
      · rfl
    refine ⟨_, depth_unparsed hgarbled, ?_, fun _ => ⟨_, rfl⟩⟩
    rintro ⟨members, data, hread, -⟩
    exact absurd ⟨_, hread⟩ hparses

end Reading

namespace Client

variable {σ : Type} {client : Client} {network : Network σ} {state state' : σ} {symbol : String}

theorem depth_answered
    (h : (client.answer network (.depth symbol)).run state = (.ok response, state')) :
    ((client.venue network).depth symbol).run state = (Reading.depth response, state') := by
  simp only [answer] at h
  simp [venue, call_eq, h, concluding]
  rfl

/-- A bad code is reported as such exactly if the whole reply can be read, its data included;
else the call ends as if nothing could be read, and nothing has been rejected. -/
theorem depth_application_iff
    (hanswer : (client.answer network (.depth symbol)).run state = (.ok response, state'))
    (hstatus : 200 ≤ response.status ∧ response.status ≤ 299)
    (hjson : Payload.isJson response = true)
    (hcarries : Wire.Carries (Payload.received response).body code) (hcode : code ≠ Wire.codeOk) :
    ∃ e, ((client.venue network).depth symbol).run state = (.error e, state') ∧
      (e = .application code ↔ Wire.RepliesWith (Payload.received response).body code) ∧
      (e.isRejection = true ↔ Wire.RepliesWith (Payload.received response).body code) ∧
      (e = .application code ∨ ∃ reason, e = .decode reason) := by
  have hfine : isErrorStatus response.status = false := by
    simp only [isErrorStatus, Bool.and_eq_false_iff, decide_eq_false_iff_not]
    omega
  obtain ⟨e, he, hreplies, hgarbled⟩ := Reading.depth_coded hfine hjson hcarries hcode
  refine ⟨e, he ▸ depth_answered hanswer, ?_⟩
  by_cases hread : Wire.RepliesWith (Payload.received response).body code
  · cases hreplies hread
    simp [hread, CallError.isRejection]
  · obtain ⟨reason, rfl⟩ := hgarbled hread
    simp [hread, CallError.isRejection]

def replying (code : String) (data : Json) : Response :=
  .json 200 (.object [("code", .string code), ("data", data)])

theorem depth_application_iff_closed :
    (200 ≤ (replying "CLOSED" .null).status ∧ (replying "CLOSED" .null).status ≤ 299) ∧
    Payload.isJson (replying "CLOSED" .null) = true ∧
    Wire.Carries (Payload.received (replying "CLOSED" .null)).body "CLOSED" ∧
    ((localClient.venue (alwaysAnswering (replying "CLOSED" .null))).depth "A").run () =
      (.error (.application "CLOSED"), ()) := by
  have hanswer : (localClient.answer (alwaysAnswering (replying "CLOSED" .null))
      (.depth "A")).run () = (.ok (replying "CLOSED" .null), ()) :=
    Prod.ext (by decide +kernel) rfl
  have hparse : (Payload.received (replying "CLOSED" .null)).body.map Json.parse =
      some (.ok (.object [("code", .string "CLOSED"), ("data", .null)])) :=
    congrArg some (@Json.parse_text (.object [("code", .string "CLOSED"), ("data", .null)])
      ⟨trivial, trivial, trivial⟩ (by decide))
  have hcarries : Wire.Carries (Payload.received (replying "CLOSED" .null)).body "CLOSED" := by
    intro value hvalue
    rw [hparse] at hvalue
    cases hvalue
    exact ⟨_, rfl, rfl⟩
  refine ⟨by decide, by decide +kernel, hcarries, ?_⟩
  obtain ⟨e, hrun, hcode, -⟩ := depth_application_iff hanswer (by decide) (by decide +kernel)
    hcarries (by decide)
  rw [hrun, hcode.mpr ⟨_, none, hparse, rfl, trivial⟩]

/-- Data of the wrong shape hides the code that stands beside it. -/
theorem depth_application_hidden :
    (localClient.answer (alwaysAnswering (replying "ERR" (.number (.whole 5)))) (.depth "A")).run
      () = (.ok (replying "ERR" (.number (.whole 5))), ()) ∧
    Payload.isJson (replying "ERR" (.number (.whole 5))) = true ∧
    (replying "ERR" (.number (.whole 5))).body.map Json.parse =
      some (.ok (.object [("code", .string "ERR"), ("data", .number (.whole 5))])) ∧
    ((localClient.venue (alwaysAnswering (replying "ERR" (.number (.whole 5))))).depth "A").run
      () = (.error (.decode
        "market depth: invalid type: integer `5`, expected struct DepthSnapshot"), ()) := by
  have hparse : (replying "ERR" (.number (.whole 5))).body.map Json.parse =
      some (.ok (.object [("code", .string "ERR"), ("data", .number (.whole 5))])) :=
    congrArg some (@Json.parse_text
      (.object [("code", .string "ERR"), ("data", .number (.whole 5))])
      ⟨trivial, ⟨by decide, by decide⟩, trivial⟩ (by decide))
  refine ⟨Prod.ext (by decide +kernel) rfl, by decide +kernel, hparse, ?_⟩
  exact Prod.ext (by decide +kernel) rfl

end Client

end SweepAudit
