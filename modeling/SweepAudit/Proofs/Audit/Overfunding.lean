import SweepAudit.Proofs.Audit.Verdict
import SweepAudit.Proofs.Client.Answers

/-!
What an overfunded scenario makes of the answer to its auction, where the venue is reached over a
network. It passes on a refusal and on nothing else: an answer that is lost or cannot be read
fails it no less than a settlement does. Which answers a network gives is not said here.
-/

namespace SweepAudit

open Http

namespace Reading

variable {response : Response} {held : Settlement}

/-- An answer holds a settlement: it says in plain text that it is JSON, and it can be read as
one. -/
structure Settles (response : Response) (held : Settlement) : Prop where
  declared : ∃ value, plainHeader? contentType response.headers = some value ∧
    Response.jsonType.toList <:+: value.toList
  readable : ∃ value, (Payload.received response).body.map Json.parse = some (.ok value) ∧
    Json.decodeValue Wire.decodeSettlement value = .ok held

theorem settlement_eq_ok (h : isErrorStatus response.status = false) :
    settlement response = .ok held ↔ Settles response held := by
  rw [settlement, Payload.ofResponse_read h]
  constructor
  · intro hread
    obtain ⟨payload, hpayload, hread⟩ := bind_eq_ok hread
    obtain ⟨value, rfl, hvalue⟩ := Payload.read_eq_ok.mp hread
    split at hpayload
    · rename_i hjson
      split at hpayload
      · rename_i hparse
        cases hpayload
        exact ⟨Payload.isJson_iff.mp hjson, _, hparse, hvalue⟩
      · cases hpayload
    · cases hpayload
  · intro hsettles
    obtain ⟨value, hparse, hvalue⟩ := hsettles.readable
    rw [if_pos (Payload.isJson_iff.mpr hsettles.declared), hparse]
    exact Payload.read_eq_ok.mpr ⟨value, rfl, hvalue⟩

end Reading

namespace Scenario

variable {σ : Type} {side : Side}

/-- What becomes of an overfunded scenario on the answer to its auction, or for want of one. -/
def Overfunds (report : Report) : Except Lost Response → Prop
  | .error lost =>
    report.passed = false ∧ report.failure = some (.submissionFailed (Client.lostCall lost))
  | .ok response =>
    (report.passed = true ↔ 400 ≤ response.status ∧ response.status < 600) ∧
    (report.passed = false →
      (∃ held, Reading.Settles response held ∧
        report.failure = some (.unexpectedFill held.amountOut)) ∨
      (¬∃ held, Reading.Settles response held) ∧
        ∃ reason, report.failure = some (.submissionFailed (.decode reason)))

theorem judge_overfunded (liquidity : Liquidity) (fund expected : Decimal)
    (answer : Except Lost Response) :
    Overfunds (judge ⟨side, true⟩ (submitted ⟨side, true⟩ liquidity fund) expected
      (Client.concluding Reading.settlement answer)) answer := by
  cases answer with
  | error lost => exact ⟨rfl, rfl⟩
  | ok response =>
    rw [Client.concluding]
    cases hstatus : isErrorStatus response.status with
    | true =>
      rw [Reading.settlement_refused hstatus]
      simp only [isErrorStatus, Bool.and_eq_true, decide_eq_true_eq] at hstatus
      refine ⟨iff_of_true rfl hstatus, ?_⟩
      intro hfailed
      cases hfailed
    | false =>
      have hother : ¬(400 ≤ response.status ∧ response.status < 600) := by
        simpa [isErrorStatus] using hstatus
      cases hread : Reading.settlement response with
      | ok held =>
        refine ⟨iff_of_false Bool.false_ne_true hother, fun _ => .inl ?_⟩
        exact ⟨held, (Reading.settlement_eq_ok hstatus).mp hread, rfl⟩
      | error e =>
        obtain ⟨reason, rfl⟩ := Reading.settlement_eq_error hstatus hread
        refine ⟨iff_of_false Bool.false_ne_true hother, fun _ => .inr ?_⟩
        refine ⟨?_, reason, rfl⟩
        rintro ⟨held, hsettles⟩
        rw [(Reading.settlement_eq_ok hstatus).mpr hsettles] at hread
        cases hread

/-- However the network behaves, once the depth has been read and adds up. -/
theorem overfunded_judged (client : Client) (network : Network σ) (symbol : String) (side : Side)
    (id : Uuid) (session : Session σ) (liquidity : Liquidity) (fund : Decimal)
    (h : Submits ⟨side, true⟩
      (((client.venue network).depth symbol).run session.venue).1 liquidity fund) :
    ∃ report session', (runCounted (client.venue network) symbol ⟨side, true⟩ id).run.run session =
        (.ok report, session') ∧
      Overfunds report ((client.answer network
        (.beginAuction (.ofAmount id symbol side fund))).run
        (((client.venue network).depth symbol).run session.venue).2).1 := by
  refine ⟨_, _, runCounted_of_run session (run_of_submits h), ?_⟩
  have hbegin : (client.venue network).beginAuction (.ofAmount id symbol side fund) =
      Client.concluding Reading.settlement <$>
        client.answer network (.beginAuction (.ofAmount id symbol side fund)) :=
    Client.call_eq client network _ _ _ _
  simp only [hbegin, StateT.run_map]
  exact judge_overfunded liquidity fund _ _

/-- A network with an ask of three at two, where an auction gets the same answer always. -/
def answeringAuctions (answer : Response) : Network Unit := fun _ request =>
  pure (some (if request.method = .get
    then .json 200 (Wire.encodeMarketDepth "A" 1 ⟨[⟨"2", "3"⟩], []⟩) else answer))

theorem overfunded_judged_turnedDown :
    ∃ report session, (runCounted (Client.localClient.venue
        (answeringAuctions (.plain 400 "insufficient liquidity"))) "A" ⟨.buy, true⟩ ⟨0⟩).run.run
          ⟨(), .empty⟩ = (.ok report, session) ∧ report.passed = true := by
  have hsubmits : Submits ⟨.buy, true⟩ (((Client.localClient.venue
      (answeringAuctions (.plain 400 "insufficient liquidity"))).depth "A").run ()).1
      ⟨.ofUInt32 6, .ofUInt32 3⟩ (.ofUInt32 7) :=
    ⟨⟨⟨[⟨"2", "3"⟩], []⟩, by decide +kernel, by decide +kernel⟩, .inl rfl, by decide +kernel⟩
  obtain ⟨report, session, hrun, hverdict⟩ :=
    overfunded_judged Client.localClient _ "A" .buy ⟨0⟩ ⟨(), .empty⟩ _ _ hsubmits
  have hanswer : ((Client.localClient.answer
      (answeringAuctions (.plain 400 "insufficient liquidity"))
      (.beginAuction (.ofAmount ⟨0⟩ "A" .buy (.ofUInt32 7)))).run
        (((Client.localClient.venue (answeringAuctions (.plain 400 "insufficient liquidity"))).depth
          "A").run ()).2).1 = .ok (.plain 400 "insufficient liquidity") := by
    decide +kernel
  rw [hanswer] at hverdict
  exact ⟨report, session, hrun, hverdict.1.mpr (by decide)⟩

/-- A settlement, in a type of content that is not plain text. -/
def foreignFill : Response :=
  ⟨200, [(contentType, "application/json; charset=é")], some "\x7b\"amountOut\":\"1\"\x7d"⟩

/-- The type of content names JSON, the body is a settlement, and yet nothing is taken to be
filled. -/
theorem overfunded_misjudged_foreign :
    (∃ value, header? contentType foreignFill.headers = some value ∧
      Response.jsonType.toList <:+: value.toList) ∧
    (foreignFill.body.bind fun body => (Json.parse body).toOption.bind fun value =>
      (Json.decodeValue Wire.decodeSettlement value).toOption) = some ⟨none, "1"⟩ ∧
    ((Client.localClient.answer (answeringAuctions foreignFill)
      (.beginAuction (.ofAmount ⟨0⟩ "A" .buy (.ofUInt32 7)))).run ()).1 = .ok foreignFill ∧
    (((runCounted (Client.localClient.venue (answeringAuctions foreignFill)) "A" ⟨.buy, true⟩
        ⟨0⟩).run.run ⟨(), .empty⟩).1.toOption.map fun report =>
          (report.state, report.fundAmount, report.failure)) =
      some (.failed, some (.ofUInt32 7), some (.submissionFailed
        (.decode "begin auction: expected a JSON body, got bare status 200 OK"))) := by
  refine ⟨⟨"application/json; charset=é", by decide +kernel, ?_⟩, by decide +kernel,
    by decide +kernel, by decide +kernel⟩
  exact Text.hasWord_iff.mp (by decide +kernel)

end Scenario

end SweepAudit
