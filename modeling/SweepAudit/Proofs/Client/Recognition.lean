import SweepAudit.Config.Basic
import SweepAudit.Proofs.Client.Hosted
import SweepAudit.Proofs.Credential
import SweepAudit.Proofs.Except

/-!
Credentials from the configuration to the exchange. A client refuses a key that is blank or that
no header can hold, and an exchange reads back what is plain text. So a key of visible ASCII,
spaces and tabs is recognised wherever it is accepted, and any other key is not. What an exchange
does with a key beyond reading it is not said.
-/

namespace SweepAudit

open Http

theorem Client.carriedBy_sent (client : Client) (method : Method) (body : Option Json)
    (target : String) : client.credential.CarriedBy (client.sent method body target).headers :=
  Credential.carriedBy_json

/-- The key is read back as it was given but for the white space around it, and no request of a
client with a configured key is barred. This is so for plain text, and for no other key. -/
theorem Credential.recognised_iff :
    (∀ scheme key credential headers, ofKey scheme key = .ok credential →
      credential.CarriedBy headers →
      (Presented.ofHeaders headers = .ok ⟨scheme, Text.trim key⟩ ↔
        (Text.trim key).toList.all isPlainChar = true)) ∧
    ∀ (config : Config) (client : Client), config.credential = .ok client.credential →
      ∀ (exchange : Exchange) stamp method body target response,
        (exchange.answer stamp (client.sent method body target)).1 = .ok response →
        (response.status ≠ 401 ↔ (Text.trim config.key).toList.all isPlainChar = true) := by
  refine ⟨?_, ?_⟩
  · intro scheme key credential headers h hcarried
    rw [ofHeaders_carried h hcarried]
    split
    · rename_i hplain
      exact iff_of_true rfl hplain
    · rename_i hforeign
      exact iff_of_false (fun hmissing => nomatch hmissing) hforeign
  · intro config client h exchange stamp method body target response hanswer
    have hread := ofHeaders_carried (mapError_eq_ok h) (client.carriedBy_sent method body target)
    rw [Ne, Exchange.answer_barred_iff hanswer, hread]
    split
    · rename_i hplain
      exact iff_of_true (fun ⟨e, he⟩ => nomatch he) hplain
    · rename_i hforeign
      exact iff_of_false (fun hnone => hnone ⟨_, rfl⟩) hforeign

def usualConfig : Config :=
  ⟨"http://localhost:8080", .publicKey, "k", some " MFk= ", "ETH-USD", 20, 9000⟩

theorem Credential.recognised_iff_usual :
    Presented.ofHeaders [("x-api-key", "Bearer abc def")] =
      .ok ⟨.apiKey, Text.trim " abc def "⟩ ∧
    usualConfig.credential = .ok ⟨.publicKey, "MFk="⟩ ∧
    ∀ (exchange : Exchange) stamp method body target response,
      (exchange.answer stamp (Client.sent ⟨Hosted.base .first, ⟨.publicKey, "MFk="⟩, 20⟩
        method body target)).1 = .ok response → response.status ≠ 401 := by
  have hcarried : CarriedBy ⟨.apiKey, "Bearer abc def"⟩ [("x-api-key", "Bearer abc def")] :=
    carriedBy_cons fun _ => rfl
  have hkey : ofKey .apiKey " abc def " = .ok ⟨.apiKey, "Bearer abc def"⟩ := by decide +kernel
  have hconfig : usualConfig.credential = .ok ⟨.publicKey, "MFk="⟩ := by decide +kernel
  refine ⟨(recognised_iff.1 _ _ _ _ hkey hcarried).mpr (by decide +kernel), hconfig, ?_⟩
  intro exchange stamp method body target response hanswer
  exact (recognised_iff.2 usualConfig ⟨Hosted.base .first, _, 20⟩ hconfig exchange stamp method
    body target response hanswer).mpr (by decide +kernel)

/-- With any other key a client is accepted, and everything that it asks for is barred. -/
theorem Credential.unrecognised_foreign :
    Text.trim "é" = "é" ∧ ofKey .apiKey "é" = .ok ⟨.apiKey, "Bearer é"⟩ ∧
    Presented.ofHeaders [("x-api-key", "Bearer é")] = .error .missing ∧
    ((Exchange.empty.answer (.plain ⟨0⟩ 0)
      (Client.sent ⟨Hosted.base .first, ⟨.apiKey, "Bearer é"⟩, 20⟩ .get none
        "/api/v1/orderbook/A")).1.toOption.map (·.status)) = some 401 := by
  decide +kernel

end SweepAudit
