import SweepAudit.Exchange.Access
import SweepAudit.Http.Message
import SweepAudit.Proofs.Text.Cutting

/-!
Credentials on their way. A key that can be sent as plain text is accepted by an exchange,
for it is not blank and what is put in front of it is taken off again.
-/

namespace SweepAudit

open Http

namespace Text

theorem isBlankText_trim {s : String} (h : isBlankText s = false) :
    ∃ c ∈ (trim s).toList, isBlank c = false := by
  rw [isBlankText, List.all_eq_false] at h
  obtain ⟨c, hc, hblank⟩ := h
  rw [Bool.not_eq_true] at hblank
  rw [trim, String.toList_ofList]
  exact ⟨c, mem_trimBy hc hblank, hblank⟩

end Text

namespace Credential

variable {scheme : Scheme} {key : String} {credential : Credential} {headers : Headers}

/-- Of the headers that a scheme has of its own there is this one alone. -/
def CarriedBy (credential : Credential) (headers : Headers) : Prop :=
  ∀ scheme : Scheme, header? scheme.header headers =
    if scheme = credential.scheme then some credential.value else none

theorem carriedBy_cons (hothers : ∀ scheme : Scheme, header? scheme.header headers = none) :
    credential.CarriedBy (credential.header :: headers) := by
  intro scheme
  have hsame : Text.sameLetters credential.scheme.header scheme.header =
      decide (scheme = credential.scheme) := by
    cases scheme <;> cases credential.scheme <;> decide
  by_cases hscheme : scheme = credential.scheme
  · rw [if_pos hscheme, header?,
      List.find?_cons_of_pos (by simpa [Credential.header, hsame] using hscheme)]
    rfl
  · rw [if_neg hscheme, header?,
      List.find?_cons_of_neg (by simpa [Credential.header, hsame] using hscheme)]
    exact hothers scheme

theorem carriedBy_json :
    credential.CarriedBy [credential.header, (contentType, Response.jsonType)] :=
  carriedBy_cons fun scheme => by cases scheme <;> decide

theorem value_of_ofKey (h : ofKey scheme key = .ok credential) :
    credential = ⟨scheme, scheme.lead ++ Text.trim key⟩ ∧ Text.isBlankText key = false := by
  rw [ofKey] at h
  split at h
  · cases h
  · rename_i hblank
    dsimp only at h
    split at h
    · cases h
      exact ⟨rfl, Bool.eq_false_iff.mpr hblank⟩
    · cases h

/-- What an exchange makes of a key is told by whether it is plain text. If it is not, the exchange
takes the header for absent. -/
theorem ofHeaders_carried (h : ofKey scheme key = .ok credential)
    (hcarried : credential.CarriedBy headers) :
    Presented.ofHeaders headers =
      if (Text.trim key).toList.all isPlainChar then .ok ⟨scheme, Text.trim key⟩
      else .error .missing := by
  obtain ⟨rfl, hblank⟩ := value_of_ofKey h
  obtain ⟨c, hc, hcblank⟩ := Text.isBlankText_trim hblank
  have hlead : (scheme.lead ++ Text.trim key).toList.all isPlainChar =
      (Text.trim key).toList.all isPlainChar := by
    rw [String.toList_append, List.all_append]
    cases scheme <;> rfl
  have hshown : Text.isBlankText (scheme.lead ++ Text.trim key) = false := by
    rw [Text.isBlankText, List.all_eq_false]
    exact ⟨c, by rw [String.toList_append]; exact List.mem_append_right _ hc, by simp [hcblank]⟩
  have hvalue (other : Scheme) : Presented.value? headers other =
      if other = scheme ∧ (Text.trim key).toList.all isPlainChar = true then
        some (scheme.lead ++ Text.trim key)
      else none := by
    rw [Presented.value?, plainHeader?, hcarried other]
    by_cases hother : other = scheme
    · simp only [hother, if_true, true_and, Option.filter_some, hlead]
      split
      · rw [Option.filter_some, hshown]
        rfl
      · rfl
    · simp only [hother, if_false, false_and, Option.filter_none]
  rw [Presented.ofHeaders, hvalue, hvalue]
  by_cases hplain : (Text.trim key).toList.all isPlainChar = true
  · cases scheme with
    | apiKey =>
      obtain ⟨d, ds, hcons⟩ := List.exists_cons_of_ne_nil (List.ne_nil_of_mem hc)
      have hbearer : Presented.bearerKey? (Scheme.apiKey.lead ++ Text.trim key) =
          some (Text.trim key) := by
        rw [Presented.bearerKey?, String.toList_append, hcons]
        change some (String.ofList (d :: ds)) = _
        rw [← hcons, String.ofList_toList]
      simp only [hplain, and_self, if_true, hbearer]
    | publicKey =>
      have hkey : Scheme.publicKey.lead ++ Text.trim key = Text.trim key := String.empty_append
      simp [hplain, hkey]
  · simp [hplain]

/-- Every key that is sent as plain text is accepted. -/
theorem accepted (h : ofKey scheme key = .ok credential)
    (hplain : credential.value.toList.all isPlainChar = true) :
    ∃ presented, Presented.ofHeaders [credential.header, (contentType, Response.jsonType)] =
      .ok presented := by
  refine ⟨⟨scheme, Text.trim key⟩, ?_⟩
  rw [ofHeaders_carried h carriedBy_json, if_pos]
  obtain ⟨rfl, -⟩ := value_of_ofKey h
  rw [String.toList_append, List.all_append, Bool.and_eq_true] at hplain
  exact hplain.2

end Credential

end SweepAudit
