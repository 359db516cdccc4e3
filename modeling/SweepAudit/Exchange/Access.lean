import SweepAudit.Credential

/-!
What an exchange makes of the credentials of a request. The API key counts if there
is one, well formed or not; a header whose value is blank or not plain text counts as
absent.
-/

namespace SweepAudit

inductive AccessError where
  | malformedKey
  | missing
  deriving DecidableEq

def AccessError.message : AccessError → String
  | .malformedKey => "Malformed API key"
  | .missing => "Missing credentials"

structure Presented where
  scheme : Scheme
  key : String
  deriving DecidableEq

namespace Presented

def value? (headers : Http.Headers) (scheme : Scheme) : Option String :=
  (Http.plainHeader? scheme.header headers).filter fun value => !Text.isBlankText value

def bearerKey? (value : String) : Option String :=
  match Scheme.apiKey.lead.toList.isPrefixOf? value.toList with
  | some [] | none => none
  | some key => some (String.ofList key)

def ofHeaders (headers : Http.Headers) : Except AccessError Presented :=
  match value? headers .apiKey with
  | some value =>
    match bearerKey? value with
    | some key => .ok ⟨.apiKey, key⟩
    | none => .error .malformedKey
  | none =>
    match value? headers .publicKey with
    | some key => .ok ⟨.publicKey, key⟩
    | none => .error .missing

end Presented

end SweepAudit
