import SweepAudit.Http.Message
import SweepAudit.Text.Blank

/-!
Credentials. A deployment expects either an API key, which is sent as a bearer token,
or a public key, which is sent as it is; each has a header of its own. The white
space around a key does not belong to it.
-/

namespace SweepAudit

inductive Scheme where
  | apiKey
  | publicKey
  deriving DecidableEq

namespace Scheme

def name : Scheme → String
  | .apiKey => "api-key"
  | .publicKey => "public-key"

def header : Scheme → String
  | .apiKey => "x-api-key"
  | .publicKey => "x-public-key"

def lead : Scheme → String
  | .apiKey => "Bearer "
  | .publicKey => ""

end Scheme

inductive CredentialError where
  | emptyKey (scheme : Scheme)
  /-- The header cannot hold one of its characters. -/
  | unsendable
  deriving DecidableEq

def CredentialError.message : CredentialError → String
  | .emptyKey .apiKey => "empty API key"
  | .emptyKey .publicKey => "empty public key"
  | .unsendable => "failed to parse header value"

structure Credential where
  scheme : Scheme
  /-- The header's value. -/
  value : String
  deriving DecidableEq

namespace Credential

def ofKey (scheme : Scheme) (key : String) : Except CredentialError Credential :=
  if Text.isBlankText key then .error (.emptyKey scheme)
  else
    let value := scheme.lead ++ Text.trim key
    if value.toList.all Http.isHeaderChar then .ok ⟨scheme, value⟩ else .error .unsendable

def header (credential : Credential) : String × String :=
  (credential.scheme.header, credential.value)

end Credential

end SweepAudit
