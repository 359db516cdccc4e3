import SweepAudit.Http.Message
import SweepAudit.Http.Url.Reader

/-!
Fetching over a network. A network either answers a request to an address or does not;
it may keep a state of any kind. Answers that point elsewhere are followed.
-/

namespace SweepAudit.Http

abbrev Network (σ : Type) := Url → Request → StateM σ (Option Response)

variable {σ : Type}

def Network.silent : Network σ := fun _ _ => pure none

inductive Lost where
  | badUrl (cause : UrlError)
  /-- The scheme of the address is not served. -/
  | unserved (url : Url)
  /-- A request cannot hold the address. -/
  | unsendable (url : Url)
  | noAnswer (url : Url)
  | tooManyRedirects (url : Url)
  deriving DecidableEq

namespace Lost

def reason : Lost → String
  | .badUrl _ => "builder error"
  | .unserved url | .unsendable url => s!"builder error for url ({url.text})"
  | .noAnswer url => s!"error sending request for url ({url.text})"
  | .tooManyRedirects url => s!"error following redirect for url ({url.text})"

def cause? : Lost → Option String
  | .badUrl cause => some cause.message
  | .unserved _ => some "URL scheme is not allowed"
  | .unsendable _ => some "Parsed Url is not a valid Uri"
  | .noAnswer _ => none
  | .tooManyRedirects _ => some "too many redirects"

end Lost

def Url.asked (url : Url) : Except Lost Url :=
  let url := url.anonymous
  if !url.protocol.isServed then .error (.unserved url)
  else if !url.isSendable then .error (.unsendable url)
  else .ok url

def Request.bodyless (request : Request) : Request :=
  { request with
    method := .get
    headers := withoutHeader contentType request.headers
    body := "" }

/-- What is asked of the address to which an answer of the given status points, if one of that
status points anywhere. -/
def Request.redirected? (request : Request) (status : Nat) : Option Request :=
  match status with
  | 301 | 302 => some (if request.method = .post then request.bodyless else request)
  | 303 =>
    some (if request.method = .get ∨ request.method = .head then request else request.bodyless)
  | 307 | 308 => some request
  | _ => none

/-- Where an answer points, and what is asked there. An answer that points to no address is an
answer like any other. -/
def redirect? (url : Url) (request : Request) (response : Response) : Option (Url × Request) :=
  match request.redirected? response.status, header? "location" response.headers with
  | some next, some location => ((url.join location).toOption).map fun url => (url, next)
  | _, _ => none

def fetch (network : Network σ) (redirects : Nat) (url : Url) (request : Request) :
    StateM σ (Except Lost Response) := do
  match url.asked with
  | .error lost => return .error lost
  | .ok url =>
    match ← network url { request with target := url.target } with
    | none => return .error (.noAnswer url)
    | some response =>
      match redirect? url request response with
      | none => return .ok response
      | some (next, request) =>
        match redirects with
        | 0 => return .error (.tooManyRedirects next)
        | redirects + 1 => fetch network redirects next request

def maxRedirects : Nat := 10

def hasBody (status : Nat) : Bool := status != 204 && status != 304

end SweepAudit.Http
