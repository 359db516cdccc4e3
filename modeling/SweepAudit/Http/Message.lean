import SweepAudit.Json.Value
import SweepAudit.Text.Case

/-!
Requests and responses as far as anything depends on them: a target of path and query,
headers in their order, and a body of text, which is empty where there is none. What
carries a response may fail before it has got the whole body.
-/

namespace SweepAudit.Http

inductive Method where
  | get
  | head
  | post
  | delete
  | other (name : String)
  deriving DecidableEq

namespace Method

def ofText (name : String) : Method :=
  if name = "GET" then .get
  else if name = "HEAD" then .head
  else if name = "POST" then .post
  else if name = "DELETE" then .delete
  else .other name

def text : Method → String
  | .get => "GET"
  | .head => "HEAD"
  | .post => "POST"
  | .delete => "DELETE"
  | .other name => name

end Method

/-- Names of headers with their values. The case of a name does not matter. -/
abbrev Headers := List (String × String)

/-- The value of a header; of several with one name the first counts. -/
def header? (name : String) (headers : Headers) : Option String :=
  (headers.find? fun header => Text.sameLetters header.1 name).map (·.2)

def withoutHeader (name : String) (headers : Headers) : Headers :=
  headers.filter fun header => !Text.sameLetters header.1 name

def contentType : String := "content-type"

/-- Whether a value may hold the character: controls may not be in it, but for the tab. -/
def isHeaderChar (c : Char) : Bool := c == '\t' || (' ' ≤ c && c != '\x7f')

def isPlainChar (c : Char) : Bool := c == '\t' || (' ' ≤ c && c ≤ '~')

def plainHeader? (name : String) (headers : Headers) : Option String :=
  (header? name headers).filter fun value => value.toList.all isPlainChar

structure Request where
  method : Method
  /-- The path with the query behind it, as they are sent. -/
  target : String
  headers : Headers
  body : String
  deriving DecidableEq

structure Response where
  status : Nat
  headers : Headers
  /-- The text of the body once its encodings are undone, unless it cannot be read to its end. -/
  body : Option String
  deriving DecidableEq

namespace Response

def jsonType : String := "application/json"

def plainType : String := "text/plain; charset=utf-8"

def bare (status : Nat) : Response := ⟨status, [], some ""⟩

def plain (status : Nat) (text : String) : Response :=
  ⟨status, [(contentType, plainType)], some text⟩

def json (status : Nat) (value : Json) : Response :=
  ⟨status, [(contentType, jsonType)], some value.text⟩

def withoutBody (response : Response) : Response := { response with body := some "" }

end Response

end SweepAudit.Http
