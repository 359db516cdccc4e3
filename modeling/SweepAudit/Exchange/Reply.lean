import SweepAudit.Http.MediaType
import SweepAudit.Http.Message
import SweepAudit.Json.Decode
import SweepAudit.Text.Digits

/-!
What an exchange answers where it does not do what it is asked to: an error in JSON,
or a plain text where the request itself cannot be read.
-/

namespace SweepAudit

open Http Json

def errorReply (status : Nat) (message : String) : Response :=
  .json status (.object [("error", .string message)])

inductive QueryError where
  | number (cause : Text.IntegerError)
  | duplicate (name : String)
  deriving DecidableEq

def QueryError.message : QueryError → String
  | .number cause => cause.message
  | .duplicate name => s!"duplicate field `{name}`"

inductive Unreadable where
  /-- The bytes of a parameter of the path are no text. -/
  | path (parameter : String)
  | query (cause : QueryError)
  | mediaType
  | bodySize
  | body
  | bodyShape (path : List Step) (cause : Mismatch)
  deriving DecidableEq

def pathText : List Step → String
  | [] => ""
  | .key name :: steps => name ++ following steps
  | .index n :: steps => s!"[{n}]" ++ following steps
where
  following : List Step → String
    | [] => ""
    | .key name :: steps => "." ++ name ++ following steps
    | .index n :: steps => s!"[{n}]" ++ following steps

namespace Unreadable

def status : Unreadable → Nat
  | .path _ | .query _ | .body => 400
  | .mediaType => 415
  | .bodySize => 413
  | .bodyShape _ _ => 422

def message : Unreadable → String
  | .path parameter => s!"Invalid URL: Invalid UTF-8 in `{parameter}`"
  | .query cause => s!"Failed to deserialize query string: {cause.message}"
  | .mediaType => "Expected request with `Content-Type: application/json`"
  | .bodySize => "Failed to buffer the request body: length limit exceeded"
  | .body => "Failed to parse the request body as JSON"
  | .bodyShape [] cause =>
    s!"Failed to deserialize the JSON body into the target type: {cause.message}"
  | .bodyShape steps cause =>
    String.join
      ["Failed to deserialize the JSON body into the target type: ", pathText steps, ": ",
        cause.message]

def reply (e : Unreadable) : Response := .plain e.status e.message

end Unreadable

/-- How many bytes of a body are read at most. A longer body is not looked at. -/
def bodyLimit : Nat := 2097152

def readBody {α : Type} (decode : Decoder α) (request : Request) : Except Unreadable α :=
  match (plainHeader? contentType request.headers).bind MediaType.parse? with
  | some media =>
    if media.isJson then
      if bodyLimit < request.body.utf8ByteSize then .error .bodySize
      else
        match decodeLeading decode request.body with
        | .ok a => .ok a
        | .error (.fault _) => .error .body
        | .error (.shape path cause) => .error (.bodyShape path cause)
    else .error .mediaType
  | none => .error .mediaType

end SweepAudit
