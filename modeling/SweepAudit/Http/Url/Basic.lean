import SweepAudit.Http.Host

/-!
Addresses of the web in their usual form: every part is written as it stands in the text
of the address, with its escapes.
-/

namespace SweepAudit.Http

/-- The scheme of an address. Those that are known here have a form of their own. -/
inductive Protocol where
  | http
  | https
  | ws
  | wss
  | ftp
  | file
  | other (name : List Char)
  deriving DecidableEq

namespace Protocol

def known : List (List Char × Protocol) :=
  [("http".toList, http), ("https".toList, https), ("ws".toList, ws), ("wss".toList, wss),
    ("ftp".toList, ftp), ("file".toList, file)]

def ofName (name : List Char) : Protocol :=
  ((known.find? fun entry => entry.1 == name).map (·.2)).getD (.other name)

def name : Protocol → List Char
  | .http => "http".toList
  | .https => "https".toList
  | .ws => "ws".toList
  | .wss => "wss".toList
  | .ftp => "ftp".toList
  | .file => "file".toList
  | .other name => name

def isKnown : Protocol → Bool
  | .other _ => false
  | _ => true

def isServed (protocol : Protocol) : Bool := protocol == .http || protocol == .https

def usualNumber? : Protocol → Option Nat
  | .http | .ws => some 80
  | .https | .wss => some 443
  | .ftp => some 21
  | .file | .other _ => none

end Protocol

structure UserInfo where
  user : List Char
  password : Option (List Char)
  deriving DecidableEq

namespace UserInfo

def nobody : UserInfo := ⟨[], none⟩

def text (info : UserInfo) : List Char :=
  if info = nobody then []
  else info.user ++ ((info.password.map (':' :: ·)).getD []) ++ ['@']

/-- Whether anything is told that is text behind its escapes. A password that is none does not
count, and neither does anything beside a user that is none. -/
def isReadable (info : UserInfo) : Bool :=
  match Text.percentDecode? info.user with
  | none => false
  | some user => !user.isEmpty || (info.password.bind Text.percentDecode?).isSome

end UserInfo

structure Authority where
  info : UserInfo
  host : Host
  /-- The number behind the host, unless it is the usual one. -/
  number : Option Nat
  deriving DecidableEq

def Authority.text (authority : Authority) : List Char :=
  authority.info.text ++ authority.host.text ++
    ((authority.number.map fun n => ':' :: Nat.toDigits 10 n).getD [])

inductive UrlPath where
  /-- A text without parts. -/
  | plain (text : List Char)
  /-- Parts, each of which stands behind a slash. -/
  | parts (segments : List (List Char))
  deriving DecidableEq

namespace UrlPath

def text : UrlPath → List Char
  | .plain text => text
  | .parts segments => segments.flatMap ('/' :: ·)

def segments : UrlPath → List (List Char)
  | .plain _ => []
  | .parts segments => segments

end UrlPath

structure Url where
  protocol : Protocol
  authority : Option Authority
  path : UrlPath
  query : Option (List Char)
  fragment : Option (List Char)
  deriving DecidableEq

namespace Url

def marked (mark : Char) (part : Option (List Char)) : List Char :=
  (part.map (mark :: ·)).getD []

def target (url : Url) : String := String.ofList (url.path.text ++ marked '?' url.query)

/-- What stands between the scheme and the path. Without an authority, two slashes at the front
of the path must not be taken for the beginning of one. -/
def place (url : Url) : List Char :=
  match url.authority, url.path.text with
  | some authority, _ => "//".toList ++ authority.text
  | none, '/' :: '/' :: _ => "/.".toList
  | none, _ => []

def text (url : Url) : String :=
  String.ofList
    (url.protocol.name ++ ':' :: url.place ++ url.path.text ++ marked '?' url.query ++
      marked '#' url.fragment)

/-- The address without what it tells of who asks, which is sent in another way if it can be
read. -/
def anonymous (url : Url) : Url :=
  match url.authority with
  | some authority =>
    if authority.info.isReadable then
      { url with authority := some { authority with info := .nobody } }
    else url
  | none => url

def isUnsendable (c : Char) : Bool := "\"`\x7b\x7d".toList.contains c

def maxLength : Nat := 65534

def isSendable (url : Url) : Bool :=
  url.text.utf8ByteSize ≤ maxLength &&
    match url.authority with
    | some authority => !authority.host.text.any isUnsendable
    | none => true

end Url

end SweepAudit.Http
