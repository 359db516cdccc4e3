import SweepAudit.Http.Url.Basic
import SweepAudit.Http.Url.Path
import SweepAudit.Power
import SweepAudit.Text.Blank
import SweepAudit.Text.Split

/-!
Reading addresses, which brings them into their usual form. The scheme decides what
follows it: those that are known have an authority, however many slashes stand before it;
files have one behind two slashes; and any other scheme may have an authority, a path of
segments, or a text.
-/

namespace SweepAudit.Http

inductive UrlError where
  | noScheme
  | host (cause : HostError)
  | badNumber
  deriving DecidableEq

def UrlError.message : UrlError → String
  | .noScheme => "relative URL without a base"
  | .host cause => cause.message
  | .badNumber => "invalid port number"

namespace Url

def tidy (cs : List Char) : List Char :=
  (Text.trimBy (· ≤ ' ') cs).filter fun c => !(c == '\t' || c == '\n' || c == '\r')

def splitScheme? (cs : List Char) : Option (List Char × List Char) :=
  match Text.cutBy (· == ':') cs with
  | (c :: name, some rest) =>
    if c.isAlpha && name.all fun d => d.isAlphanum || "+-.".toList.contains d then
      some ((c :: name).map Text.lowerAscii, rest)
    else none
  | _ => none

def isSlash (protocol : Protocol) (c : Char) : Bool :=
  c == '/' || (c == '\\' && protocol.isKnown)

def isAuthorityEnd (protocol : Protocol) (c : Char) : Bool :=
  isSlash protocol c || c == '?' || c == '#'

/-! What stands behind the path -/

def queryKeeps (protocol : Protocol) (c : Char) : Bool :=
  isVisible c && !("\"#<>".toList.contains c) && !(c == '\'' && protocol.isKnown)

def fragmentKeeps (c : Char) : Bool := isVisible c && !("\"<>`".toList.contains c)

/-- A path as it is written, with what stands behind it in its usual form. -/
structure Parts where
  path : List Char
  query : Option (List Char)
  fragment : Option (List Char)

def Parts.ofChars (protocol : Protocol) (cs : List Char) : Parts :=
  let (sent, fragment) := Text.cutBy (· == '#') cs
  let (path, query) := Text.cutBy (· == '?') sent
  { path
    query := query.map (Text.percentEncode (queryKeeps protocol))
    fragment := fragment.map (Text.percentEncode fragmentKeeps) }

/-! Authorities -/

def infoKeeps (c : Char) : Bool := pathKeeps c && !("/:;=@[\\]^|".toList.contains c)

/-- Reads what stands before the `@`. A password that is empty is none. -/
def readInfo (cs : List Char) : UserInfo :=
  let (user, password) := Text.cutBy (· == ':') cs
  { user := Text.percentEncode infoKeeps user
    password := (password.filter fun cs => !cs.isEmpty).map (Text.percentEncode infoKeeps) }

/-- A host, and what is behind it; a colon between brackets does not end it. -/
def splitHost (protocol : Protocol) (inBrackets : Bool) : List Char → List Char × List Char
  | [] => ([], [])
  | c :: cs =>
    if isAuthorityEnd protocol c || (c == ':' && !inBrackets) then ([], c :: cs)
    else
      let (host, rest) := splitHost protocol (c == '[' || (inBrackets && c != ']')) cs
      (c :: host, rest)

def readHost (protocol : Protocol) (cs : List Char) : Except UrlError Host :=
  if protocol.isKnown then
    if cs.isEmpty then .error (.host .empty) else (Host.readKnown cs).mapError .host
  else (Host.readOther cs).mapError .host

/-- Reads the number behind a host. A backslash ends it in any scheme. -/
def readNumber (protocol : Protocol) (cs : List Char) : Except UrlError (Option Nat × List Char) :=
  let digits := cs.takeWhile Text.isDigit
  let rest := cs.dropWhile Text.isDigit
  let n := (Text.numberFrom? 0 digits).getD 0
  if twoTo 16 ≤ n then .error .badNumber
  else if rest.head?.any fun c => !isAuthorityEnd .http c then .error .badNumber
  else .ok (if digits.isEmpty ∨ protocol.usualNumber? = some n then none else some n, rest)

/-- Reads a host with its number. No number stands behind a host that is none. -/
def readPlace (protocol : Protocol) (info : UserInfo) (cs : List Char) :
    Except UrlError (Authority × List Char) := do
  let (name, rest) := splitHost protocol false cs
  let host ← readHost protocol name
  match rest with
  | ':' :: rest =>
    if host = .nothing then throw (.host .empty)
    let (number, rest) ← readNumber protocol rest
    return (⟨info, host, number⟩, rest)
  | rest =>
    if host = .nothing ∧ info ≠ .nobody then throw (.host .empty)
    return (⟨info, host, none⟩, rest)

/-- Reads an authority. The last `@` ends what is told of who asks. -/
def readAuthority (protocol : Protocol) (cs : List Char) :
    Except UrlError (Authority × List Char) :=
  let all := cs.takeWhile fun c => !isAuthorityEnd protocol c
  let rest := cs.dropWhile fun c => !isAuthorityEnd protocol c
  if all.contains '@' then
    let place := (all.reverse.takeWhile (· != '@')).reverse
    let info := all.take (all.length - place.length - 1)
    if info.isEmpty ∧ place.isEmpty ∧ ¬rest.isEmpty then .error (.host .empty)
    else readPlace protocol (readInfo info) (place ++ rest)
  else readPlace protocol .nobody cs

/-! Addresses -/

def readSegments (protocol : Protocol) (cs : List Char) : UrlPath :=
  .parts (resolve false [] (Text.splitBy (isSlash protocol) cs))

def pathBehind (protocol : Protocol) : List Char → UrlPath
  | [] => .parts (if protocol.isKnown then [[]] else [])
  | c :: cs => readSegments protocol (if isSlash protocol c then cs else c :: cs)

def ofAuthority (protocol : Protocol) (cs : List Char) : Except UrlError Url := do
  let (authority, rest) ← readAuthority protocol cs
  let parts := Parts.ofChars protocol rest
  return ⟨protocol, some authority, pathBehind protocol parts.path, parts.query, parts.fragment⟩

/-- A text without parts. A blank at its end is written as an escape if anything follows. -/
def plainPath (parts : Parts) : UrlPath :=
  let text := Text.percentEncode Host.isPrinted parts.path
  if text.getLast? = some ' ' ∧ (parts.query.isSome ∨ parts.fragment.isSome) then
    .plain (text.dropLast ++ "%20".toList)
  else .plain text

def ofOther (protocol : Protocol) (cs : List Char) : Except UrlError Url :=
  match cs with
  | '/' :: '/' :: cs => ofAuthority protocol cs
  | cs =>
    let parts := Parts.ofChars protocol cs
    let path := match parts.path with
      | '/' :: inside => readSegments protocol inside
      | _ => plainPath parts
    .ok ⟨protocol, none, path, parts.query, parts.fragment⟩

/-- The address of a file on a host. A path in which a drive is named belongs to no host. -/
def ofFile (host : Host) (inside : List Char) (parts : Parts) : Url :=
  let segments := Text.splitBy (isSlash .file) inside
  { protocol := .file
    authority := some ⟨.nobody, if segments.any isDrive then .nothing else host, none⟩
    path := .parts (dropEmpty (resolve true [] segments))
    query := parts.query
    fragment := parts.fragment }

def readFileHost (cs : List Char) : Except UrlError Host :=
  if cs.isEmpty then .ok .nothing
  else do
    let host ← (Host.readKnown cs).mapError .host
    return if host = .name "localhost".toList then .nothing else host

def ofHostedFile (cs : List Char) : Except UrlError Url := do
  let name := cs.takeWhile fun c => !isAuthorityEnd .file c
  if isDrive name then
    let parts := Parts.ofChars .file cs
    return ofFile .nothing parts.path parts
  else
    let host ← readFileHost name
    let parts := Parts.ofChars .file (cs.dropWhile fun c => !isAuthorityEnd .file c)
    return ofFile host (if host = .nothing then parts.path else parts.path.drop 1) parts

def ofAnyFile (cs : List Char) : Except UrlError Url :=
  let slashes := (cs.takeWhile (isSlash .file)).length
  if 2 ≤ slashes then ofHostedFile (cs.drop 2)
  else
    let parts := Parts.ofChars .file (cs.drop slashes)
    .ok (ofFile .nothing parts.path parts)

def ofProtocol (protocol : Protocol) (cs : List Char) : Except UrlError Url :=
  match protocol with
  | .file => ofAnyFile cs
  | .other _ => ofOther protocol cs
  | _ => ofAuthority protocol (cs.dropWhile (isSlash protocol))

def parse (s : String) : Except UrlError Url :=
  match splitScheme? (tidy s.toList) with
  | some (name, rest) => ofProtocol (.ofName name) rest
  | none => .error .noScheme

def within (base : Url) (cs : List Char) : Url :=
  let parts := Parts.ofChars base.protocol cs
  let beside := { base with fragment := parts.fragment }
  match parts.path with
  | [] => { beside with query := parts.query.or base.query }
  | c :: inside =>
    let path :=
      if isSlash base.protocol c then readSegments base.protocol inside
      else
        .parts (resolve false base.path.segments.dropLast
          (Text.splitBy (isSlash base.protocol) parts.path))
    { beside with path, query := parts.query }

def relative (base : Url) (cs : List Char) : Except UrlError Url :=
  if 2 ≤ (cs.takeWhile (isSlash base.protocol)).length then
    ofAuthority base.protocol (cs.dropWhile (isSlash base.protocol))
  else .ok (within base cs)

def join (base : Url) (s : String) : Except UrlError Url :=
  let cs := tidy s.toList
  match splitScheme? cs with
  | some (name, rest) =>
    let protocol := Protocol.ofName name
    if protocol = base.protocol ∧ (rest.takeWhile (isSlash protocol)).length < 2 then
      relative base rest
    else ofProtocol protocol rest
  | none => relative base cs

end Url

end SweepAudit.Http
