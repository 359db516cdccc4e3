import SweepAudit.Text.Percent
import SweepAudit.Text.Split

/-!
Targets of requests: a path, and behind a question mark a query, whose fields are
written as forms write them. A target may also be a whole address, of which only these
two count.
-/

namespace SweepAudit.Http

structure Target where
  path : List Char
  query : List Char

namespace Target

def isSchemeChar (c : Char) : Bool := c.isAlphanum || "+-.".toList.contains c

/-- What stands behind the scheme and the authority of an address, and a target that is none as
it is. An address without an authority is left as it is, too. -/
def behindAuthority (cs : List Char) : List Char :=
  match cs.dropWhile isSchemeChar with
  | ':' :: '/' :: '/' :: rest =>
    match rest.span fun c => !("/?#".toList.contains c) with
    | ([], _) => cs
    | (_, behind) => behind
  | _ => cs

/-- Takes a target apart. What follows a `#` is no part of it. -/
def ofText (text : String) : Target :=
  let (sent, _) := Text.cutBy (· == '#') (behindAuthority text.toList)
  let (path, query) := Text.cutBy (· == '?') sent
  ⟨path, query.getD []⟩

def segments (target : Target) : List (List Char) := Text.splitBy (· == '/') target.path

end Target

def formText (cs : List Char) : List Char :=
  Text.percentDecode (cs.map fun c => if c = '+' then ' ' else c)

/-- The fields of a form with their values; a field without a value has the empty one. -/
def formFields (query : List Char) : List (List Char × List Char) :=
  ((Text.splitBy (· == '&') query).filter fun part => !part.isEmpty).map fun part =>
    let (name, value) := Text.cutBy (· == '=') part
    (formText name, formText (value.getD []))

end SweepAudit.Http
