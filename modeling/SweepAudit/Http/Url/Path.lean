import SweepAudit.Text.Case
import SweepAudit.Text.Percent

/-!
Paths of addresses. Dot segments are resolved, what a path cannot hold is written as
escapes, and what looks like the letter of a drive is never left again; among files it is
written with a colon.
-/

namespace SweepAudit.Http.Url

def isVisible (c : Char) : Bool := ' ' < c && c ≤ '~'

def pathKeeps (c : Char) : Bool := isVisible c && !("\"#<>?`\x7b\x7d".toList.contains c)

def isDot (segment : List Char) : Bool :=
  segment.map Text.lowerAscii ∈ [".".toList, "%2e".toList]

def isDotDot (segment : List Char) : Bool :=
  segment.map Text.lowerAscii ∈
    ["..".toList, ".%2e".toList, "%2e.".toList, "%2e%2e".toList]

def isDrive : List Char → Bool
  | [c, d] => c.isAlpha && (d == ':' || d == '|')
  | _ => false

def parent (path : List (List Char)) : List (List Char) :=
  match path.getLast? with
  | some last => if isDrive last then path else path.dropLast
  | none => path

/-- The segments that are written for one which is no dot segment. The letter of a drive at the
front of a path of files is parted from what follows it. -/
def written (isFile : Bool) (path : List (List Char)) (segment : List Char) :
    List (List Char) :=
  match isFile, path, segment with
  | true, [], c :: ':' :: d :: rest =>
    if c.isAlpha then [[c, ':'], Text.percentEncode pathKeeps (d :: rest)]
    else [Text.percentEncode pathKeeps segment]
  | true, _, [c, d] =>
    if isDrive [c, d] then [[c, ':']] else [Text.percentEncode pathKeeps segment]
  | _, _, _ => [Text.percentEncode pathKeeps segment]

/-- Goes along segments from a path that has been resolved. A dot segment at the end leaves an
empty one. -/
def resolve (isFile : Bool) (path : List (List Char)) :
    List (List Char) → List (List Char)
  | [] => path
  | [last] =>
    if isDotDot last then parent path ++ [[]]
    else if isDot last then path ++ [[]]
    else path ++ written isFile path last
  | segment :: segments =>
    if isDotDot segment then resolve isFile (parent path) segments
    else if isDot segment then resolve isFile path segments
    else resolve isFile (path ++ written isFile path segment) segments

def dropEmpty : List (List Char) → List (List Char)
  | [] :: segment :: segments => dropEmpty (segment :: segments)
  | segments => segments

end SweepAudit.Http.Url
