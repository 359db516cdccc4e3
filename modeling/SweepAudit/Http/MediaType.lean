import SweepAudit.Text.Case
import SweepAudit.Text.Split

/-!
Media types, as the header of a body names them: a type and a subtype with an optional
suffix, and parameters behind them, which have to be well formed and mean nothing here.
-/

namespace SweepAudit.Http

def isTokenChar (c : Char) : Bool := c.isAlphanum || "!#$%&'*+-.^_`|~".toList.contains c

inductive ParameterPlace where
  | beforeName
  | inName
  | beforeValue
  | inValue
  | afterQuote
  | inQuotes
  | afterQuotes

namespace ParameterPlace

def next : ParameterPlace → Char → Option ParameterPlace
  | .beforeName, c =>
    if c == ' ' then some .beforeName else if isTokenChar c then some .inName else none
  | .inName, c =>
    if c == '=' then some .beforeValue else if isTokenChar c then some .inName else none
  | .beforeValue, c =>
    if c == '"' then some .afterQuote else if isTokenChar c then some .inValue else none
  | .inValue, c =>
    if c == ';' then some .beforeName else if isTokenChar c then some .inValue else none
  | .afterQuote, c => if ' ' ≤ c && c != '\x7f' then some .inQuotes else none
  | .inQuotes, c =>
    if c == '"' then some .afterQuotes
    else if ' ' ≤ c && c != '\x7f' then some .inQuotes
    else none
  | .afterQuotes, c =>
    if c == ';' then some .beforeName else if c == ' ' then some .afterQuotes else none

def isEnd : ParameterPlace → Bool
  | .beforeName | .beforeValue | .inValue | .afterQuotes => true
  | .inName | .afterQuote | .inQuotes => false

def accepts (place : ParameterPlace) : List Char → Bool
  | [] => place.isEnd
  | c :: cs =>
    match place.next c with
    | some place => place.accepts cs
    | none => false

end ParameterPlace

structure MediaType where
  type : List Char
  subtype : List Char
  /-- What stands behind the last `+` of the subtype. -/
  suffix : Option (List Char)

namespace MediaType

def ofNames (type name : List Char) : MediaType :=
  let suffix := (name.reverse.takeWhile (· != '+')).reverse
  let front := name.take (name.length - suffix.length - 1)
  if front.isEmpty then ⟨type, name, none⟩ else ⟨type, front, some suffix⟩

def parse? (value : String) : Option MediaType :=
  let cs := value.toList.map Text.lowerAscii
  match Text.cutBy (· == '/') cs with
  | (type, some rest) =>
    let (name, parameters) := Text.cutBy (· == ';') rest
    if type.isEmpty || !type.all isTokenChar || !name.all isTokenChar then none
    else if (parameters.map (ParameterPlace.accepts .beforeName)).getD true then
      some (ofNames type name)
    else none
  | (_, none) => none

def isJson (media : MediaType) : Bool :=
  media.type == "application".toList &&
    (media.subtype == "json".toList || media.suffix == some "json".toList)

end MediaType

end SweepAudit.Http
