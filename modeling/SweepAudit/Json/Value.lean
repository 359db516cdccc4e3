import SweepAudit.Json.Number
import SweepAudit.Text.Digits

/-!
JSON values and their compact text.
-/

namespace SweepAudit

/-- A value; an object has its members in the order in which they are written. -/
inductive Json where
  | null
  | bool (b : Bool)
  | number (n : Json.Number)
  | string (s : String)
  | array (items : List Json)
  | object (members : List (String × Json))

namespace Json

/-- A character inside a string. Only quotes, backslashes and controls are escaped. -/
def escapeChar (c : Char) : List Char :=
  match c with
  | '"' => ['\\', '"']
  | '\\' => ['\\', '\\']
  | '\x08' => ['\\', 'b']
  | '\x09' => ['\\', 't']
  | '\x0a' => ['\\', 'n']
  | '\x0c' => ['\\', 'f']
  | '\x0d' => ['\\', 'r']
  | c => if c.toNat < 0x20 then ['\\', 'u'] ++ Text.hexPlaces c.toNat 4 else [c]

def stringChars (s : String) : List Char := '"' :: (s.toList.flatMap escapeChar ++ ['"'])

mutual

def chars : Json → List Char
  | .null => "null".toList
  | .bool b => (toString b).toList
  | .number n => n.text.toList
  | .string s => stringChars s
  | .array items => '[' :: (itemChars items ++ [']'])
  | .object members => '\x7b' :: (memberChars members ++ ['\x7d'])

def itemChars : List Json → List Char
  | [] => []
  | [item] => chars item
  | item :: items => chars item ++ ',' :: itemChars items

def memberChars : List (String × Json) → List Char
  | [] => []
  | [(key, value)] => stringChars key ++ ':' :: chars value
  | (key, value) :: members =>
    stringChars key ++ ':' :: (chars value ++ ',' :: memberChars members)

end

def text (j : Json) : String := String.ofList j.chars

end Json

end SweepAudit
