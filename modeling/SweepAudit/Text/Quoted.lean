import SweepAudit.Text.Unprintable

/-!
Text in quotes, as messages show it: quotes, backslashes and what does not print are
written as escapes, all else as it is.
-/

namespace SweepAudit.Text

/-- One character inside the quotes. An apostrophe needs no escape there. -/
def escapeChar (c : Char) : List Char :=
  match c with
  | '"' => ['\\', '"']
  | '\\' => ['\\', '\\']
  | '\n' => ['\\', 'n']
  | '\r' => ['\\', 'r']
  | '\t' => ['\\', 't']
  | '\x00' => ['\\', '0']
  | c =>
    if isUnprintable c then
      ['\\', 'u', '\x7b'] ++ Nat.toDigits 16 c.toNat ++ ['\x7d']
    else [c]

def quotedChars (cs : List Char) : List Char := '"' :: (cs.flatMap escapeChar ++ ['"'])

def quoted (s : String) : String := String.ofList (quotedChars s.toList)

end SweepAudit.Text
