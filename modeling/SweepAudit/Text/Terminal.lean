/-!
Text as a terminal shows it. Control sequences, which begin with an escape and are
instructions to the terminal, are left out, and so are the controls, but for those that
move to another place of the page.
-/

namespace SweepAudit.Text

/-- Where in a control sequence a text stands, if it stands in one. -/
inductive Position where
  | ground
  | escape
  /-- Behind an escape and characters that only say more of it. -/
  | escapeDetail
  /-- In a sequence that its first letter ends. -/
  | sequence
  | deviceEntry
  | deviceParameter
  | deviceDetail
  /-- In a string that the byte 9C ends. -/
  | string
  /-- In a string that a bell ends. -/
  | command
  deriving DecidableEq

namespace Position

def isMove (c : Char) : Bool := c == '\t' || c == '\n' || c == '\x0c' || c == '\r'

def isDetail (c : Char) : Bool := ' ' ≤ c && c ≤ '/'

def isParameter (c : Char) : Bool := '0' ≤ c && c ≤ '?'

def isFinal (c : Char) : Bool := '@' ≤ c && c ≤ '~'

/-- What the character behind an escape begins; any other is the whole sequence. -/
def behindEscape (c : Char) : Position :=
  if c == '[' then .sequence
  else if c == ']' then .command
  else if c == 'P' then .deviceEntry
  else if c == 'X' || c == '^' || c == '_' then .string
  else if isDetail c then .escapeDetail
  else if isParameter c || isFinal c then .ground
  else .escape

/-- The position behind a character in a sequence. A move ends a sequence, but not a string. -/
def step (position : Position) (c : Char) : Position :=
  match position with
  | .ground => .ground
  | .escape => if isMove c then .ground else behindEscape c
  | .escapeDetail => if isMove c || isParameter c || isFinal c then .ground else .escapeDetail
  | .sequence => if isMove c || isFinal c then .ground else .sequence
  | .deviceEntry =>
    if isDetail c then .deviceDetail
    else if isParameter c then .deviceParameter
    else if isFinal c then .string
    else .deviceEntry
  | .deviceParameter =>
    if isDetail c then .deviceDetail
    else if isFinal c || ('<' ≤ c && c ≤ '?') then .string
    else .deviceParameter
  | .deviceDetail => if isParameter c || isFinal c then .string else .deviceDetail
  | .string => if (String.utf8EncodeChar c).contains 0x9C then .ground else .string
  | .command => if c == '\x07' then .ground else .command

/-- The position behind any character. Two controls cancel a sequence, and an escape begins a
new one. -/
def next (position : Position) (c : Char) : Position :=
  if c == '\x18' || c == '\x1a' then .ground
  else if c == '\x1b' then .escape
  else step position c

def shows (position : Position) (c : Char) : Bool :=
  match position with
  | .ground => isMove c || (' ' ≤ c && c != '\x7f')
  | .escape | .escapeDetail | .sequence => isMove c
  | _ => false

end Position

def shownFrom (position : Position) : List Char → List Char
  | [] => []
  | c :: cs =>
    if position.shows c then c :: shownFrom (position.next c) cs
    else shownFrom (position.next c) cs

def shown (s : String) : String := String.ofList (shownFrom .ground s.toList)

end SweepAudit.Text
