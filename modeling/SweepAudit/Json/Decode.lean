import SweepAudit.Json.Reader
import SweepAudit.Text.Quoted

/-!
Decoding trees into records. A record is written as an object or as an array of its
fields in order; the first thing wrong in the order of the text is what is reported.
Records are described by `Fields`, which are put together from single fields.
-/

namespace SweepAudit.Json

/-- What stands where something else is expected. -/
inductive Found where
  | null
  | bool (b : Bool)
  | number (n : Number)
  | string (s : String)
  | sequence
  | map
  deriving DecidableEq

def Found.describe : Found → String
  | .null => "null"
  | .bool b => s!"boolean `{b}`"
  | .number (.whole n) => s!"integer `{n}`"
  | .number (.float x) => s!"floating point `{x.exponentText}`"
  | .string s => s!"string {Text.quoted s}"
  | .sequence => "sequence"
  | .map => "map"

/-- How a well-formed text fails to have the expected shape. -/
inductive Mismatch where
  | wrongType (found : Found) (expected : String)
  | wrongLength (length : Nat) (expected : String)
  | missingField (name : String)
  | duplicateField (name : String)
  | noVariant (name : String)
  deriving DecidableEq

def Mismatch.message : Mismatch → String
  | .wrongType found expected => s!"invalid type: {found.describe}, expected {expected}"
  | .wrongLength length expected => s!"invalid length {length}, expected {expected}"
  | .missingField name => s!"missing field `{name}`"
  | .duplicateField name => s!"duplicate field `{name}`"
  | .noVariant name => s!"data did not match any variant of untagged enum {name}"

/-- A way into a value: by key or by index. -/
inductive Step where
  | key (name : String)
  | index (n : Nat)
  deriving DecidableEq

inductive DecodeError where
  /-- The text itself is at fault. -/
  | fault (f : Fault)
  /-- The value at the end of `path` has the wrong shape. -/
  | shape (path : List Step) (mismatch : Mismatch)
  deriving DecidableEq

def DecodeError.below (step : Step) : DecodeError → DecodeError
  | .fault f => .fault f
  | .shape path mismatch => .shape (step :: path) mismatch

abbrev Decoded := Except DecodeError

def ofFault {α : Type} : Except Fault α → Decoded α
  | .ok a => .ok a
  | .error f => .error (.fault f)

def mismatch {α : Type} (m : Mismatch) : Decoded α := .error (.shape [] m)

/-- Where a tree comes from, which decides how an array with too many elements is refused. -/
inductive Source where
  | text
  | value
  deriving DecidableEq

def closeArray (source : Source) (length : Nat) (rest : List Node) (flaw : Option Flaw) :
    Decoded Unit :=
  match rest with
  | [] => ofFault (useFlaw flaw)
  | _ :: _ =>
    match source with
    | .text => .error (.fault .malformed)
    | .value => mismatch (.wrongLength length "fewer elements in array")

/-- A decoder is told where the tree comes from and how deep containers may still be nested. -/
abbrev Decoder (α : Type) := Source → (room : Nat) → Node → Decoded α

def unexpected {α : Type} (expected : String) : Node → Decoded α
  | .null => mismatch (.wrongType .null expected)
  | .bool b => mismatch (.wrongType (.bool b) expected)
  | .number n => do
    let v ← ofFault (useContent n)
    mismatch (.wrongType (.number v) expected)
  | .string s => do
    let v ← ofFault (useContent s)
    mismatch (.wrongType (.string v) expected)
  | .array _ _ => mismatch (.wrongType .sequence expected)
  | .object _ _ => mismatch (.wrongType .map expected)
  | .broken flaw => .error (.fault flaw.used)

def enter {α : Type} (room : Nat) (inside : Nat → Decoded α) : Decoded α :=
  if room ≤ 1 then .error (.fault .malformed) else inside (room - 1)

def decodeString : Decoder String := fun _ _ node =>
  match node with
  | .string s => ofFault (useContent s)
  | node => unexpected "a string" node

def decodeOption {α : Type} (decode : Decoder α) : Decoder (Option α) := fun source room node =>
  match node with
  | .null => .ok none
  | node => (decode source room node).map some

def decodeItems {α : Type} (decode : Node → Decoded α) (index : Nat) : List Node → Decoded (List α)
  | [] => .ok []
  | item :: items => do
    let a ← (decode item).mapError (.below (.index index))
    let as ← decodeItems decode (index + 1) items
    return a :: as

def decodeList {α : Type} (decode : Decoder α) : Decoder (List α) := fun source room node =>
  match node with
  | .array items flaw =>
    enter room fun room => do
      let values ← decodeItems (decode source room) 0 items
      ofFault (useFlaw flaw)
      return values
  | node => unexpected "a sequence" node

/-! Records -/

/-- A part of a record: what has been collected for it while an object is read, and how it is
taken from the front of an array. -/
structure Fields (α : Type) where
  Slots : Type
  start : Slots
  /-- How many elements of an array the part takes. -/
  size : Nat
  /-- What a key does to the slots, if it belongs to this part. -/
  put : Source → (room : Nat) → Slots → (key : String) → Option (Node → Decoded Slots)
  finish : Slots → Decoded α
  /-- Takes the part from the elements of an array from the one at `index` on. -/
  take : (expected : String) → Source → (room : Nat) → (index : Nat) → List Node → Option Flaw →
    Decoded (α × List Node)

namespace Fields

/-- A field with the keys it answers to, the first of which names it in messages. Without a
default it has to be there. -/
def field {α : Type} (name : String) (decode : Decoder α) (default : Option α)
    (alsoKnownAs : List String) : Fields α where
  Slots := Option α
  start := none
  size := 1
  put := fun source room slot key =>
    if key = name ∨ key ∈ alsoKnownAs then
      some fun node =>
        match slot with
        | some _ => mismatch (.duplicateField name)
        | none => ((decode source room node).mapError (.below (.key key))).map some
    else none
  finish := fun slot =>
    match slot, default with
    | some a, _ => .ok a
    | none, some a => .ok a
    | none, none => mismatch (.missingField name)
  take := fun expected source room index items flaw =>
    match items with
    | item :: items => do
      let a ← (decode source room item).mapError (.below (.index index))
      return (a, items)
    | [] => do
      ofFault (useFlaw flaw)
      match default with
      | some a => return (a, [])
      | none => mismatch (.wrongLength index expected)

def required {α : Type} (name : String) (decode : Decoder α) : Fields α :=
  field name decode none []

def withDefault {α : Type} (name : String) (decode : Decoder α) (default : α) : Fields α :=
  field name decode (some default) []

def both {α β : Type} (first : Fields α) (second : Fields β) : Fields (α × β) where
  Slots := first.Slots × second.Slots
  start := (first.start, second.start)
  size := first.size + second.size
  put := fun source room slots key =>
    match first.put source room slots.1 key with
    | some use => some fun node => (use node).map fun slot => (slot, slots.2)
    | none =>
      (second.put source room slots.2 key).map fun use node =>
        (use node).map fun slot => (slots.1, slot)
  finish := fun slots => do
    let a ← first.finish slots.1
    let b ← second.finish slots.2
    return (a, b)
  take := fun expected source room index items flaw => do
    let (a, items) ← first.take expected source room index items flaw
    let (b, items) ← second.take expected source room (index + first.size) items flaw
    return ((a, b), items)

def map {α β : Type} (f : α → β) (part : Fields α) : Fields β where
  Slots := part.Slots
  start := part.start
  size := part.size
  put := part.put
  finish := fun slots => (part.finish slots).map f
  take := fun expected source room index items flaw =>
    (part.take expected source room index items flaw).map fun (a, items) => (f a, items)

/-- Collects the members of an object in their order. Members with unknown keys are skipped. -/
def collect {α : Type} (fields : Fields α) (source : Source) (room : Nat) (slots : fields.Slots) :
    List (Option String × Node) → Decoded fields.Slots
  | [] => .ok slots
  | (key, node) :: members => do
    let k ← ofFault (useContent key)
    let slots' ←
      match fields.put source room slots k with
      | some use => use node
      | none => (ofFault node.skip).map fun _ => slots
    collect fields source room slots' members

def lengthText (name : String) (size : Nat) : String :=
  if size = 1 then s!"struct {name} with 1 element" else s!"struct {name} with {size} elements"

def decode {α : Type} (name : String) (fields : Fields α) : Decoder α := fun source room node =>
  match node with
  | .array items flaw =>
    enter room fun room => do
      let (a, rest) ← fields.take (lengthText name fields.size) source room 0 items flaw
      closeArray source items.length rest flaw
      return a
  | .object members flaw =>
    enter room fun room => do
      let slots ← fields.collect source room fields.start members
      ofFault (useFlaw flaw)
      fields.finish slots
  | node => unexpected s!"struct {name}" node

end Fields

def decodeText {α : Type} (decode : Decoder α) (text : String) : Decoded α := do
  let document := readDocument text
  let a ← decode .text depthLimit document.node
  if document.complete then return a else .error (.fault .malformed)

def decodeLeading {α : Type} (decode : Decoder α) (text : String) : Decoded α :=
  decode .text depthLimit (readDocument text).node

def decodeValue {α : Type} (decode : Decoder α) (value : Json) : Decoded α :=
  decode .value depthLimit value.node

end SweepAudit.Json
