import SweepAudit.CommandLine.Flag
import SweepAudit.Decimal.Reader
import SweepAudit.Ladder
import SweepAudit.Text.Split
import SweepAudit.Text.Terminal

/-!
Reading the command line. A value stands behind its flag, joined by `=` or as the next
argument. One that stands apart is looked at only when the next flag is known, so that
an argument that is no flag at all is reported before it.
-/

namespace SweepAudit.CommandLine

inductive UsageError where
  | unexpected (argument : String)
  | missingValue (flag : Flag)
  | repeated (flag : Flag)
  | surplusValue (flag : Flag) (value : String)
  | badValue (flag : Flag) (value reason : String)
  deriving DecidableEq

/-- What is said of an error. Arguments stand in it as a terminal shows them. -/
def UsageError.message : UsageError → String
  | .unexpected argument =>
    let argument := Text.shown argument
    s!"unexpected argument '{argument}' found"
  | .missingValue flag => s!"a value is required for '{flag.shown}' but none was supplied"
  | .repeated flag => s!"the argument '{flag.shown}' cannot be used multiple times"
  | .surplusValue flag value =>
    let value := Text.shown value
    s!"unexpected value '{value}' for '{flag.shown}' found; no more were expected"
  | .badValue flag value reason =>
    let value := Text.shown value
    s!"invalid value '{value}' for '{flag.shown}': {reason}"

inductive Stop where
  | help
  | error (e : UsageError)
  deriving DecidableEq

/-- The values of the flags that have been given so far. -/
structure Given where
  symbol : Option String
  basePrice : Option Decimal
  ladderDepth : Option UInt32
  limit : Option UInt32
  skipSeed : Bool
  hosted : Bool
  deriving DecidableEq

def Given.nothing : Given := ⟨none, none, none, none, false, false⟩

/-- A count of levels: a whole number of 32 bits. -/
def readCount (flag : Flag) (value : String) : Except UsageError UInt32 :=
  match Text.parseSigned (twoTo 63) value.toList with
  | .error e => .error (.badValue flag value e.message)
  | .ok n =>
    if 0 ≤ n ∧ n < twoTo 32 then .ok (.ofNat n.toNat)
    else .error (.badValue flag value s!"{n} is not in 0..=4294967295")

def readPrice (flag : Flag) (value : String) : Except UsageError Decimal :=
  (Decimal.parse value).mapError fun e => .badValue flag value e.message

namespace Given

def has (given : Given) : Flag → Bool
  | .symbol => given.symbol.isSome
  | .basePrice => given.basePrice.isSome
  | .ladderDepth => given.ladderDepth.isSome
  | .limit => given.limit.isSome
  | .skipSeed => given.skipSeed
  | .hosted => given.hosted
  | .help => false

def take (given : Given) (flag : Flag) (value : String) : Except Stop Given :=
  if given.has flag then .error (.error (.repeated flag))
  else
    match flag with
    | .symbol => .ok { given with symbol := some value }
    | .basePrice =>
      ((readPrice flag value).mapError .error).map fun price =>
        { given with basePrice := some price }
    | .ladderDepth =>
      ((readCount flag value).mapError .error).map fun n => { given with ladderDepth := some n }
    | .limit => ((readCount flag value).mapError .error).map fun n => { given with limit := some n }
    | .skipSeed => .ok { given with skipSeed := true }
    | .hosted => .ok { given with hosted := true }
    | .help => .error .help

end Given

/-- A flag whose value, if it has come yet, has not been looked at. -/
abbrev Pending := Option (Flag × Option String)

def settle (given : Given) : Pending → Except Stop Given
  | none => .ok given
  | some (flag, none) => .error (.error (.missingValue flag))
  | some (flag, some value) => given.take flag value

inductive Argument where
  /-- `--`, behind which there are no flags. -/
  | close
  | long (name : String) (value : Option String)
  | short (letter : Char)
  | plain

def Argument.ofText (s : String) : Argument :=
  match s.toList with
  | ['-', '-'] => .close
  | '-' :: '-' :: rest =>
    let (name, value) := Text.cutBy (· == '=') rest
    .long (String.ofList name) (value.map String.ofList)
  | '-' :: letter :: _ => .short letter
  | _ => .plain

def readLong (given : Given) (pending : Pending) (flag : Flag) (value : Option String) :
    Except Stop (Given × Pending) := do
  match flag.takesValue, value with
  | true, some value =>
    let given ← settle given pending
    return (← given.take flag value, none)
  | true, none => return (← settle given pending, some (flag, none))
  | false, some value => throw (.error (.surplusValue flag value))
  | false, none =>
    let given ← settle given pending
    return (← given.take flag "", none)

def readFrom (given : Given) (pending : Pending) : List String → Except Stop Given
  | [] => settle given pending
  | argument :: arguments =>
    match Argument.ofText argument with
    | .close =>
      match arguments with
      | [] => settle given pending
      | extra :: _ => .error (.error (.unexpected extra))
    | .long name value =>
      match Flag.ofName? name with
      | none => .error (.error (.unexpected ("--" ++ name)))
      | some flag => do
        let (given, pending) ← readLong given pending flag value
        readFrom given pending arguments
    | .short letter =>
      match Flag.all.find? fun flag => flag.letter? == some letter with
      | none => .error (.error (.unexpected ("-" ++ letter.toString)))
      | some flag => do
        let (given, pending) ← readLong given pending flag none
        readFrom given pending arguments
    | .plain =>
      match pending with
      | some (flag, none) => readFrom given (some (flag, some argument)) arguments
      | _ => .error (.error (.unexpected argument))

structure Options where
  symbol : Option String
  basePrice : Decimal
  ladderDepth : UInt32
  limit : Option UInt32
  skipSeed : Bool
  hosted : Bool
  deriving DecidableEq

def defaultBasePrice : Decimal := .ofUInt32 2000

def Options.ofGiven (given : Given) : Options where
  symbol := given.symbol
  basePrice := given.basePrice.getD defaultBasePrice
  ladderDepth := given.ladderDepth.getD Ladder.defaultDepth
  limit := given.limit
  skipSeed := given.skipSeed
  hosted := given.hosted

def Options.read (arguments : List String) : Except Stop Options :=
  (readFrom .nothing none arguments).map .ofGiven

end SweepAudit.CommandLine
