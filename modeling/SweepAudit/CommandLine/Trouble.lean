import SweepAudit.Config.Basic
import SweepAudit.Ladder
import SweepAudit.Text.Split

/-!
Why a run fails: a headline and the chain of causes behind it. A single cause is
indented, several are numbered, and their further lines are aligned with the first.
-/

namespace SweepAudit.CommandLine

structure Trouble where
  headline : String
  causes : List String
  deriving DecidableEq

/-- A cause with something in front of its first line and something else in front of the others. -/
def indented (first further : String) (cause : String) : String :=
  let lines := (Text.splitBy (· == '\n') cause.toList).map String.ofList
  first ++ ("\n" ++ further).intercalate lines

def numbered (n : Nat) : List String → List String
  | [] => []
  | cause :: causes =>
    let number := String.ofList ((toString n).toList.leftpad 5 ' ')
    indented (number ++ ": ") "       " cause :: numbered (n + 1) causes

namespace Trouble

def text (trouble : Trouble) : String :=
  let causes := match trouble.causes with
    | [] => []
    | [cause] => ["", "Caused by:", indented "    " "    " cause]
    | causes => "" :: "Caused by:" :: numbered 0 causes
  "Error: " ++ "\n".intercalate (trouble.headline :: causes) ++ "\n"

def behindConfig : ConfigError → List String
  | .load cause => [cause.message]
  | .misplaced _ | .invalid _ | .credential _ => []

def ofVariables (e : ConfigError) : Trouble :=
  ⟨"loading configuration", e.message :: behindConfig e⟩

def ofConfig (e : ConfigError) : Trouble := ⟨e.message, behindConfig e⟩

def behindCall : CallError → List String
  | .transport reason cause => reason :: cause.toList
  | _ => []

def ofSeeding (e : SeedError) : Trouble :=
  ⟨"seeding the order book", e.message :: e.cause.message :: behindCall e.cause⟩

def ofVerdict : Trouble := ⟨"auction settlement verification failed", []⟩

end Trouble

end SweepAudit.CommandLine
