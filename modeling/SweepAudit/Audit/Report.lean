import SweepAudit.Audit.Scenario
import SweepAudit.Liquidity
import SweepAudit.Venue.Basic

/-!
What an audit has found: for each scenario how it ended, the amounts as far as they
became known, and the cause if it failed.
-/

namespace SweepAudit

inductive Failure where
  | depthUnavailable (cause : CallError)
  | malformedDepth (cause : LevelError)
  | noLiquidity (side : Side)
  | unexpectedRejection (cause : CallError)
  | submissionFailed (cause : CallError)
  | unexpectedFill (amountOut : String)
  | badAmountOut (amountOut : String)
  | mismatch (expected actual : Decimal)
  deriving DecidableEq

namespace Failure

def message : Failure → String
  | .depthUnavailable cause => s!"could not read depth: {cause.message}"
  | .malformedDepth cause => s!"depth snapshot is malformed: {cause.message}"
  | .noLiquidity side => s!"no resting liquidity to sweep on the {side.auctionWord} side"
  | .unexpectedRejection cause => s!"auction was rejected: {cause.message}"
  | .submissionFailed cause => s!"auction did not produce a verdict: {cause.message}"
  | .unexpectedFill amountOut => s!"overfunded auction was filled with amountOut {amountOut}"
  | .badAmountOut amountOut => s!"amountOut {Text.quoted amountOut} is not a decimal number"
  | .mismatch expected actual =>
    s!"amountOut mismatch: expected {expected.display}, got {actual.display}"

end Failure

/-- How far a scenario has come. -/
inductive ScenarioState where
  | aggregating
  | submitting
  | judging
  | passed
  | failed
  deriving DecidableEq

/-- What has come of one scenario so far. -/
structure Report where
  scenario : Scenario
  state : ScenarioState
  expectedOut : Option Decimal
  fundAmount : Option Decimal
  amountOut : Option String
  failure : Option Failure
  deriving DecidableEq

namespace Report

def start (scenario : Scenario) : Report := ⟨scenario, .aggregating, none, none, none, none⟩

def passed (report : Report) : Bool := report.state = .passed

def advance (report : Report) (next : ScenarioState) : Report := { report with state := next }

def pass (report : Report) : Report := report.advance .passed

def fail (report : Report) (failure : Failure) : Report :=
  { report with failure := some failure }.advance .failed

end Report

/-- The reports of the scenarios that were run. -/
structure AuditReport where
  reports : List Report
  deriving DecidableEq

def AuditReport.passed (audit : AuditReport) : Bool :=
  audit.reports.length == Scenario.all.length && audit.reports.all (·.passed)

end SweepAudit
