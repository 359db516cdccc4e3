import SweepAudit.Audit.Report
import SweepAudit.CommandLine.Flag

/-!
What a run prints about an audit: a line for every scenario, and below it the cause if
it failed.
-/

namespace SweepAudit.CommandLine

def scenarioColumn : Nat := 14

def amountText (amount : Option Decimal) : String :=
  match amount with
  | some x => x.display
  | none => "-"

def summaryLine (report : Report) : String :=
  let verdict := if report.passed then "PASS" else "FAIL"
  String.join
    [padded scenarioColumn report.scenario.name, " ", verdict,
      "  amountIn=", amountText report.fundAmount,
      " expected=", amountText report.expectedOut,
      " amountOut=", report.amountOut.getD "-", "\n"]

def failureLine (report : Report) : String :=
  match report.failure with
  | some failure => String.join ["               ", failure.message, "\n"]
  | none => ""

def summary (audit : AuditReport) : String :=
  String.join
    (["\n=== Auction Settlement ===\n"] ++
      audit.reports.map (fun report => summaryLine report ++ failureLine report) ++
      ["==========================\n\n"])

end SweepAudit.CommandLine
