import SweepAudit.Audit.Tally

/-!
Running an audit against a venue. A scenario reads the depth, works out what a full
sweep of one side has to pay, begins an auction with that funding or with one unit
more, and judges the answer. What was filled is given back at once. Scenarios run
one after another, and the first that fails ends the audit.
-/

namespace SweepAudit

/-- An audit in progress: the venue's state and the verdicts so far. -/
structure Session (σ : Type) where
  venue : σ
  tally : Tally

namespace Scenario

variable {σ : Type}

def judgeAmount (report : Report) (expected : Decimal) (amountOut : String) : Report :=
  match Decimal.parse (Text.trim amountOut) with
  | .error _ => report.fail (.badAmountOut amountOut)
  | .ok actual =>
    if actual.Same expected then report.pass else report.fail (.mismatch expected actual)

/-- What the answer to the auction means. An overfunded auction has to be turned down by the
venue itself; any other has to be filled with the expected amount. -/
def judge (scenario : Scenario) (report : Report) (expected : Decimal) :
    CallResult Settlement → Report
  | .error e =>
    if scenario.overfund then
      if e.isRejection then report.pass else report.fail (.submissionFailed e)
    else report.fail (.unexpectedRejection e)
  | .ok settlement =>
    let report := { report with amountOut := some settlement.amountOut }
    if scenario.overfund then report.fail (.unexpectedFill settlement.amountOut)
    else judgeAmount report expected settlement.amountOut

/-- Gives a filled auction back, under the id that the settlement names or else under its own.
Whether that works out does not matter. -/
def release (venue : Venue σ) (request : AuctionRequest) :
    CallResult Settlement → StateM σ Unit
  | .error _ => pure ()
  | .ok settlement => do
    let _ ← venue.abortAuction (settlement.auctionId.getD request.auctionId.text)

def submit (venue : Venue σ) (scenario : Scenario) (report : Report) (expected : Decimal)
    (request : AuctionRequest) : StateM σ Report := do
  let report := report.advance .submitting
  let outcome ← venue.beginAuction request
  let report := report.advance .judging
  release venue request outcome
  return scenario.judge report expected outcome

/-- The funding of a scenario. One unit more is asked for on top of an empty side, too. -/
def fund (scenario : Scenario) (liquidity : Liquidity) : Except Overflow Decimal :=
  let funding := liquidity.funding scenario.side
  if scenario.overfund then funding.add .one else .ok funding

def run (venue : Venue σ) (symbol : String) (scenario : Scenario) (id : Uuid) :
    Guarded σ Report := do
  let report := Report.start scenario
  match ← venue.depth symbol with
  | .error e => return report.fail (.depthUnavailable e)
  | .ok snapshot =>
    match Liquidity.ofLevels (snapshot.liquidityFor scenario.side) with
    | .error e => return report.fail (.malformedDepth e)
    | .ok liquidity =>
      if (liquidity.funding scenario.side).isZero && !scenario.overfund then
        return report.fail (.noLiquidity scenario.side)
      else
        let fund ← Guarded.ofExcept (scenario.fund liquidity)
        let expected := liquidity.proceeds scenario.side
        submit venue scenario { report with expectedOut := some expected, fundAmount := some fund }
          expected (.ofAmount id symbol scenario.side fund)

def runCounted (venue : Venue σ) (symbol : String) (scenario : Scenario) (id : Uuid) :
    Guarded (Session σ) Report := fun session =>
  match (run venue symbol scenario id).run.run session.venue with
  | (.error e, state) => (.error e, { session with venue := state })
  | (.ok report, state) => (.ok report, ⟨state, session.tally.record report.verdict⟩)

end Scenario

namespace Audit

variable {σ : Type}

def runAll (venue : Venue σ) (symbol : String) (idFor : Scenario → Uuid) :
    List Scenario → Guarded (Session σ) (List Report)
  | [] => pure []
  | scenario :: scenarios => do
    let report ← scenario.runCounted venue symbol (idFor scenario)
    if report.passed then
      let reports ← runAll venue symbol idFor scenarios
      return report :: reports
    else return [report]

/-- The whole audit of a symbol; `idFor` gives each scenario the id of its auction. -/
def run (venue : Venue σ) (symbol : String) (idFor : Scenario → Uuid) :
    Guarded (Session σ) AuditReport := do
  return ⟨← runAll venue symbol idFor Scenario.all⟩

end Audit

end SweepAudit
