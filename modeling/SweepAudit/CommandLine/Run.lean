import SweepAudit.Audit.Run
import SweepAudit.Client.Basic
import SweepAudit.CommandLine.Options
import SweepAudit.CommandLine.Summary
import SweepAudit.CommandLine.Trouble
import SweepAudit.Config.Load
import SweepAudit.Exchange.Hosted

/-!
A run of the program: the command line is read, the configuration loaded and changed
by it, the book seeded unless that is to be skipped, and the audit made and printed.
What it leaves to chance is given to it.
-/

namespace SweepAudit.CommandLine

/-- What a run leaves behind: its exit code and what it has written. -/
structure Outcome where
  exit : UInt8
  output : String
  errors : String
  deriving DecidableEq

namespace Outcome

def ofTrouble (output : String) (trouble : Trouble) : Outcome := ⟨1, output, trouble.text⟩

def ofEnd (message : String) : Outcome := ⟨101, "", message ++ "\n"⟩

def ofStop : Stop → Outcome
  | .help => ⟨0, help, ""⟩
  | .error e =>
    ⟨2, "", String.join ["error: ", e.message, "\n\nFor more information, try '--help'.\n"]⟩

def ofAudit (audit : AuditReport) : Outcome :=
  if audit.passed then ⟨0, summary audit, ""⟩ else ofTrouble (summary audit) .ofVerdict

end Outcome

def Outcome.ofLoading : ConfigError → Outcome
  | .misplaced cause => .ofEnd cause.message
  | e => .ofTrouble "" (.ofVariables e)

def configure (options : Options) (loaded : Config) : Except Trouble Config := do
  let config :=
    { loaded with
      symbol := options.symbol.getD loaded.symbol
      depthLimit := options.limit.getD loaded.depthLimit }
  config.check.mapError .ofConfig
  if !options.skipSeed then (config.checkLadder options.ladderDepth).mapError .ofConfig
  return config

/-- What a run leaves to chance: the ids of its auctions, and the port and the stamps of the
exchange that it may host. -/
structure Chance where
  auctionId : Scenario → Uuid
  port : Port
  stamps : Stamps

/-- Chance that numbers whatever it is asked for. -/
def Chance.counted : Chance where
  auctionId scenario :=
    let place := (if scenario.side = .buy then 1 else 2) + (if scenario.overfund then 2 else 0)
    ⟨BitVec.ofNat 128 place⟩
  port := .first
  stamps := .counted

variable {σ : Type}

def auditVenue (chance : Chance) (venue : Venue σ) (options : Options) (config : Config) :
    Guarded (Session σ) (Except Trouble AuditReport) := do
  let seeded ←
    if options.skipSeed then pure (.ok ())
    else
      let ladder := { Ladder.ofSymbol config.symbol with depth := options.ladderDepth }
      fun session =>
        let (result, state) := (ladder.seed venue options.basePrice).run.run session.venue
        (result, { session with venue := state })
  match seeded with
  | .error e => return .error (.ofSeeding e)
  | .ok () => return .ok (← Audit.run venue config.symbol chance.auctionId)

def auditOver (chance : Chance) (network : Http.Network σ) (state : σ) (base : String)
    (credential : Credential) (options : Options) (config : Config) : Outcome :=
  let client := { Client.ofBase base credential with depthLimit := config.depthLimit }
  let session : Session σ := ⟨state, .empty⟩
  match ((auditVenue chance (client.venue network) options config).run.run session).1 with
  | .error o => .ofEnd o.message
  | .ok (.error trouble) => .ofTrouble "" trouble
  | .ok (.ok audit) => .ofAudit audit

def run (chance : Chance) (network : Http.Network σ) (state : σ) (env : Config.Variables)
    (arguments : List String) : Outcome :=
  match Options.read arguments with
  | .error stop => .ofStop stop
  | .ok options =>
    match Config.load env with
    | .error e => .ofLoading e
    | .ok loaded =>
      match configure options loaded with
      | .error trouble => .ofTrouble "" trouble
      | .ok config =>
        match config.credential with
        | .error e => .ofTrouble "" (.ofConfig e)
        | .ok credential =>
          if options.hosted then
            auditOver chance (Hosted.network chance.stamps) .empty (Hosted.base chance.port)
              credential options config
          else auditOver chance network state config.orderbookHost credential options config

end SweepAudit.CommandLine
