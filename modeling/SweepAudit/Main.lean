import SweepAudit.CommandLine.Run

/-!
The program. It reads its settings from the variables of the environment and opens no
connections of its own: `--mock` audits an exchange that it hosts itself, and without
it the exchange is reported as one that does not answer. What is left to chance is counted.
-/

open SweepAudit

def settingNames : List String :=
  ["ORDERBOOK_HOST", "AUTH_MODE", "API_KEY", "PUB_KEY", "SYMBOL", "DEPTH_LIMIT", "METRICS_PORT"]

def readVariables : IO Config.Variables := do
  let settings ← settingNames.mapM fun name => do
    let value ← IO.getEnv name
    return value.map fun v => (name, v)
  return settings.filterMap id

def main (arguments : List String) : IO UInt32 := do
  let env ← readVariables
  let outcome := CommandLine.run .counted Http.Network.silent () env arguments
  (← IO.getStdout).putStr outcome.output
  (← IO.getStderr).putStr outcome.errors
  return outcome.exit.toUInt32
