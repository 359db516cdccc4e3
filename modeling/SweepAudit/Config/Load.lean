import SweepAudit.Config.Basic

/-!
Reading the configuration from variables. Variables that lead to no field are passed
over, and a field to which none leads has its usual value.
-/

namespace SweepAudit.Config

def textField? (env : Variables) (key : String) : Except LoadError (Option String) :=
  match entry? env key with
  | none => .ok none
  | some (.setting setting) => .ok (some setting.toText)
  | some (.composite found) => .error (.notText key found)

def textField (env : Variables) (key default : String) : Except LoadError String :=
  (textField? env key).map (·.getD default)

def numberField (env : Variables) (key : String) (bits default : Nat) :
    Except LoadError Nat :=
  match entry? env key with
  | none => .ok default
  | some (.setting setting) => (setting.toUnsigned bits).mapError (.number key bits)
  | some (.composite found) => .error (.notNumber key found)

def schemeOf (name : String) : Except LoadError Scheme :=
  let word := Text.lowered name
  if word = Scheme.apiKey.name then .ok .apiKey
  else if word = Scheme.publicKey.name then .ok .publicKey
  else .error (.unknownScheme name)

def schemeField (env : Variables) : Except LoadError Scheme :=
  match entry? env "auth_mode" with
  | none => .ok .apiKey
  | some (.setting (.text name)) | some (.composite (.table [name])) => schemeOf name
  | some _ => .error .schemeNotText

def tidyHost (host : String) : String := Text.trimEnd (· == '/') (Text.trim host)

def read (env : Variables) : Except LoadError Config := do
  let host ← textField env "orderbook_host" "http://localhost:8080"
  let scheme ← schemeField env
  let apiKey ← textField env "api_key" "abcdef12345"
  let publicKey ← textField? env "pub_key"
  let symbol ← textField env "symbol" "ETH-USD"
  let depthLimit ← numberField env "depth_limit" 32 20
  let metricsPort ← numberField env "metrics_port" 16 9000
  return {
    orderbookHost := tidyHost host
    scheme, apiKey, publicKey, symbol
    depthLimit := .ofNat depthLimit
    metricsPort := .ofNat metricsPort }

def load (env : Variables) : Except ConfigError Config := do
  if let some cause := misplaced? env then throw (.misplaced cause)
  let config ← (read env).mapError .load
  config.check
  return config

end SweepAudit.Config
