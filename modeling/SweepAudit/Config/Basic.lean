import SweepAudit.Config.Entry
import SweepAudit.Credential
import SweepAudit.Venue.Basic

/-!
What an audit is told about its deployment, the bounds that it has to keep, and the
words for what is wrong with it.
-/

namespace SweepAudit

structure Config where
  orderbookHost : String
  scheme : Scheme
  apiKey : String
  publicKey : Option String
  symbol : String
  /-- How many levels of either side are asked for. -/
  depthLimit : UInt32
  metricsPort : UInt16
  deriving DecidableEq

/-- Why the variables do not make up a configuration. -/
inductive LoadError where
  | number (key : String) (bits : Nat) (cause : Setting.NumberError)
  /-- A table or a sequence where a number belongs. -/
  | notNumber (key : String) (found : Config.Composite)
  /-- A table or a sequence where a text belongs. -/
  | notText (key : String) (found : Config.Composite)
  | unknownScheme (text : String)
  | schemeNotText
  deriving DecidableEq

def LoadError.message : LoadError → String
  | .number key _ (.negative n) =>
    String.join
      [s!"invalid type: 64-bit integer `{n}`, expected an unsigned 64 bit or less integer",
        s!" for key `{key}` in the environment"]
  | .number key bits (.tooWide n) =>
    String.join
      [s!"invalid type: 64-bit unsigned integer `{n}`, expected an unsigned {bits} bit integer",
        s!" for key `{key}`"]
  | .number key _ (.notANumber s) =>
    String.join
      [s!"invalid type: string {Text.quoted s}, expected an integer",
        s!" for key `{key}` in the environment"]
  | .notNumber key found => s!"invalid type: {found.kind}, expected an integer for key `{key}`"
  | .notText key found => s!"invalid type: {found.kind}, expected a string for key `{key}`"
  | .unknownScheme text => s!"enum AuthMode does not have variant constructor {text}"
  | .schemeNotText =>
    "value of enum AuthMode should be represented by either string or table with exactly one key"

/-- Which bound a configuration does not keep. -/
inductive InvalidConfig where
  | emptyHost
  | emptySymbol
  | depthLimit (limit : UInt32)
  | missingPublicKey
  | emptyLadder
  | ladderTooDeep (depth limit : UInt32)
  deriving DecidableEq

def maxDepthLimit : UInt32 := 1000

def InvalidConfig.message : InvalidConfig → String
  | .emptyHost => "ORDERBOOK_HOST is empty"
  | .emptySymbol => "SYMBOL is empty"
  | .depthLimit limit => s!"DEPTH_LIMIT must be between 1 and {maxDepthLimit}, got {limit}"
  | .missingPublicKey => "AUTH_MODE=public-key requires PUB_KEY"
  | .emptyLadder => "ladder depth must be at least 1"
  | .ladderTooDeep depth limit =>
    s!"ladder depth {depth} exceeds DEPTH_LIMIT {limit}; raise --limit"

inductive ConfigError where
  /-- Nothing is done about it: it ends the run. -/
  | misplaced (cause : Config.Misplaced)
  | load (cause : LoadError)
  | invalid (cause : InvalidConfig)
  | credential (cause : CredentialError)
  deriving DecidableEq

def CredentialError.call (e : CredentialError) : CallError := .invalidCredential e.message

def ConfigError.message : ConfigError → String
  | .misplaced cause => cause.message
  | .load cause => s!"configuration error: {cause.message}"
  | .invalid cause => s!"invalid configuration: {cause.message}"
  | .credential cause => cause.call.message

namespace Config

def check (config : Config) : Except ConfigError Unit :=
  if config.orderbookHost.isEmpty then .error (.invalid .emptyHost)
  else if Text.isBlankText config.symbol then .error (.invalid .emptySymbol)
  else if config.depthLimit = 0 ∨ maxDepthLimit < config.depthLimit then
    .error (.invalid (.depthLimit config.depthLimit))
  else if config.scheme = .publicKey ∧ Text.isBlankText (config.publicKey.getD "") then
    .error (.invalid .missingPublicKey)
  else .ok ()

def checkLadder (config : Config) (depth : UInt32) : Except ConfigError Unit :=
  if depth = 0 then .error (.invalid .emptyLadder)
  else if config.depthLimit < depth then
    .error (.invalid (.ladderTooDeep depth config.depthLimit))
  else .ok ()

def key (config : Config) : String :=
  match config.scheme with
  | .apiKey => config.apiKey
  | .publicKey => config.publicKey.getD ""

def credential (config : Config) : Except ConfigError Credential :=
  (Credential.ofKey config.scheme config.key).mapError .credential

end Config

end SweepAudit
