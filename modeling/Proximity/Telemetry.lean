import Proximity.Environment
import Proximity.Setting

/-!
# Telemetry settings

What the environment says about logging and error reports: which deployment this
is, how severe a record has to be to be logged, and whether records and errors
are also sent away. Sending needs an address (or a token), and outside production
and staging it needs the explicit wish as well.
-/

namespace Proximity

/-- How severe a log record is. -/
inductive Severity where
  /-- Of use only when hunting a fault. -/
  | debug
  /-- Worth knowing. -/
  | info
  /-- Not as it should be. -/
  | warn
  /-- Something failed. -/
  | error
  /-- Nothing can go on. -/
  | fatal
  deriving DecidableEq, Inhabited

namespace Severity

/-- The severities, the mildest first. -/
def all : List Severity := [debug, info, warn, error, fatal]

/-- How severe a severity is. -/
def rank : Severity → Nat
  | debug => 0
  | info => 1
  | warn => 2
  | error => 3
  | fatal => 4

/-- The name of a severity. -/
def name : Severity → String
  | debug => "debug"
  | info => "info"
  | warn => "warn"
  | error => "error"
  | fatal => "fatal"

/-- The name of a severity in capitals. -/
def label : Severity → String
  | debug => "DEBUG"
  | info => "INFO"
  | warn => "WARN"
  | error => "ERROR"
  | fatal => "FATAL"

/-- The severity of a name. -/
def ofName? (name : String) : Option Severity := all.find? (·.name == name)

/-- Whether a record of this severity is logged where `threshold` is asked for. -/
def reaches (severity threshold : Severity) : Bool := threshold.rank ≤ severity.rank

end Severity

/-- Where errors are reported to. -/
structure Telemetry.Tracking where
  /-- The address of the error tracker; empty when there is none. -/
  address : String
  /-- Whether errors are reported. -/
  enabled : Bool
  /-- The share of traces that are sampled. -/
  sampleRate : Number
  deriving DecidableEq

/-- Where log records are sent to. -/
structure Telemetry.Shipping where
  /-- The token of the log service; empty when there is none. -/
  token : String
  /-- Whether records are sent. -/
  enabled : Bool
  deriving DecidableEq

/-- The telemetry settings of a process. -/
structure Telemetry where
  /-- The name of the deployment. -/
  deployment : String
  /-- The version that runs, when it is known. -/
  release : Option String
  /-- The mildest severity that is logged. -/
  threshold : Severity
  /-- Where errors are reported to. -/
  tracking : Telemetry.Tracking
  /-- Where log records are sent to. -/
  shipping : Telemetry.Shipping
  deriving DecidableEq

namespace Telemetry

/-- The text of a variable without blanks at its ends, unless nothing is left. -/
def trimmed? (env : Environment) (name : String) : Option String :=
  match (env.get? name).map fun s => String.ofList (Text.trim s.toList) with
  | some "" | none => none
  | some s => some s

/-- The name of the deployment: the first of two variables that says something,
and development otherwise. -/
def deploymentOf (env : Environment) : String :=
  ((trimmed? env "APP_ENV").or (trimmed? env "NODE_ENV")).getD "development"

/-- The mildest severity that is logged: everything when the debug flag is set,
then the severity asked for, and `info` when none is. -/
def thresholdOf (env : Environment) : Severity :=
  if Setting.flag (env.get? "PROXIMITY_DEBUG") false then .debug
  else
    let asked := Text.lowerCase (Text.trim ((env.get? "LOG_LEVEL").getD "").toList)
    (Severity.ofName? (String.ofList asked)).getD .info

/-- Production and staging send reports without being asked to. -/
def isDeployed (deployment : String) : Bool :=
  deployment == "production" || deployment == "staging"

/-- One trace in ten. -/
def defaultSampleRate : Number := Number.ofDecimal false 1 (-1)

/-- **The telemetry settings that an environment asks for.** -/
def resolve (env : Environment) : Telemetry :=
  let deployment := deploymentOf env
  let address := (env.get? "SENTRY_DSN").getD ""
  let token := (env.get? "BETTER_STACK_TOKEN").getD ""
  { deployment
    release := env.get? "npm_package_version"
    threshold := thresholdOf env
    tracking :=
      { address
        enabled :=
          !address.isEmpty
            && (isDeployed deployment
              || Setting.flag (env.get? "ENABLE_SENTRY_IN_DEV") false)
        sampleRate :=
          (Setting.number? .decimal 0 1 (env.get? "SENTRY_TRACES_SAMPLE_RATE")).getD
            defaultSampleRate }
    shipping :=
      { token
        enabled :=
          !token.isEmpty
            && (isDeployed deployment
              || Setting.flag (env.get? "ENABLE_BETTER_STACK_IN_DEV") false) } }

end Telemetry

end Proximity
