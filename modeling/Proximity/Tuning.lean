import Proximity.Environment
import Proximity.Fault
import Proximity.Setting

/-!
# Tuning

The two durations of proximity sensing: how long to wait before a contradicting
secondary sensor is looked at again, and how long a check waits for an answer.
Each is taken from the first place that gives it: the caller's choice, the
environment, the default.
-/

namespace Proximity

/-- The durations of proximity sensing, in milliseconds. -/
structure Tuning where
  /-- The wait before the secondary sensor is looked at again. -/
  recheckDelay : Number
  /-- How long a check waits when it is not told otherwise. -/
  patience : Number
  deriving DecidableEq

/-- A caller's choice of durations, either of which may be left open. -/
structure Tuning.Choice where
  /-- The chosen wait before the secondary sensor is looked at again. -/
  recheckDelay : Option Number := none
  /-- The chosen timeout of a check. -/
  patience : Option Number := none
  deriving DecidableEq, Inhabited

namespace Tuning

/-- The durations when nobody chooses any. -/
def default : Tuning where
  recheckDelay := 5000
  patience := 1000

/-- The longest duration that the environment can ask for. -/
def longest : Number := 600000

/-- The durations that the environment asks for. -/
def Choice.ofEnvironment (env : Environment) : Choice where
  recheckDelay :=
    Setting.number? .whole 1 longest (env.get? "PROXIMITY_SECONDARY_PING_INTERVAL_MS")
  patience := Setting.number? .whole 0 longest (env.get? "PROXIMITY_CHECK_TIMEOUT_MS")

/-- **The durations in force**: the caller's choice, then the environment's, then
the default. -/
def resolve (env : Environment) (choice : Choice) : Tuning :=
  let asked := Choice.ofEnvironment env
  { recheckDelay := (choice.recheckDelay.or asked.recheckDelay).getD default.recheckDelay
    patience := (choice.patience.or asked.patience).getD default.patience }

/-- What a caller hands over to choose the durations by. -/
inductive Request where
  /-- A choice. -/
  | choice (c : Choice)
  /-- Nothing at all, which cannot even be asked for a choice. -/
  | nothing
  deriving DecidableEq

/-- The durations in force under a request. -/
def grant (env : Environment) : Request → Except Fault Tuning
  | .choice c => .ok (resolve env c)
  | .nothing => .error (.missing "null" "secondaryPingIntervalMs")

end Tuning

end Proximity
