import Proximity.Session
import Proximity.Tuning

/-!
# Scenarios

A scenario says what a bench is set up with: which sensors there are and what
they are going to report, who may use them from which thread, and whether there
is a probe. Setting up can fail, since a hysteresis sensor does not take any
thresholds.
-/

namespace Proximity

/-- What a sensor is made from. -/
inductive SensorPlan where
  /-- A stand-in, with what it reports from inside being resumed and joined. -/
  | standIn (available : Bool) (onResume onJoin : List (Option Bool))
  /-- A hysteresis sensor, with the name of its source and the samples that it
  takes from inside being subscribed to. Without an upper threshold the lower one
  serves as both. -/
  | hysteresis (source : Option (Option String × List (List Sample))) (threshold : Number)
      (latch delay : Option Number) (confined : Bool)
  /-- No sensor. -/
  | absent
  /-- No plan for a sensor; this is the text of what stands in its place. -/
  | unplanned (text : String)
  deriving Inhabited

/-- The sensor made from a plan. -/
def SensorPlan.make : SensorPlan → Except Fault Sensor
  | standIn available onResume onJoin => .ok (.standIn (.fresh available onResume onJoin))
  | hysteresis source threshold latch delay confined => do
    let band ← Band.make threshold (latch.getD threshold)
    let source := source.map fun (name, onSubscribe) =>
      { name, onSubscribe, subscriptions := 0, live := false : Source }
    return .hysteresis (.fresh source band delay confined)
  | absent => .ok .absent
  | unplanned text => .error (.missing text "kind")

/-- What the steps of a scenario are aimed at. -/
inductive TargetPlan where
  /-- A fusion of two sensors, of which the second may be left out. -/
  | fusion (primary : SensorPlan) (secondary : Option SensorPlan) (request : Tuning.Request)
  /-- A single sensor. -/
  | sensor (plan : SensorPlan)
  /-- Timers, without any sensor. -/
  | timers
  /-- The confinement only. -/
  | nothing
  deriving Inhabited

/-- The target that a plan is for. -/
def TargetPlan.target : TargetPlan → Target
  | .fusion _ _ _ => .fusion
  | .sensor _ => .sensor
  | .timers => .timers
  | .nothing => .nothing

/-- The sensors that a target is made of. -/
def TargetPlan.makeSensors : TargetPlan → Except Fault Sensors
  | .fusion primary secondary _ => do
    let primary ← primary.make
    let secondary ← (secondary.map SensorPlan.make).getD (.ok .unplanned)
    return ⟨primary, secondary, .unplanned⟩
  | .sensor plan => do return ⟨.unplanned, .unplanned, ← plan.make⟩
  | .timers | .nothing => .ok .empty

/-- The wait of a target before it looks at its secondary sensor again. -/
def TargetPlan.recheckDelay (env : Environment) : TargetPlan → Except Fault Number
  | .fusion _ _ request => (Tuning.grant env request).map (·.recheckDelay)
  | .sensor _ | .timers | .nothing => .ok 0

/-- **What a bench is set up with.** -/
structure Scenario where
  /-- The variables of the process. -/
  env : Environment
  /-- The telemetry settings. -/
  telemetry : Telemetry
  /-- Whether the error tracker is started. -/
  startsTracker : Bool
  /-- Whether confined things belong to one thread. -/
  confines : Bool
  /-- The thread that they belong to; the calling one if none is given. -/
  owner : Option Number
  /-- The thread that calls. -/
  thread : Number
  /-- What the steps are aimed at. -/
  target : TargetPlan
  /-- What the probe's durations are chosen by, if there is a probe. -/
  probe : Option Tuning.Request
  /-- What the listeners do at their calls. -/
  scripts : List (String × List (List Step))

namespace Scenario

open Bench

/-- The telemetry settings when all records are logged and nothing is sent. -/
def plainTelemetry : Telemetry := Telemetry.resolve (.ofList [("LOG_LEVEL", "debug")])

/-- The tag that a probe gives its target when it is made. -/
def probeTag : String := "prox_check"

/-- Starts the error tracker, or logs that there is none. -/
def startTracker (m : Telemetry) : Act Unit := do
  if m.tracking.enabled then
    (TrackerCall.starting m).forM fun call => note (.tracked call)
    modify fun b => { b with tracking := true }
  else log .debug "sentry" "Sentry disabled by configuration" []

/-- What is done on a bench before the first step: the probe tags its target, and
then the error tracker is started. -/
def prepare (s : Scenario) : Act Unit := do
  if s.probe.isSome then Probe.tagAs (some probeTag)
  if s.startsTracker then startTracker s.telemetry

/-- How long a probe waits when it is not told otherwise. There cannot be a probe on
a target that takes no tag. -/
def probePatience (s : Scenario) : Except Fault Number :=
  match s.probe with
  | none => .ok 0
  | some request => do
    let tuning ← Tuning.grant s.env request
    match s.target with
    | .fusion _ _ _ | .sensor _ => return tuning.patience
    | .timers => throw (.notCallable "this.sensor.setTag")
    | .nothing => throw (.missing "null" "setTag")

/-- The bench of a scenario before anything is done on it. -/
def bare (s : Scenario) : Except Fault Bench := do
  let sensors ← s.target.makeSensors
  let recheckDelay ← s.target.recheckDelay s.env
  let patience ← s.probePatience
  return {
    target := s.target.target
    owner := if s.confines then some (s.owner.getD s.thread) else none
    threshold := s.telemetry.threshold
    tracking := false
    thread := s.thread
    clock := .start
    sensors
    fusion := .fresh recheckDelay
    probe := .fresh patience
    probed := s.probe.isSome
    scripts := s.scripts
    handles := []
    journal := [] }

/-- **The bench of a scenario.** -/
def setUp (s : Scenario) : Except Fault Bench := do
  let b ← s.bare
  return (s.prepare.run.run b).2

end Scenario

end Proximity
