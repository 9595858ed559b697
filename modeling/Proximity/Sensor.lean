import Proximity.Band
import Proximity.Reading

/-!
# Sensors

The sensors a bench can hold, as states:

* a **stand-in**, which reports what a script says and keeps track of how it is
  used;
* a **hysteresis sensor**, which samples a source while it has listeners and is
  not paused, and reports when the samples cross its band;
* an **absent** sensor, which does nothing at all; where no sensor was planned in
  the first place, there is an *unplanned* one, which cannot even be told to
  report.

What they do when they are used is in `Proximity.StandIn` and
`Proximity.Hysteresis`; here is only what they remember.
-/

namespace Proximity

/-- A sensor that reports what a script says. -/
structure StandIn where
  /-- Whether it claims to be there. -/
  available : Bool
  /-- What it reports from inside the calls of `resume`, in turn. -/
  onResume : List (Option Bool)
  /-- What it reports from inside the calls of `join`, in turn. -/
  onJoin : List (Option Bool)
  /-- Whether the last of pausing and resuming was pausing. -/
  paused : Bool
  /-- Who listens, in the order of joining. -/
  listeners : List Listener
  /-- How many reports it has numbered. -/
  reports : Nat
  deriving Inhabited

/-- Where a hysteresis sensor gets its samples from. -/
structure Source where
  /-- The name of the source, if it has one. -/
  name : Option String
  /-- The samples it takes from inside the calls that subscribe to it, in turn. -/
  onSubscribe : List (List Sample)
  /-- How often it has been subscribed to. -/
  subscriptions : Nat
  /-- Whether the latest subscription is still live. -/
  live : Bool
  deriving Inhabited

/-- A sensor with a hysteresis band. -/
structure Hysteresis where
  /-- Where the samples come from; none when the sensor is not there. -/
  source : Option Source
  /-- The thresholds. -/
  band : Band
  /-- The delay between samples that is asked of the source. -/
  delay : Number
  /-- Whether it may be used from its owner's thread only. -/
  confined : Bool
  /-- The tag of its log records. -/
  tag : Option String
  /-- Whether it is paused. -/
  paused : Bool
  /-- Whether it is sampling. -/
  sampling : Bool
  /-- Who listens, in the order of joining. -/
  listeners : List Listener
  /-- Counts the times that sampling was started or given up. -/
  generation : Nat
  /-- The subscription it has still to stop. -/
  subscription : Option Nat
  /-- What it last reported while sampling. -/
  last : Option Bool
  deriving Inhabited

/-- A sensor. -/
inductive Sensor where
  /-- One that reports what a script says. -/
  | standIn (s : StandIn)
  /-- One that samples a source. -/
  | hysteresis (h : Hysteresis)
  /-- One that does nothing. -/
  | absent
  /-- One that does nothing and that nobody has planned. -/
  | unplanned
  deriving Inhabited

namespace StandIn

/-- A stand-in that nobody has used yet. -/
def fresh (available : Bool) (onResume onJoin : List (Option Bool)) : StandIn :=
  { available, onResume, onJoin, paused := false, listeners := [], reports := 0 }

/-- The text of a stand-in. -/
def text (s : StandIn) : String :=
  "\x7bfake loaded=" ++ toString s.available ++ " paused=" ++ toString s.paused ++ "\x7d"

end StandIn

namespace Hysteresis

/-- The delay between samples when none is asked for. -/
def defaultDelay : Number := 3

/-- A hysteresis sensor that nobody has used yet. -/
def fresh (source : Option Source) (band : Band) (delay : Option Number) (confined : Bool) :
    Hysteresis :=
  { source, band, delay := delay.getD defaultDelay, confined, tag := none, paused := false
    sampling := false, listeners := [], generation := 0, subscription := none, last := none }

/-- Whether there is a source. -/
def available (h : Hysteresis) : Bool := h.source.isSome

/-- **When a sensor should sample**: it is there, not paused, and somebody
listens. -/
def wantsSamples (h : Hysteresis) : Bool := h.available && !h.paused && !h.listeners.isEmpty

/-- The text of a hysteresis sensor. -/
def text (h : Hysteresis) : String :=
  "\x7bsource=" ++ ((h.source.bind (·.name)).getD "none") ++ ", threshold=" ++ h.band.threshold.text
    ++ ", thresholdLatch=" ++ h.band.latch.text ++ ", delay=" ++ h.delay.text ++ ", sampling="
    ++ toString h.sampling ++ ", paused=" ++ toString h.paused ++ "\x7d"

end Hysteresis

namespace Sensor

/-- Whether a sensor is there. -/
def available : Sensor → Bool
  | standIn s => s.available
  | hysteresis h => h.available
  | absent | unplanned => false

/-- Whether the last of pausing and resuming a sensor was pausing it. -/
def paused : Sensor → Bool
  | standIn s => s.paused
  | hysteresis h => h.paused
  | absent | unplanned => false

/-- The text of a sensor. -/
def text : Sensor → String
  | standIn s => s.text
  | hysteresis h => h.text
  | absent | unplanned => "\x7babsent\x7d"

/-- The stand-in that a sensor is; a fresh one if it is none. -/
def asStandIn : Sensor → StandIn
  | standIn s => s
  | _ => default

/-- The hysteresis sensor that a sensor is; a fresh one if it is none. -/
def asHysteresis : Sensor → Hysteresis
  | hysteresis h => h
  | _ => default

/-- A sensor changed as a stand-in, if it is one. -/
def mapStandIn (f : StandIn → StandIn) : Sensor → Sensor
  | standIn s => standIn (f s)
  | other => other

/-- A sensor changed as a hysteresis sensor, if it is one. -/
def mapHysteresis (f : Hysteresis → Hysteresis) : Sensor → Sensor
  | hysteresis h => hysteresis (f h)
  | other => other

end Sensor

/-- The sensors of a bench, by their places. -/
structure Sensors where
  /-- The primary sensor. -/
  primary : Sensor
  /-- The secondary sensor. -/
  secondary : Sensor
  /-- The sensor of a bench without a fusion. -/
  sole : Sensor
  deriving Inhabited

namespace Sensors

/-- No sensor anywhere. -/
def empty : Sensors := ⟨.unplanned, .unplanned, .unplanned⟩

/-- The sensor at a place. -/
def get (s : Sensors) : Role → Sensor
  | .primary => s.primary
  | .secondary => s.secondary
  | .sole => s.sole

/-- The sensors with the one at a place changed. -/
def modify (s : Sensors) (role : Role) (f : Sensor → Sensor) : Sensors :=
  match role with
  | .primary => { s with primary := f s.primary }
  | .secondary => { s with secondary := f s.secondary }
  | .sole => { s with sole := f s.sole }

@[simp] theorem get_modify_self (s : Sensors) (role : Role) (f : Sensor → Sensor) :
    (s.modify role f).get role = f (s.get role) := by cases role <;> rfl

theorem get_modify_of_ne (s : Sensors) {role other : Role} (f : Sensor → Sensor)
    (h : other ≠ role) : (s.modify role f).get other = s.get other := by
  cases role <;> cases other <;> simp_all [modify, get]

end Sensors

end Proximity
