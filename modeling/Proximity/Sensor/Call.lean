import Proximity.Sensor.Hysteresis
import Proximity.Sensor.StandIn

/-!
# Calling a sensor

The calls that every sensor answers, whichever kind it is. An absent sensor and an
unplanned one answer all of them by doing nothing.
-/

namespace Proximity

namespace Sensor

open Bench

/-- Whether the sensor at a place is there. -/
def isAvailable (role : Role) : Act Bool := return (← getSensor role).available

/-- Gives the sensor at a place a tag, or takes it away. -/
def tagAs (role : Role) (text : Option String) : Act Unit := do
  match ← getSensor role with
  | .standIn _ => StandIn.tagAs role text
  | .hysteresis _ => Hysteresis.tagAs role text
  | .absent | .unplanned => pure ()

/-- Gives the sensor at a place a sampling delay. -/
def retime (call : Reactor) (role : Role) (delay : Number) : Act Unit := do
  match ← getSensor role with
  | .standIn _ => StandIn.retime role delay
  | .hysteresis _ => Hysteresis.retime call role delay
  | .absent | .unplanned => pure ()

/-- Pauses the sensor at a place. -/
def pause (call : Reactor) (role : Role) : Act Unit := do
  match ← getSensor role with
  | .standIn _ => StandIn.pause role
  | .hysteresis _ => Hysteresis.pause call role
  | .absent | .unplanned => pure ()

/-- Resumes the sensor at a place. -/
def resume (call : Reactor) (role : Role) : Act Unit := do
  match ← getSensor role with
  | .standIn _ => StandIn.resume call role
  | .hysteresis _ => Hysteresis.resume call role
  | .absent | .unplanned => pure ()

/-- Joins a listener to the sensor at a place. -/
def join (call : Reactor) (role : Role) (l : Listener) : Act Unit := do
  match ← getSensor role with
  | .standIn _ => StandIn.join call role l
  | .hysteresis _ => Hysteresis.join call role l
  | .absent | .unplanned => pure ()

/-- Takes a listener from the sensor at a place. -/
def leave (call : Reactor) (role : Role) (l : Listener) : Act Unit := do
  match ← getSensor role with
  | .standIn _ => StandIn.leave role l
  | .hysteresis _ => Hysteresis.leave call role l
  | .absent | .unplanned => pure ()

/-- The sensor at a place reports from outside. Only a stand-in can be told
to. -/
def emit (call : Reactor) (role : Role) (near : Bool) (stamp : Option Int) : Act Unit := do
  match ← getSensor role with
  | .standIn _ => StandIn.emit call role near stamp
  | .hysteresis _ | .absent => throw (.notCallable "sensors[s.sensor].fire")
  | .unplanned => throw (.missing "undefined" "fire")

/-- The source of the sensor at a place takes a sample, if it has one. -/
def deliver (call : Reactor) (role : Role) (sample : Sample) (late : Bool) : Act Unit := do
  match ← getSensor role with
  | .hysteresis _ => Hysteresis.deliver call role sample late
  | .standIn _ | .absent | .unplanned => pure ()

end Sensor

end Proximity
