import Proximity.Fusion.Basic

/-!
# What a bench is aimed at

A probe and the steps from outside do not care whether they deal with a fusion or
with a single sensor. Here are the calls that both answer; any other target
refuses them (`Proximity.Target.refuse`).
-/

namespace Proximity

namespace Target

open Bench

/-- **Fails because the target does not answer a call.** -/
def refuse (call : String) : Act α := do
  match (← get).target with
  | .nothing => throw (.missing "null" call)
  | _ => throw (.notCallable ("target." ++ call))

/-- Whether the target is there. -/
def isAvailable : Act Bool := do
  match (← get).target with
  | .fusion => Fusion.isAvailable
  | .sensor => Sensor.isAvailable .sole
  | .timers | .nothing => refuse "isLoaded"

/-- Gives the target a tag, or takes it away. -/
def tagAs (text : Option String) : Act Unit := do
  match (← get).target with
  | .fusion => Fusion.tagAs text
  | .sensor => Sensor.tagAs .sole text
  | .timers | .nothing => refuse "setTag"

/-- Gives the target a sampling delay. -/
def retime (call : Reactor) (delay : Number) : Act Unit := do
  match (← get).target with
  | .fusion => Fusion.retime call delay
  | .sensor => Sensor.retime call .sole delay
  | .timers | .nothing => refuse "setDelay"

/-- Pauses the target. -/
def pause (call : Reactor) : Act Unit := do
  match (← get).target with
  | .fusion => Fusion.pause call
  | .sensor => Sensor.pause call .sole
  | .timers | .nothing => refuse "pause"

/-- Resumes the target. -/
def resume (call : Reactor) : Act Unit := do
  match (← get).target with
  | .fusion => Fusion.resume call
  | .sensor => Sensor.resume call .sole
  | .timers | .nothing => refuse "resume"

/-- Joins a listener to the target. -/
def join (call : Reactor) (l : Listener) : Act Unit := do
  match (← get).target with
  | .fusion => Fusion.join call l
  | .sensor => Sensor.join call .sole l
  | .timers | .nothing => refuse "register"

/-- Takes a listener from the target. -/
def leave (call : Reactor) (l : Listener) : Act Unit := do
  match (← get).target with
  | .fusion => Fusion.leave call l
  | .sensor => Sensor.leave call .sole l
  | .timers | .nothing => refuse "unregister"

/-- The text of the target. -/
def text (b : Bench) : String :=
  match b.target with
  | .fusion => Fusion.text b
  | .sensor => b.sensors.sole.text
  | .timers => "[object Object]"
  | .nothing => "null"

end Target

end Proximity
