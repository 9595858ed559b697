import Proximity.Bench

/-!
# Hysteresis sensors

A hysteresis sensor samples its source while it should
(`Proximity.Hysteresis.wantsSamples`) and reports the samples that cross its
band: the first one that says something, and after that every change. It forgets
what it reported when it stops sampling, but not when it only subscribes anew for
another delay.

A source may take samples from inside the very call that subscribes to it, and
those may stop or restart the sensor before it knows how to stop the
subscription. That is what the *generation* is for: a subscription that comes
back to another generation than it left is stopped at once.
-/

namespace Proximity

namespace Hysteresis

open Bench

/-- The hysteresis sensor at a place. -/
def get (role : Role) : Act Hysteresis := return (← getSensor role).asHysteresis

/-- Changes the hysteresis sensor at a place. -/
def modify (role : Role) (f : Hysteresis → Hysteresis) : Act Unit :=
  modifySensor role (·.mapHysteresis f)

/-- Changes the source of the hysteresis sensor at a place. -/
def modifySource (role : Role) (f : Source → Source) : Act Unit :=
  modify role fun h => { h with source := h.source.map f }

/-- Fails if the sensor is confined and another thread calls. -/
def assertConfined (role : Role) : Act Unit := do
  assertOwnerIf (← get role).confined

/-- Logs a record about the sensor. -/
def logAbout (role : Role) (severity : Severity) (message : String)
    (metadata : List (String × Tree)) : Act Unit := do
  log severity "threshold-sensor" (Fusion.tagged (← get role).tag message) metadata

/-! ### Samples -/

/-- **Takes a sample.** It is reported to all who listen if it says something
that is not what was last reported. -/
def take (call : Reactor) (role : Role) (sample : Sample) : Act Unit := do
  assertConfined role
  turn (.sampled role sample)
  let h ← get role
  if h.sampling then
    match h.band.classify sample.value with
    | none => pure ()
    | some near =>
      if h.last ≠ some near then
        modify role fun h => { h with last := some near }
        let r : Reading := ⟨near, ← resolveStamp sample.stamp⟩
        turn (.crossed role r h.listeners)
        tellAll call h.listeners r

/-! ### The source -/

/-- Stops a subscription to the source. The source falls silent if it was the
latest one. -/
def stop (role : Role) (n : Nat) : Act Unit := do
  note (.stopped role n)
  modifySource role fun s => { s with live := s.live && s.subscriptions != n }

/-- Subscribes to the source, which may take samples before this comes back. The
answer is the number of the subscription. -/
def subscribe (call : Reactor) (role : Role) (delay : Number) : Act Nat := do
  modifySource role fun s => { s with subscriptions := s.subscriptions + 1, live := true }
  let n := ((← get role).source.map (·.subscriptions)).getD 0
  note (.subscribed role n delay)
  let samples := ((← get role).source.bind (·.onSubscribe.head?)).getD []
  modifySource role fun s => { s with onSubscribe := s.onSubscribe.tail }
  samples.forM fun sample => take call role sample
  return n

/-- A sample of a source reaches the sensor if it has a live subscription; a late
one reaches it if there has ever been a subscription. -/
def deliver (call : Reactor) (role : Role) (sample : Sample) (late : Bool) : Act Unit := do
  match (← get role).source with
  | none => pure ()
  | some s => if s.live || (late && s.subscriptions != 0) then take call role sample

/-! ### Sampling -/

/-- **Starts sampling.** -/
def beginSampling (call : Reactor) (role : Role) : Act Unit := do
  let h ← get role
  logAbout role .debug "Starting sensor sampling" [("samplingDelay", .number h.delay)]
  let generation := h.generation + 1
  modify role fun h => { h with sampling := true, generation }
  let n ← subscribe call role h.delay
  if (← get role).generation = generation then
    modify role fun h => { h with subscription := some n }
  else stop role n

/-- Stops the subscription there is. -/
def dropSubscription (role : Role) : Act Unit := do
  let subscription := (← get role).subscription
  modify role fun h => { h with generation := h.generation + 1, subscription := none }
  match subscription with
  | none => pure ()
  | some n => stop role n

/-- **Starts or stops sampling**, whichever is called for. -/
def adjust (call : Reactor) (role : Role) : Act Unit := do
  let h ← get role
  if h.wantsSamples && !h.sampling then
    turn (.sampling role true)
    beginSampling call role
  else if !h.wantsSamples && h.sampling then
    logAbout role .debug "Stopping sensor sampling" []
    turn (.sampling role false)
    modify role fun h => { h with sampling := false, last := none }
    dropSubscription role

/-! ### Calls -/

/-- Takes a tag, or loses it. -/
def tagAs (role : Role) (text : Option String) : Act Unit :=
  modify role fun h => { h with tag := text }

/-- Takes a sampling delay; if that is a new one, sampling goes on with it. -/
def retime (call : Reactor) (role : Role) (delay : Number) : Act Unit := do
  assertConfined role
  if !delay.same (← get role).delay then
    modify role fun h => { h with delay }
    if (← get role).sampling then
      dropSubscription role
      beginSampling call role

/-- Is paused. -/
def pause (call : Reactor) (role : Role) : Act Unit := do
  assertConfined role
  modify role fun h => { h with paused := true }
  adjust call role

/-- Is resumed. -/
def resume (call : Reactor) (role : Role) : Act Unit := do
  assertConfined role
  modify role fun h => { h with paused := false }
  adjust call role

/-- Takes a listener, if the sensor is there. -/
def join (call : Reactor) (role : Role) (l : Listener) : Act Unit := do
  assertConfined role
  let h ← get role
  if h.available then
    if l ∈ h.listeners then logAbout role .warn "Listener registered multiple times" []
    else modify role fun h => { h with listeners := h.listeners ++ [l] }
    adjust call role

/-- Loses a listener. -/
def leave (call : Reactor) (role : Role) (l : Listener) : Act Unit := do
  assertConfined role
  modify role fun h => { h with listeners := h.listeners.erase l }
  adjust call role

end Hysteresis

end Proximity
