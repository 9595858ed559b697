import Proximity.Bench

/-!
# Stand-in sensors

A stand-in reports what it is told to: from outside, or from inside the calls
that resume it or join a listener to it, by a list of reports. It notes every
call before acting on it, and it reports whether it is paused or not – a real
sensor can be late, too.
-/

namespace Proximity

namespace StandIn

open Bench

/-- The stand-in at a place. -/
def get (role : Role) : Act StandIn := return (← getSensor role).asStandIn

/-- Changes the stand-in at a place. -/
def modify (role : Role) (f : StandIn → StandIn) : Act Unit :=
  modifySensor role (·.mapStandIn f)

/-- **Reports to all who listen.** A report without a time of its own is
numbered. -/
def emit (call : Reactor) (role : Role) (near : Bool) (stamp : Option Int) : Act Unit := do
  match stamp with
  | some stamp => tellAll call (← get role).listeners ⟨near, stamp⟩
  | none =>
    modify role fun s => { s with reports := s.reports + 1 }
    let s ← get role
    tellAll call s.listeners ⟨near, s.reports⟩

/-- Reports if there is something to report. -/
def emitNext (call : Reactor) (role : Role) (next : Option (Option Bool)) : Act Unit :=
  match next with
  | some (some near) => emit call role near none
  | some none | none => pure ()

/-- Takes a tag, or loses it. -/
def tagAs (role : Role) (text : Option String) : Act Unit := note (.commanded role (.tag text))

/-- Takes a sampling delay. -/
def retime (role : Role) (delay : Number) : Act Unit := note (.commanded role (.delay delay))

/-- Is paused. -/
def pause (role : Role) : Act Unit := do
  note (.commanded role .pause)
  modify role fun s => { s with paused := true }

/-- Is resumed, and reports what is next for that. -/
def resume (call : Reactor) (role : Role) : Act Unit := do
  note (.commanded role .resume)
  let next := (← get role).onResume.head?
  modify role fun s => { s with paused := false, onResume := s.onResume.tail }
  emitNext call role next

/-- Takes a listener, and reports what is next for that. -/
def join (call : Reactor) (role : Role) (l : Listener) : Act Unit := do
  note (.commanded role .join)
  let next := (← get role).onJoin.head?
  modify role fun s => { s with listeners := l.addTo s.listeners, onJoin := s.onJoin.tail }
  emitNext call role next

/-- Loses a listener. -/
def leave (role : Role) (l : Listener) : Act Unit := do
  note (.commanded role .leave)
  modify role fun s => { s with listeners := s.listeners.erase l }

end StandIn

end Proximity
