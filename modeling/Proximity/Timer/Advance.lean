import Proximity.Probe.Basic

/-!
# Moving the clock on

When the clock is moved on, timers fire one by one. A timer that fires is taken
off the clock first, then the clock is put to its due time, then its handle is
disarmed, and only then is its task done. So a task finds the clock in order,
whatever it does with it; and if a task fails, the clock stays at its time, and
the later timers stay pending.
-/

namespace Proximity

namespace Timer

open Bench

/-- Does the task of a timer. A task from outside is called, which can be seen. -/
def run (call : Reactor) (t : Timer) : Act Unit := do
  match t.task with
  | .recheck => Fusion.recheck call t.id
  | .giveUp => Probe.giveUp call
  | .scripted name script =>
    note (.ran name)
    call (.task script)

/-- A timer goes off: it is no longer pending, and its handle no longer armed. -/
def strike (t : Timer) : Act Unit := do
  modifyClock fun c => (c.remove t.id).reach t.due
  note (.timerFired t.id)
  modifyClock (·.disarm t.id)

/-- A timer fires. -/
def fire (call : Reactor) (t : Timer) : Act Unit := do
  strike t
  run call t

/-- Fires the timers that are due up to a time, but no more than a number of
them. -/
def fireUntil (call : Reactor) (limit : Number) : Nat → Act Unit
  | 0 => pure ()
  | bound + 1 => do
    match (← get).clock.next? limit with
    | none => pure ()
    | some t =>
      fire call t
      fireUntil call limit bound

/-- **Moves the clock on**, firing no more than a number of timers. -/
def advance (call : Reactor) (millis : Number) (bound : Nat) : Act Unit := do
  let limit := (← get).clock.now + millis
  fireUntil call limit bound
  modifyClock fun c => { c with now := limit }

end Timer

end Proximity
