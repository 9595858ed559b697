import Proximity.Target

/-!
# Probing

A probe samples its target for a moment, to answer one question: is something
near? The first to ask starts a check – a timer is set and the probe joins the
target – and all who ask before there is an answer wait together. The first
reading answers all of them; so does the timer, with no answer; and a target that
is not there is answered for at once, in the same way.

The timer is set *before* the probe joins the target, since the target may report
from inside that call, and the answer must find the timer to call it off.
-/

namespace Proximity

namespace Probe

open Bench

/-! ### Answers -/

/-- Settles a promise, unless that has been done before. Who watches it learns of
it at once. -/
def settle (c : Caller) (outcome : Except Fault (Option Bool)) : Act Unit := do
  if c.ticket ∈ (← getProbe).unsettled then
    modifyProbe fun p => { p with unsettled := p.unsettled.erase c.ticket }
    if c.ticket ∈ (← getProbe).unwatched then
      modifyProbe fun p => { p with unseen := (c.ticket, outcome) :: p.unseen }
    else note (.settled c.ticket c.name outcome)

/-- From now on a promise is watched. Who watches it learns at once of what was
settled before. -/
def watch (c : Caller) : Act Unit := do
  let unseen := (← getProbe).unseen
  modifyProbe fun p =>
    { p with
      unwatched := p.unwatched.erase c.ticket
      unseen := p.unseen.filter (·.1 != c.ticket) }
  match unseen.lookup c.ticket with
  | some outcome => note (.settled c.ticket c.name outcome)
  | none => pure ()

/-- **Gives somebody an answer.** A callback that fails fails its caller. -/
def answer (call : Reactor) (near : Option Bool) (c : Caller) : Act Unit := do
  turn (.replied c.ticket near)
  match c.reply with
  | .callback _ =>
    note (.answered c.ticket c.name near)
    tryCatch (call (.reply c near)) fun fault => do
      turn (.balked c.ticket)
      throw fault
  | .promise => settle c (.ok near)

/-- Calls off the timer of the check. -/
def stopTimer : Act Unit := do
  match (← getProbe).timer with
  | none => pure ()
  | some id =>
    Timer.cancel id
    modifyProbe fun p => { p with timer := none }

/-- Ends the check: calls the timer off and leaves the target. -/
def finish (call : Reactor) : Act Unit := do
  stopTimer
  Target.leave call .probe
  modifyProbe fun p => { p with checking := false }

/-- **Answers all who wait**, in the order of asking. The check is over before the
first of them is answered, so that whoever is answered may start the next one. -/
def answerAll (call : Reactor) (near : Option Bool) : Act Unit := do
  let waiting := (← getProbe).waiting
  turn (.resolved (waiting.map (·.ticket)) near)
  modifyProbe fun p => { p with waiting := [] }
  finish call
  waiting.forM fun c => answer call near c

/-- A reading of the target answers the question. -/
def onReading (call : Reactor) (r : Reading) : Act Unit := answerAll call (some r.near)

/-- The timer has fired: the question is given up. -/
def giveUp (call : Reactor) : Act Unit := do
  modifyProbe fun p => { p with timer := none }
  log .debug "proximity-check" "Proximity check timed out"
    [("pendingCallbacks", .int (← getProbe).waiting.length)]
  answerAll call none

/-! ### Questions -/

/-- The number of a new question. -/
def newTicket (timeout : Number) : Act Nat := do
  modifyProbe fun p => { p with lastTicket := p.lastTicket + 1 }
  let ticket := (← getProbe).lastTicket
  turn (.asked ticket timeout)
  return ticket

/-- **Somebody asks**, and waits no longer than a timeout if nobody is waiting
yet. -/
def ask (call : Reactor) (timeout : Number) (c : Caller) : Act Unit := do
  if !(← Target.isAvailable) then
    turn (.resolved [c.ticket] none)
    answer call none c
  else
    modifyProbe fun p => { p with waiting := p.waiting ++ [c] }
    if !(← getProbe).checking then
      modifyProbe fun p => { p with checking := true }
      let id ← Timer.schedule timeout .giveUp true
      modifyProbe fun p => { p with timer := some id }
      Target.join call .probe

/-- Asks for an answer that a callback takes. -/
def check (call : Reactor) (name : String) (timeout : Number) (script : List Step) : Act Unit := do
  let ticket ← newTicket timeout
  ask call timeout ⟨ticket, name, .callback script⟩

/-- Asks for an answer that a promise takes. If asking fails, the promise takes
the fault. The promise can be watched when the call comes back, and not
before. -/
def query (call : Reactor) (name : String) (timeout : Option Number) : Act Unit := do
  let timeout := timeout.getD (← getProbe).timeout
  let ticket ← newTicket timeout
  modifyProbe fun p =>
    { p with unsettled := p.unsettled ++ [ticket], unwatched := p.unwatched ++ [ticket] }
  let c : Caller := ⟨ticket, name, .promise⟩
  tryCatch (ask call timeout c) fun fault => settle c (.error fault)
  watch c

/-- Passes a tag on to the target. -/
def tagAs (text : Option String) : Act Unit := Target.tagAs text

end Probe

end Proximity
