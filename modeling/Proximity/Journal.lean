import Proximity.Fault
import Proximity.Reading
import Proximity.Tracker.Call

/-!
# The journal of a bench

Everything that happens on a bench is noted, with the time on the clock, and
nothing that is noted is ever taken back. What a journal holds is of two kinds.

* Most entries are things that can be *seen* from outside
  (`Proximity.Entry.isVisible`): calls of sensors and sources, timers, log
  records, and the calls of listeners, callbacks and tasks.
* The others are *turns* (`Proximity.Turn`): who joined and left, which readings
  came in, which of them became the fused reading, when everything was torn down.
  A report leaves them out; they are what a history is told by.
-/

namespace Proximity

/-- A call of a sensor. -/
inductive Command where
  /-- It gets a tag, or loses it. -/
  | tag (text : Option String)
  /-- It gets a sampling delay. -/
  | delay (delay : Number)
  /-- It is paused. -/
  | pause
  /-- It is resumed. -/
  | resume
  /-- A listener joins it. -/
  | join
  /-- A listener leaves it. -/
  | leave
  deriving DecidableEq

/-- A turn in the life of a fusion, a probe or a sensor. -/
inductive Turn where
  /-- A listener joined the fusion. -/
  | joined (l : Listener)
  /-- A listener left the fusion. -/
  | left (l : Listener)
  /-- The fusion was told whether its secondary may stay on. -/
  | mode (safe : Bool)
  /-- The fusion was paused. -/
  | paused
  /-- The fusion was resumed. -/
  | resumed
  /-- The fusion is about to join its secondary, which it has switched off unless that may
  stay on. -/
  | readied
  /-- The fusion went to work. -/
  | activated
  /-- The fusion stopped working and forgot its readings. -/
  | tornDown
  /-- The fusion is about to look at its secondary again, and switches it on for that. -/
  | rechecked
  /-- A reading of one of its sensors reached the fusion. -/
  | sensed (role : Role) (r : Reading)
  /-- A reading became the fused reading. -/
  | fused (r : Reading)
  /-- The fused reading is told to all listeners: a fresh one because it has
  changed, another one because somebody asked for it. -/
  | broadcast (r : Reading) (fresh : Bool)
  /-- All listeners have been told. -/
  | hushed
  /-- The probe was asked, with a timeout. -/
  | asked (ticket : Nat) (timeout : Number)
  /-- The probe has an answer for those who wait. -/
  | resolved (tickets : List Nat) (near : Option Bool)
  /-- Somebody is given an answer. -/
  | replied (ticket : Nat) (near : Option Bool)
  /-- Somebody who was given an answer failed. -/
  | balked (ticket : Nat)
  /-- A sensor started or stopped sampling. -/
  | sampling (role : Role) (on : Bool)
  /-- A sample reached a sensor. -/
  | sampled (role : Role) (sample : Sample)
  /-- The samples of a sensor crossed its band, while some were listening. -/
  | crossed (role : Role) (r : Reading) (audience : List Listener)
  deriving DecidableEq

/-- Something that happened. -/
inductive Entry where
  /-- A stand-in sensor was called. -/
  | commanded (role : Role) (c : Command)
  /-- The source of a sensor was subscribed to, for the `n`-th time. -/
  | subscribed (role : Role) (n : Nat) (delay : Number)
  /-- The `n`-th subscription to the source of a sensor was stopped. -/
  | stopped (role : Role) (n : Nat)
  /-- A listener was called. -/
  | told (l : Listener) (r : Reading)
  /-- The callback of a check was called. -/
  | answered (ticket : Nat) (check : String) (near : Option Bool)
  /-- The promise of a query was settled. -/
  | settled (ticket : Nat) (query : String) (outcome : Except Fault (Option Bool))
  /-- A task was called. -/
  | ran (task : String)
  /-- A timer was set, for a delay. -/
  | timerSet (id : Nat) (delay : Number) (keepsAlive : Bool)
  /-- A timer was cleared. -/
  | timerCleared (id : Nat)
  /-- A timer fired. -/
  | timerFired (id : Nat)
  /-- A record was logged. -/
  | logged (severity : Severity) (origin : String) (message : String)
      (metadata : List (String × Tree))
  /-- The error tracker was called. -/
  | tracked (call : TrackerCall)
  /-- A turn was taken. -/
  | turned (turn : Turn)

/-- Whether an entry can be seen from outside. -/
def Entry.isVisible : Entry → Bool
  | told (.named _) _ => true
  | told _ _ | turned _ => false
  | _ => true

/-- Whether an entry is about a promise; a report has these at its end. -/
def Entry.isSettled : Entry → Bool
  | settled _ _ _ => true
  | _ => false

/-- An entry with the time of its note. -/
structure Note where
  /-- The time on the clock. -/
  time : Number
  /-- What happened. -/
  entry : Entry

/-- **The trace of some notes**, which are given with the latest first: what can
be seen, in the order in which it happened, and the settled promises at the
end. -/
def trace (notes : List Note) : List Entry :=
  let visible := (notes.reverse.map (·.entry)).filter Entry.isVisible
  visible.filter (!·.isSettled) ++ visible.filter (·.isSettled)

end Proximity
