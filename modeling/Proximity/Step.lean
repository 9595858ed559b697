import Proximity.Reading

/-!
# Steps

What can be done to a bench from outside, one step at a time. A listener, the
callback of a check and a task are themselves described by steps: when they are
called, the steps they still have are taken. So a list of steps, with the scripts
in it, says everything about an environment – in which order it calls, what it
does while it is being called, and where it fails.
-/

namespace Proximity

/-- One thing done to a bench. -/
inductive Step where
  /-- A listener joins the target. -/
  | join (listener : String)
  /-- A listener leaves the target. -/
  | leave (listener : String)
  /-- The target is paused. -/
  | pause
  /-- The target is resumed. -/
  | resume
  /-- The fusion repeats its last reading to all listeners. -/
  | alert
  /-- The target gets a tag for its log records, or loses it. -/
  | tag (text : Option String)
  /-- The target gets a sampling delay. -/
  | delay (delay : Number)
  /-- The fusion is told whether it may keep its secondary sensor on. -/
  | safe (on : Bool)
  /-- The fusion is asked whether something is near. -/
  | near
  /-- The fusion is asked for its four flags. -/
  | flags
  /-- The target is asked for its text. -/
  | text
  /-- A stand-in sensor reports. -/
  | event (role : Role) (near : Bool) (stamp : Option Int)
  /-- The source of a sensor takes a sample; a late one comes even after the
  source was stopped. -/
  | sample (role : Role) (sample : Sample) (late : Bool)
  /-- The calls that follow come from another thread. -/
  | thread (id : Number)
  /-- The confinement is asserted. -/
  | assertOwner
  /-- Time passes. -/
  | advance (millis : Number)
  /-- The probe is asked for an answer, which takes a script of steps. -/
  | check (name : String) (timeout : Number) (script : List Step)
  /-- The probe is asked for an answer that settles a promise. -/
  | query (name : String) (timeout : Option Number)
  /-- The probe passes a tag on. -/
  | probeTag (text : Option String)
  /-- A task, which takes a script of steps, is put off. If nothing can be asked
  whether its timer keeps the program alive, the step fails once the timer is set. -/
  | schedule (name : String) (delay : Number) (keepsAlive : Option Bool) (script : List Step)
  /-- A task is called off, by its handle itself or by the target. -/
  | cancel (name : String) (direct : Bool)
  /-- The handle of a task is asked whether its timer is still pending. -/
  | active (name : String)
  /-- An error is thrown. -/
  | throwError (message : String)
  /-- A value that is no error is thrown; this is its text. -/
  | throwValue (text : String)
  deriving Inhabited

namespace Step

mutual

/-- How much can come of a step: one for itself, and what can come of the steps
in its script. -/
def weight : Step → Nat
  | check _ _ script => weightAll script + 1
  | schedule _ _ _ script => weightAll script + 1
  | _ => 1

/-- How much can come of a script. -/
def weightAll : List Step → Nat
  | [] => 0
  | step :: rest => weight step + weightAll rest

end

end Step

end Proximity
