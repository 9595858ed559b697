import Proximity.Fusion.State
import Proximity.Journal
import Proximity.Probe.State
import Proximity.Sensor
import Proximity.Timer

/-!
# Benches

A bench is everything that proximity sensing runs on: a clock, sensors, a fusion
of two of them, a probe, the thread that calls, and the listeners with what they
are still going to do. Things are done on a bench by *actions*
(`Proximity.Act`), which change it and may fail; an action that fails leaves the
changes it has made.

Actions call back into the outside world – a reading goes to a listener, an
answer to a callback, a timer runs a task – and whatever is called may act on the
bench in turn. So every action that can call out takes a *reactor*, which says
what becomes of a call; `Proximity.Session` ties the knot.
-/

namespace Proximity

/-- What the steps from outside are aimed at. -/
inductive Target where
  /-- The fusion. -/
  | fusion
  /-- The only sensor. -/
  | sensor
  /-- Timers, without any sensor. -/
  | timers
  /-- Nothing; only the confinement is at hand. -/
  | nothing
  deriving DecidableEq, Inhabited

/-- **A bench.** -/
structure Bench where
  /-- What the steps from outside are aimed at. -/
  target : Target
  /-- The thread that confined things belong to; none when all threads may use
  them. -/
  owner : Option Number
  /-- The mildest severity that is logged. -/
  threshold : Severity
  /-- Whether errors are reported. -/
  tracking : Bool
  /-- The thread that calls. -/
  thread : Number
  /-- The clock with its timers. -/
  clock : Clock
  /-- The sensors. -/
  sensors : Sensors
  /-- The fusion. -/
  fusion : Fusion
  /-- The probe. -/
  probe : Probe
  /-- Whether the probe can be asked. -/
  probed : Bool
  /-- What the listeners from outside do at their next calls. -/
  scripts : List (String × List (List Step))
  /-- The timers of the tasks from outside. -/
  handles : List (String × Nat)
  /-- What has happened, the latest first. -/
  journal : List Note
  deriving Inhabited

/-- **Something done on a bench.** It may fail, and then keeps what it has
changed. -/
abbrev Act := ExceptT Fault (StateM Bench)

/-- What can be called from inside an action. -/
inductive Callback where
  /-- A listener, with a reading. -/
  | listener (l : Listener) (r : Reading)
  /-- Somebody who waits for an answer. -/
  | reply (c : Caller) (near : Option Bool)
  /-- A task from outside whose timer has fired. -/
  | task (script : List Step)

/-- What becomes of a call. -/
abbrev Reactor := Callback → Act Unit

/-- The reactor under which nothing becomes of a call. -/
def Reactor.silent : Reactor := fun _ => pure ()

namespace Bench

/-! ### Notes -/

/-- Notes that something has happened. -/
def note (entry : Entry) : Act Unit :=
  modify fun b => { b with journal := ⟨b.clock.now, entry⟩ :: b.journal }

/-- Notes a turn. -/
def turn (t : Turn) : Act Unit := note (.turned t)

/-- Logs a record, if it is severe enough. -/
def log (severity : Severity) (origin message : String) (metadata : List (String × Tree)) :
    Act Unit := do
  if severity.reaches (← get).threshold then
    note (.logged severity origin message metadata)

/-- Reports a fault to the error tracker, if there is one. -/
def report (fault : Fault) (extra : List (String × Tree)) : Act Unit := do
  if (← get).tracking then
    note (.tracked (.capture fault.message (.record extra)))

/-! ### Confinement -/

/-- **Fails unless the owner's thread calls**, if there is an owner. The failure
is logged and reported. -/
def assertOwner : Act Unit := do
  let b ← get
  match b.owner with
  | none => pure ()
  | some owner =>
    if !b.thread.same owner then
      let fault := Fault.offThread owner b.thread
      log .fatal "execution" fault.message
        [("expectedThreadId", .number owner), ("actualThreadId", .number b.thread)]
      report fault []
      throw fault

/-- Fails unless the owner's thread calls, if that matters. -/
def assertOwnerIf (confined : Bool) : Act Unit :=
  if confined then assertOwner else pure ()

/-! ### Parts of a bench -/

/-- Changes the clock. -/
def modifyClock (f : Clock → Clock) : Act Unit :=
  modify fun b => { b with clock := f b.clock }

/-- Changes the fusion. -/
def modifyFusion (f : Fusion → Fusion) : Act Unit :=
  modify fun b => { b with fusion := f b.fusion }

/-- Changes the probe. -/
def modifyProbe (f : Probe → Probe) : Act Unit :=
  modify fun b => { b with probe := f b.probe }

/-- Changes the sensor at a place. -/
def modifySensor (role : Role) (f : Sensor → Sensor) : Act Unit :=
  modify fun b => { b with sensors := b.sensors.modify role f }

/-- The fusion. -/
def getFusion : Act Fusion := return (← get).fusion

/-- The sensor at a place. -/
def getSensor (role : Role) : Act Sensor := return (← get).sensors.get role

/-- The probe. -/
def getProbe : Act Probe := return (← get).probe

/-- The time of a stamp, which the clock may have to say. -/
def resolveStamp (stamp : Stamp) : Act Int := do
  match stamp.resolve (← get).clock.now with
  | .ok nanos => return nanos
  | .error fault => throw fault

/-! ### Calling out -/

/-- Calls a listener with a reading. -/
def tell (call : Reactor) (l : Listener) (r : Reading) : Act Unit := do
  note (.told l r)
  call (.listener l r)

/-- Calls listeners with a reading, one after the other. -/
def tellAll (call : Reactor) (listeners : List Listener) (r : Reading) : Act Unit :=
  listeners.forM fun l => tell call l r

end Bench

end Proximity
