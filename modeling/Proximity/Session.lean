import Proximity.Timer.Advance

/-!
# Sessions

A session takes steps on a bench. A step may call out, and whatever is called
takes the steps of its own script, which may call out again; so what becomes of a
call (`Proximity.Session.react`) is defined level by level, each level reacting
to the calls from inside its own calls by the level below.

The depth needed is bounded by what the environment has still in store: between a
call and the calls inside it, something scripted is used up – a list of steps, a
report, a list of samples – or the call only passes a reading on, from a sensor to
the fusion, to the probe, to whoever waits. `Proximity.Bench.unrest` counts what
is in store, and `Proximity.Session.take` goes as deep as that can lead.
-/

namespace Proximity

namespace Bench

/-- How much can come of all in a list. -/
def unrestOf {α : Type} (unrest : α → Nat) : List α → Nat
  | [] => 0
  | a :: rest => unrest a + unrestOf unrest rest

/-- How much can come of what a sensor still has in store. -/
def sensorUnrest : Sensor → Nat
  | .standIn s => s.onResume.length + s.onJoin.length
  | .hysteresis h =>
    (h.source.map fun s => unrestOf (·.length + 1) s.onSubscribe).getD 0
  | .absent | .unplanned => 0

/-- How much can come of a task. -/
def taskUnrest : Task → Nat
  | .scripted _ script => Step.weightAll script + 1
  | .recheck | .giveUp => 1

/-- How much can come of an answer. -/
def replyUnrest : Reply → Nat
  | .callback script => Step.weightAll script + 1
  | .promise => 1

/-- **How much the environment has still in store.** -/
def unrest (b : Bench) : Nat :=
  unrestOf (fun s => unrestOf (Step.weightAll · + 1) s.2) b.scripts
    + sensorUnrest b.sensors.primary + sensorUnrest b.sensors.secondary
    + sensorUnrest b.sensors.sole
    + unrestOf (fun t => taskUnrest t.task) b.clock.pending
    + unrestOf (fun c => replyUnrest c.reply) b.probe.waiting

end Bench

namespace Session

open Bench

/-- What a step answers. -/
inductive Answer where
  /-- Nothing. -/
  | none
  /-- Whether something is near, if that is known. -/
  | near (near : Option Bool)
  /-- Whether the fusion is there, at work, paused, and in safe mode. -/
  | flags (available active paused safe : Bool)
  /-- A text. -/
  | text (s : String)
  /-- Whether a timer is pending. -/
  | active (b : Bool)
  /-- How many entries there are on the record of the step. -/
  | written (entries : Nat)
  deriving DecidableEq, Inhabited

/-! ### Steps -/

/-- An action on a target that only a fusion answers, under the name of the
call. -/
def onFusion (call : String) (act : Act Answer) : Act Answer := do
  match (← get).target with
  | .fusion => act
  | .sensor | .timers | .nothing => Target.refuse call

/-- An action on a target that only timers answer, under the name of the call. -/
def onTimers (call : String) (act : Act Answer) : Act Answer := do
  match (← get).target with
  | .timers => act
  | .fusion | .sensor | .nothing => Target.refuse call

/-- An action on the probe, under the name of the call. -/
def onProbe (call : String) (act : Act Answer) : Act Answer := do
  if (← get).probed then act else throw (.missing "null" call)

/-- The flags of the fusion. -/
def flags : Act Answer := do
  match (← get).target with
  | .fusion =>
    let s := Fusion.snapshot (← get)
    return .flags (← Fusion.isAvailable) s.active s.paused s.safe
  | .sensor => Target.refuse "isRegistered"
  | .timers | .nothing => Target.refuse "isLoaded"

/-- The timer of a task, which is asked for a call. -/
def handle (name call : String) : Act Nat := do
  match (← get).handles.lookup name with
  | some id => return id
  | none => throw (.missing "undefined" call)

/-- The answer to a command that is only written down. A stand-in says how long its
record has become, and nobody else says anything. -/
def receipt : Act Answer := do
  match (← get).target, (← get).sensors.sole with
  | .sensor, .standIn _ => return .written 1
  | _, _ => return .none

/-- An action that answers nothing. -/
def quietly (act : Act Unit) : Act Answer := do
  act
  return .none

/-- The number of timers that may fire when the clock is moved on. -/
def firings (b : Bench) : Nat := b.clock.pending.length + b.unrest + 1

/-- **Takes a step.** -/
def perform (call : Reactor) : Step → Act Answer
  | .join listener => quietly (Target.join call (.named listener))
  | .leave listener => quietly (Target.leave call (.named listener))
  | .pause => quietly (Target.pause call)
  | .resume => quietly (Target.resume call)
  | .alert => onFusion "alertListeners" (quietly (Fusion.alert call))
  | .tag text => do
    Target.tagAs text
    receipt
  | .delay delay => do
    Target.retime call delay
    receipt
  | .safe on => onFusion "setSecondarySafe" (quietly (Fusion.setSafe call on))
  | .near => onFusion "isNear" do return .near (Fusion.near (← get))
  | .flags => flags
  | .text => do return .text (Target.text (← get))
  | .event role near stamp => quietly (Sensor.emit call role near stamp)
  | .sample role sample late => quietly (Sensor.deliver call role sample late)
  | .thread id => quietly (modify fun b => { b with thread := id })
  | .assertOwner => do
    if (← get).owner.isNone then throw (.missing "undefined" "assertIsMainThread")
    quietly assertOwner
  | .advance millis => do
    Timer.advance call millis (firings (← get))
    return .none
  | .check name timeout script => onProbe "check" (quietly (Probe.check call name timeout script))
  | .query name timeout => onProbe "query" (quietly (Probe.query call name timeout))
  | .probeTag text => onProbe "setTag" (quietly (Probe.tagAs text))
  | .schedule name delay keepsAlive script => onTimers "scheduleAfterDelay" do
    let id ← Timer.schedule delay (.scripted name script) (keepsAlive.getD true)
    if keepsAlive.isNone then throw (.missing "null" "unref")
    modify fun b => { b with handles := (name, id) :: b.handles }
    return .none
  | .cancel name false => onTimers "cancel" do quietly (Timer.cancel (← handle name "cancel"))
  | .cancel name true => do quietly (Timer.cancel (← handle name "cancel"))
  | .active name => do
    let id ← handle name "isActive"
    return .active ((← get).clock.isArmed id)
  | .throwError message => throw (.error message)
  | .throwValue text => throw (.value text)

/-- Takes the steps of a script, one after the other, until one fails. -/
def performAll (call : Reactor) (script : List Step) : Act Unit :=
  script.forM fun step => do
    let _ ← perform call step

/-! ### Reactions -/

/-- The steps that a listener takes at its next call. -/
def nextScript (name : String) : Act (List Step) := do
  let scripts := ((← get).scripts.lookup name).getD []
  modify fun b =>
    { b with scripts := b.scripts.map fun s => if s.1 = name then (s.1, s.2.tail) else s }
  return scripts.headD []

/-- **What becomes of a call**, given what becomes of the calls inside it. -/
def dispatch (call : Reactor) : Reactor
  | .listener (.named name) _ => do performAll call (← nextScript name)
  | .listener (.fusion .primary) r => Fusion.onPrimary call r
  | .listener (.fusion .secondary) r => Fusion.onSecondary call r
  | .listener (.fusion .sole) _ => pure ()
  | .listener .probe r => Probe.onReading call r
  | .reply c _ =>
    match c.reply with
    | .callback script => performAll call script
    | .promise => pure ()
  | .task script => performAll call script

/-- What becomes of a call when calls go no deeper than a number of levels. -/
def react : Nat → Reactor
  | 0 => Reactor.silent
  | depth + 1 => dispatch (react depth)

/-! ### Sessions -/

/-- What came of a step. -/
structure Outcome where
  /-- What it answered, or how it failed. -/
  answer : Except Fault Answer
  /-- The bench afterwards. -/
  bench : Bench

/-- How deep the calls inside a step can go: a reading passes through no more than
seven calls before something scripted is used up. -/
def depth (b : Bench) (step : Step) : Nat := 8 * (b.unrest + step.weight + 1)

/-- Takes a step, with calls that go no deeper than a number of levels. -/
def takeWithin (depth : Nat) (step : Step) (b : Bench) : Outcome :=
  let (answer, bench) := (perform (react depth) step).run.run b
  ⟨answer, bench⟩

/-- **Takes a step on a bench.** -/
def take (step : Step) (b : Bench) : Outcome := takeWithin (depth b step) step b

/-- The bench after some steps, each of which may fail. -/
def run (steps : List Step) (b : Bench) : Bench :=
  steps.foldl (fun b step => (take step b).bench) b

theorem run_cons (step : Step) (steps : List Step) (b : Bench) :
    run (step :: steps) b = run steps (take step b).bench := rfl

/-- Steps can be taken in two goes. -/
theorem run_append (first rest : List Step) (b : Bench) :
    run (first ++ rest) b = run rest (run first b) := List.foldl_append

/-- What has been noted on the way from one bench to a later one, the latest
first. -/
def notesSince (before after : Bench) : List Note :=
  after.journal.take (after.journal.length - before.journal.length)

end Session

end Proximity
