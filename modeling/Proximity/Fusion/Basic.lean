import Proximity.Sensor.Call
import Proximity.Timer.Schedule

/-!
# Fusing two sensors

A fusion makes one proximity signal out of two sensors. The primary is a cheap
first look. When it reports that something is near, the secondary is switched on,
and nothing is said until it confirms or contradicts; when it contradicts, it is
switched off and looked at again after a while. When the primary reports that
something went away, that is said at once, and the secondary may sleep. Without a
secondary the primary's readings pass straight through.

| reading | what it does |
|---|---|
| primary, near | switches the secondary on (`Proximity.Fusion.onPrimary`) |
| primary, far | becomes the fused reading |
| secondary, near, as the primary | becomes the fused reading (`Proximity.Fusion.onSecondary`) |
| secondary, far, against the primary | becomes the fused reading, and a recheck is put off |
| secondary, without a near primary | switches the secondary off |

In *safe* mode the secondary stays on, and its readings alone count.

A fused reading is told to all listeners (`Proximity.Fusion.broadcast`) when it
differs from the one before. Listeners may call the fusion back and may fail; a
failing one is logged and does not keep the others from being told.
-/

namespace Proximity

namespace Fusion

open Bench

/-- Logs a message under the tag of the fusion. -/
def logAbout (message : String) : Act Unit := do
  log .debug "proximity-fusion" (tagged (← getFusion).tag message) []

/-! ### Questions -/

/-- Whether the fusion is there: whether its primary is. -/
def isAvailable : Act Bool := Sensor.isAvailable .primary

/-- **Whether something is near**, if there is a fused reading. -/
def near (b : Bench) : Option Bool :=
  if b.sensors.primary.available then b.fusion.lastFused.map (·.near) else none

/-- What the fusion tells about itself. -/
def snapshot (b : Bench) : Snapshot :=
  { active := b.fusion.active
    paused := b.fusion.paused
    near := near b
    safe := b.fusion.safe
    audience := b.fusion.listeners.length
    recheckPending := b.fusion.pendingRecheck.isSome
    tag := b.fusion.tag }

/-- The text of an answer that may be missing. -/
def nearText : Option Bool → String
  | none => "null"
  | some b => toString b

/-- The text of the fusion. -/
def text (b : Bench) : String :=
  let s := snapshot b
  "\x7bregistered=" ++ toString s.active ++ ", paused=" ++ toString s.paused ++ ", near="
    ++ nearText s.near ++ ", primarySensor=" ++ b.sensors.primary.text ++ ", secondarySensor="
    ++ b.sensors.secondary.text ++ " secondarySafe=" ++ toString s.safe ++ "\x7d"

/-! ### Telling the listeners -/

/-- Logs and reports that a listener has failed. -/
def complain (fault : Fault) : Act Unit := do
  let tag := (← getFusion).tag
  log .error "proximity-fusion" (tagged tag "Proximity listener threw")
    [("error", .text fault.message)]
  report fault [("tag", Tree.text? tag)]

/-- Tells one listener a reading. If the listener fails, that is logged and
reported. -/
def tellGuarded (call : Reactor) (r : Reading) (l : Listener) : Act Unit :=
  tryCatch (tell call l r) complain

/-- Tells listeners a reading, one after the other. -/
def announce (call : Reactor) (r : Reading) (fresh : Bool) (listeners : List Listener) :
    Act Unit := do
  turn (.broadcast r fresh)
  listeners.forM fun l => tellGuarded call r l
  turn .hushed

/-- **Tells all listeners the last fused reading**, if there is one. Those are
told who listen at the start, whatever the telling brings about; and while they
are being told, nobody is told anything else. -/
def broadcast (call : Reactor) (fresh : Bool) : Act Unit := do
  assertOwner
  let f ← getFusion
  if !f.telling then
    modifyFusion fun f => { f with telling := true }
    match f.lastFused with
    | none => pure ()
    | some r => announce call r fresh f.listeners
    modifyFusion fun f => { f with telling := false }

/-- Tells all listeners the last fused reading again. -/
def alert (call : Reactor) : Act Unit := broadcast call false

/-- Takes a reading as the fused one, and tells it. -/
def adopt (call : Reactor) (r : Reading) : Act Unit := do
  turn (.fused r)
  modifyFusion fun f => { f with lastFused := some r }
  broadcast call true

/-- Takes a reading as the fused one if it differs from the last. Outside safe mode
the secondary is switched off when something went away. -/
def accept (call : Reactor) (r : Reading) : Act Unit := do
  assertOwner
  let f ← getFusion
  if f.lastFused.map (·.near) ≠ some r.near then
    if !f.safe && !r.near then Sensor.pause call .secondary
    adopt call r

/-! ### Looking at the secondary again -/

/-- Calls off the recheck that is waited for. -/
def cancelRecheck : Act Unit := do
  match (← getFusion).pendingRecheck with
  | none => pure ()
  | some id =>
    Timer.cancel id
    modifyFusion fun f => { f with pendingRecheck := none }

/-- Puts a recheck off, instead of the one that is waited for. -/
def scheduleRecheck : Act Unit := do
  cancelRecheck
  let id ← Timer.schedule (← getFusion).recheckDelay .recheck false
  modifyFusion fun f => { f with pendingRecheck := some id }

/-- **Looks at the secondary again.** It is called by the timer `id`. -/
def recheck (call : Reactor) (id : Nat) : Act Unit := do
  assertOwner
  if (← getFusion).pendingRecheck = some id then
    modifyFusion fun f => { f with pendingRecheck := none }
  logAbout "Re-checking secondary sensor"
  turn .rechecked
  Sensor.resume call .secondary

/-! ### Readings -/

/-- **A reading of the primary.** One that says nothing new is passed over. -/
def onPrimary (call : Reactor) (r : Reading) : Act Unit := do
  assertOwner
  turn (.sensed .primary r)
  if (← getFusion).lastPrimary.map (·.near) ≠ some r.near then
    modifyFusion fun f => { f with lastPrimary := some r }
    heed
where
  /-- What comes of news. -/
  heed : Act Unit := do
    let f ← getFusion
    let available ← Sensor.isAvailable .secondary
    if f.safe && available then
      logAbout ("Primary sensor reported " ++ (if r.near then "near" else "far")
        ++ ". Checking secondary.")
      if f.pendingRecheck.isNone then Sensor.resume call .secondary
    else if !available then
      logAbout ("Primary sensor event: " ++ toString r.near ++ ". No secondary.")
      accept call r
    else if r.near then
      logAbout ("Primary sensor event: " ++ toString r.near ++ ". Checking secondary.")
      cancelRecheck
      Sensor.resume call .secondary
    else accept call r

/-- **A reading of the secondary.** Outside safe mode the secondary is switched
off unless both are near. Only while the primary is near is its word
final. -/
def onSecondary (call : Reactor) (r : Reading) : Act Unit := do
  assertOwner
  turn (.sensed .secondary r)
  let f ← getFusion
  let primaryNear := f.lastPrimary.map (·.near) = some true
  if !f.safe && (!primaryNear || !r.near) then
    Sensor.pause call .secondary
    if !primaryNear then
      cancelRecheck
    else
      scheduleRecheck
      finish
  else finish
where
  /-- What comes after the secondary was switched off or not: its reading
  counts. -/
  finish : Act Unit := do
    logAbout ("Secondary sensor event: " ++ toString r.near ++ ".")
    if !(← getFusion).paused then accept call r

/-! ### Going to work and stopping -/

/-- Readies the secondary for being joined: switches it off, unless it may stay on. -/
def ready (call : Reactor) : Act Unit := do
  if !(← getFusion).safe then Sensor.pause call .secondary
  turn .readied

/-- Joins its sensors. The secondary is readied before it is joined. -/
def connect (call : Reactor) : Act Unit := do
  Sensor.join call .primary (.fusion .primary)
  ready call
  Sensor.join call .secondary (.fusion .secondary)
  modifyFusion fun f => { f with connected := true }

/-- Makes its sensors report: joins them, if that has not been done, and switches the
primary on. -/
def rouse (call : Reactor) : Act Unit := do
  if !(← getFusion).connected then connect call
  logAbout "Registering sensor listener"
  Sensor.resume call .primary

/-- **Goes to work**, if there is somebody to work for. The first time it joins
its sensors. -/
def activate (call : Reactor) : Act Unit := do
  assertOwner
  let f ← getFusion
  if !f.active && !f.paused && !f.listeners.isEmpty then
    rouse call
    modifyFusion fun f => { f with active := true }
    turn .activated

/-- **Stops working**, if it is at work, and forgets the last readings. -/
def tearDown (call : Reactor) : Act Unit := do
  assertOwner
  if (← getFusion).active then
    logAbout "Unregistering sensor listener"
    Sensor.pause call .primary
    Sensor.pause call .secondary
    cancelRecheck
    modifyFusion fun f => { f with lastPrimary := none, lastFused := none, active := false }
    turn .tornDown

/-! ### Calls -/

/-- Takes a tag, or loses it. Its sensors always get one, which names their
place. -/
def tagAs (text : Option String) : Act Unit := do
  modifyFusion fun f => { f with tag := text }
  let own := text.getD "null"
  Sensor.tagAs .primary (some (own ++ ":primary"))
  Sensor.tagAs .secondary (some (own ++ ":secondary"))

/-- Passes a sampling delay on to its sensors. -/
def retime (call : Reactor) (delay : Number) : Act Unit := do
  assertOwner
  Sensor.retime call .primary delay
  Sensor.retime call .secondary delay

/-- Is paused: stops working without losing its listeners. -/
def pause (call : Reactor) : Act Unit := do
  assertOwner
  turn .paused
  modifyFusion fun f => { f with paused := true }
  tearDown call

/-- Is resumed: goes to work again, if somebody listens. -/
def resume (call : Reactor) : Act Unit := do
  assertOwner
  turn .resumed
  modifyFusion fun f => { f with paused := false }
  activate call

/-- **Enters or leaves safe mode**, in which the secondary may stay on. -/
def setSafe (call : Reactor) (on : Bool) : Act Unit := do
  assertOwner
  turn (.mode on)
  modifyFusion fun f => { f with safe := on }
  if on then Sensor.resume call .secondary else Sensor.pause call .secondary

/-- **Takes a listener**, if the fusion is there, and goes to work. -/
def join (call : Reactor) (l : Listener) : Act Unit := do
  assertOwner
  if ← isAvailable then
    if l ∈ (← getFusion).listeners then
      logAbout "Proximity listener registered multiple times"
    else
      turn (.joined l)
      modifyFusion fun f => { f with listeners := f.listeners ++ [l] }
    activate call

/-- **Loses a listener**, and stops working when it was the last one. -/
def leave (call : Reactor) (l : Listener) : Act Unit := do
  assertOwner
  if l ∈ (← getFusion).listeners then turn (.left l)
  drop
where
  /-- What is done whether the listener was one or not. -/
  drop : Act Unit := do
    modifyFusion fun f => { f with listeners := f.listeners.erase l }
    if (← getFusion).listeners.isEmpty then tearDown call

end Fusion

end Proximity
