import Proximity.Proofs.Exec
import Proximity.Proofs.History

/-!
# What a fusion and its probe see of a bench

Most of what happens on a bench is of no concern to the fusion and the probe on it:
what is logged and reported, how the sensors come to their readings, which scripts
are left. A *view* (`Proximity.View`) is what remains when all that is left out: the
memory of the fusion, who waits for the probe, the clock, the history, whether the
sensors are there, and whether the secondary is switched off.

Between two calls that go out, a fusion or a probe does one thing, and what that
does to the view is a function of the view alone. Those functions are here, under
the names of what is done; that the program does nothing else is
`Proximity.Proofs.Stretch`.
-/

namespace Proximity

/-- Who listens to a sensor. -/
def Sensor.listeners : Sensor → List Listener
  | standIn s => s.listeners
  | hysteresis h => h.listeners
  | absent | unplanned => []

/-- Whether a sensor is switched off, if it can be. -/
def Sensor.rests? : Sensor → Option Bool
  | standIn s => some s.paused
  | hysteresis h => some h.paused
  | absent | unplanned => none

/-- A sensor that is there is switched on or off. -/
theorem Sensor.exists_rests?_of_available {s : Sensor} (there : s.available = true) :
    ∃ rests, s.rests? = some rests := by
  cases s with
  | standIn s => exact ⟨_, rfl⟩
  | hysteresis h => exact ⟨_, rfl⟩
  | absent | unplanned => cases there

/-- Whether a task is the fusion's or the probe's own. -/
def Task.isOwn : Task → Bool
  | recheck | giveUp => true
  | scripted _ _ => false

/-- A clock on which a timer, if there is one to speak of, is called off by its
handle, if that is armed. -/
def Clock.callOff (c : Clock) : Option Nat → Clock
  | none => c
  | some id => if c.isArmed id then (c.remove id).disarm id else c

/-- **What matters of a bench to its fusion and its probe.** -/
structure View where
  /-- The memory of the fusion. -/
  fusion : Fusion
  /-- Who waits for an answer of the probe, in the order of asking. -/
  waiting : List Caller
  /-- Whether the probe has asked the fusion. -/
  checking : Bool
  /-- The timer after which the probe gives up. -/
  timer : Option Nat
  /-- The number of the last question. -/
  lastTicket : Nat
  /-- The clock with its timers. -/
  clock : Clock
  /-- The history. -/
  history : History
  /-- Whether the primary is there. -/
  primaryThere : Bool
  /-- Whether the secondary is there. -/
  secondaryThere : Bool
  /-- Whether the secondary is switched off, if it can be. -/
  secondaryRests : Option Bool

/-- The view of a bench. -/
def Bench.view (b : Bench) : View where
  fusion := b.fusion
  waiting := b.probe.waiting
  checking := b.probe.checking
  timer := b.probe.timer
  lastTicket := b.probe.lastTicket
  clock := b.clock
  history := b.history
  primaryThere := b.sensors.primary.available
  secondaryThere := b.sensors.secondary.available
  secondaryRests := b.sensors.secondary.rests?

namespace View

/-! ### Entries and fields -/

/-- An entry is added to the history. -/
def note (v : View) (entry : Entry) : View :=
  { v with history := ⟨v.clock.now, entry⟩ :: v.history }

/-- A turn is added to the history. -/
def turn (v : View) (t : Turn) : View := v.note (.turned t)

/-- The fusion changes. -/
def change (v : View) (g : Fusion → Fusion) : View := { v with fusion := g v.fusion }

/-- The secondary is switched off. -/
def rest (v : View) : View := { v with secondaryRests := v.secondaryRests.map fun _ => true }

/-- The secondary is switched on. -/
def wake (v : View) : View := { v with secondaryRests := v.secondaryRests.map fun _ => false }

/-- A sensor is switched off, which shows at the secondary. -/
def restAt (v : View) : Role → View
  | .secondary => v.rest
  | .primary | .sole => v

/-- A sensor is switched on, which shows at the secondary. -/
def wakeAt (v : View) : Role → View
  | .secondary => v.wake
  | .primary | .sole => v

/-! ### Timers -/

/-- Time passes without a timer that fires. -/
def elapse (v : View) (time : Number) : View := { v with clock := { v.clock with now := time } }

/-- A timer goes off. -/
def strike (v : View) (t : Timer) : View :=
  { v with clock := ((v.clock.remove t.id).reach t.due).disarm t.id }

/-- The recheck is called off. -/
def uncheck (v : View) : View :=
  { v with
    clock := v.clock.callOff v.fusion.pendingRecheck
    fusion := { v.fusion with pendingRecheck := none } }

/-- Where no recheck is waited for, there is none to call off. -/
theorem uncheck_of_none {v : View} (h : v.fusion.pendingRecheck = none) : v.uncheck = v := by
  rcases v with ⟨f, _⟩
  cases f
  cases h
  rfl

/-- Where one is, its timer is called off, and no longer waited for. -/
theorem uncheck_of_some {v : View} {id : Nat} (h : v.fusion.pendingRecheck = some id) :
    v.uncheck = ({ v with clock := v.clock.callOff (some id) } : View).change fun f =>
      { f with pendingRecheck := none } := by
  rw [uncheck, h]
  rfl

/-- A recheck is put off, instead of the one that is waited for. -/
def recheckLater (v : View) : View :=
  let clock := v.clock.callOff v.fusion.pendingRecheck
  { v with
    clock := clock.set v.fusion.recheckDelay .recheck
    fusion := { v.fusion with pendingRecheck := some (clock.lastId + 1) } }

/-- The timer of a recheck has gone off, and the secondary is looked at again. -/
def recheck (v : View) (id : Nat) : View :=
  let pending := if v.fusion.pendingRecheck = some id then none else v.fusion.pendingRecheck
  ({ v.wake with fusion := { v.fusion with pendingRecheck := pending } } : View).turn .rechecked

/-! ### The fusion -/

/-- The primary says something new. -/
def sense (v : View) (r : Reading) : View :=
  (v.turn (.sensed .primary r)).change fun f => { f with lastPrimary := some r }

/-- A reading becomes the fused reading. -/
def accept (v : View) (r : Reading) : View :=
  ((if !v.fusion.safe && !r.near then v.rest else v).turn (.fused r)).change fun f =>
    { f with lastFused := some r }

/-- That a reading became the fused reading is noted. -/
theorem history_accept (v : View) (r : Reading) :
    (v.accept r).history = ⟨v.clock.now, .turned (.fused r)⟩ :: v.history := by
  rw [accept]
  split <;> rfl

theorem secondaryThere_accept (v : View) (r : Reading) :
    (v.accept r).secondaryThere = v.secondaryThere := by
  rw [accept]
  split <;> rfl

/-- A broadcast begins. -/
def hail (v : View) (r : Reading) (fresh : Bool) : View :=
  (v.change fun f => { f with telling := true }).turn (.broadcast r fresh)

/-- A broadcast leaves no trace of its being on. -/
theorem change_telling {v : View} (h : v.fusion.telling = false) :
    ((v.change fun f => { f with telling := true }).change fun f => { f with telling := false })
      = v := by
  rcases v with ⟨f, _⟩
  cases f
  cases h
  rfl

/-- A broadcast ends. -/
def hush (v : View) : View := (v.turn .hushed).change fun f => { f with telling := false }

/-- The secondary is about to be joined. Outside safe mode it is switched off. -/
def ready (v : View) : View :=
  ({ v with secondaryRests := if v.fusion.safe then v.secondaryRests else v.rest.secondaryRests }
    : View).turn .readied

/-- The fusion has gone to work. -/
def activate (v : View) : View :=
  (v.change fun f => { f with active := true }).turn .activated

/-- The fusion stops working, if it is at work. -/
def tearDown (v : View) : View :=
  if v.fusion.active then
    (v.rest.uncheck.change fun f =>
      { f with lastPrimary := none, lastFused := none, active := false }).turn .tornDown
  else v

/-- The fusion is paused. -/
def pause (v : View) : View :=
  ((v.turn .paused).change fun f => { f with paused := true }).tearDown

/-- The fusion is resumed, and may go to work. -/
def resume (v : View) : View := (v.turn .resumed).change fun f => { f with paused := false }

/-- A listener joins the fusion, which may go to work. -/
def join (v : View) (l : Listener) : View :=
  if l ∈ v.fusion.listeners then v
  else (v.turn (.joined l)).change fun f => { f with listeners := f.listeners ++ [l] }

/-- A listener is no longer among those of the fusion. -/
def drop (v : View) (l : Listener) : View :=
  (if l ∈ v.fusion.listeners then v.turn (.left l) else v).change fun f =>
    { f with listeners := f.listeners.erase l }

/-- A listener leaves the fusion, which stops working without any. -/
def leave (v : View) (l : Listener) : View :=
  if (v.drop l).fusion.listeners.isEmpty then (v.drop l).tearDown else v.drop l

/-- The fusion enters or leaves safe mode. -/
def mode (v : View) (on : Bool) : View :=
  let u := (v.turn (.mode on)).change fun f => { f with safe := on }
  if on then u.wake else u.rest

/-! ### The probe -/

/-- The number of a question is given out. -/
def ask (v : View) (timeout : Number) : View :=
  ({ v with lastTicket := v.lastTicket + 1 } : View).turn (.asked (v.lastTicket + 1) timeout)

/-- Somebody waits for an answer. -/
def queue (v : View) (c : Caller) : View := { v with waiting := v.waiting ++ [c] }

/-- A check is opened: its timer is set. -/
def setTimer (v : View) (timeout : Number) : View :=
  { v with
    checking := true
    clock := v.clock.set timeout .giveUp
    timer := some (v.clock.lastId + 1) }

/-- Nobody waits any longer, since there is an answer. -/
def take (v : View) (near : Option Bool) : View :=
  { v.turn (.resolved (v.waiting.map (·.ticket)) near) with waiting := [] }

/-- The timer of the check is called off. -/
def stopTimer (v : View) : View := { v with clock := v.clock.callOff v.timer, timer := none }

/-- A probe without a timer has none to call off. -/
theorem stopTimer_of_none {v : View} (h : v.timer = none) : v.stopTimer = v := by
  cases v
  cases h
  rfl

/-- A timer of a probe is called off, and forgotten. -/
theorem stopTimer_of_some {v : View} {id : Nat} (h : v.timer = some id) :
    v.stopTimer = { v with clock := v.clock.callOff (some id), timer := none } := by
  rw [stopTimer, h]

/-- The timer of the check has gone off. -/
def forgetTimer (v : View) : View := { v with timer := none }

/-- The check is over. -/
def close (v : View) (near : Option Bool) : View :=
  { ((v.take near).stopTimer).leave .probe with checking := false }

end View

/-! ### Benches as a fusion finds them -/

/-- **A bench on which a fusion is at hand**, whose sensors nobody else listens
to. -/
structure Wired (b : Bench) : Prop where
  /-- The steps from outside are aimed at the fusion. -/
  target : b.target = .fusion
  /-- There is no third sensor. -/
  sole : b.sensors.sole = .unplanned
  /-- There are no tasks from outside. -/
  handles : b.handles = []
  /-- Only the fusion listens to its sensors. -/
  listeners : ∀ role, ∀ l ∈ (b.sensors.get role).listeners, l = .fusion role
  /-- Only the fusion and the probe put tasks off. -/
  tasks : ∀ t ∈ b.clock.pending, t.task.isOwn = true

/-- What stays when something is done without a call that goes out. -/
structure Beside (b b' : Bench) : Prop where
  /-- The history has only grown. -/
  grows : b.history <:+ b'.history
  /-- The bench is as it was wired. -/
  wired : Wired b → Wired b'
  /-- The same thread calls. -/
  thread : b'.thread = b.thread
  /-- Confined things belong to the same thread. -/
  owner : b'.owner = b.owner

namespace Beside

theorem refl (b : Bench) : Beside b b := ⟨List.suffix_rfl, id, rfl, rfl⟩

theorem trans {a b c : Bench} (hab : Beside a b) (hbc : Beside b c) : Beside a c :=
  ⟨hab.grows.trans hbc.grows, hbc.wired ∘ hab.wired, hbc.thread.trans hab.thread,
    hbc.owner.trans hab.owner⟩

/-- The same calls are let through. -/
theorem onThread_iff {b b' : Bench} (h : Beside b b') : Act.OnThread b' ↔ Act.OnThread b := by
  rw [Act.OnThread, Act.OnThread, h.thread, h.owner]

theorem onThread {b b' : Bench} (h : Beside b b') (hb : Act.OnThread b) : Act.OnThread b' :=
  h.onThread_iff.mpr hb

end Beside

end Proximity
