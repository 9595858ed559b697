import Proximity.Proofs.View

/-!
# Moves

What a fusion and its probe can do to a view between two calls that go out, said
once and for all. A *move* (`Proximity.Move`) is complete in itself: whatever holds
of all views before it has to hold after it. Four things are not complete, since a
call goes out in the middle of them, and what was begun is finished only after that:

| begun by | finished by |
|---|---|
| `Proximity.Rise`: somebody joins, or pausing ends | going to work |
| `Proximity.Heard`: a reading is found to count | telling it to the listeners |
| a broadcast | telling it to the last of them |
| `Proximity.Close`: there is an answer | giving it to the last who waits |

What a law about views has to say of these is in `Proximity.Law`.
-/

namespace Proximity

namespace View

/-- Whether a reading differs from what the primary said last. -/
def isNews (v : View) (r : Reading) : Prop := v.fusion.lastPrimary.map (·.near) ≠ some r.near

/-- Whether the primary said last that something is near. -/
def primaryNear (v : View) : Prop := v.fusion.lastPrimary.map (·.near) = some true

/-- The secondary says something that counts. When it contradicts the primary, it is
switched off and a recheck is put off. -/
def second (v : View) (r : Reading) : View :=
  let u := v.turn (.sensed .secondary r)
  if !v.fusion.safe && !r.near then u.rest.recheckLater else u

/-- That the secondary said something is all that is noted of it. -/
theorem history_second (v : View) (r : Reading) :
    (v.second r).history = (v.turn (.sensed .secondary r)).history := by
  rw [second]
  split <;> rfl

/-- Somebody asks and waits, with a timer that is set for it. -/
def openCheck (v : View) (timeout : Number) (c : Caller) : View :=
  ((v.ask timeout).queue c).setTimer timeout

/-- The timer of the check goes off. -/
def giveUp (v : View) (t : Timer) : View := (v.strike t).forgetTimer

end View

/-- **A move**: something done to a view that is complete in itself. -/
inductive Move : View → View → Prop where
  /-- A call from another thread is refused. -/
  | refuse (v : View) {entry : Entry} : entry.isFatal = true → Move v (v.note entry)
  /-- A sample reaches a sensor. -/
  | sample (v : View) (role : Role) (s : Sample) : Move v (v.turn (.sampled role s))
  /-- Time passes. -/
  | elapse (v : View) (time : Number) : Move v (v.elapse time)
  /-- The fusion takes a tag, or loses it. -/
  | tag (v : View) (text : Option String) : Move v (v.change fun f => { f with tag := text })
  /-- The primary says again what it has said last. -/
  | again (v : View) (r : Reading) : ¬ v.isNews r → Move v (v.turn (.sensed .primary r))
  /-- In safe mode the primary has news, and the secondary is asked. -/
  | consult (v : View) (r : Reading) : v.isNews r → v.fusion.safe = true →
      v.secondaryThere = true → v.fusion.pendingRecheck = none → Move v (v.sense r).wake
  /-- In safe mode the primary has news while a recheck is waited for. -/
  | await (v : View) (r : Reading) : v.isNews r → v.fusion.safe = true →
      v.secondaryThere = true → v.fusion.pendingRecheck ≠ none → Move v (v.sense r)
  /-- Outside safe mode the primary says that something came near, and the secondary
  has to confirm it. -/
  | verify (v : View) (r : Reading) : v.isNews r → v.fusion.safe = false →
      v.secondaryThere = true → r.near = true → Move v (v.sense r).uncheck.wake
  /-- Outside safe mode the secondary speaks while the primary is not near. -/
  | disown (v : View) (r : Reading) : v.fusion.safe = false → ¬ v.primaryNear →
      Move v (v.turn (.sensed .secondary r)).rest.uncheck
  /-- The secondary says something that would count if the fusion were not paused. -/
  | overhear (v : View) (r : Reading) : v.fusion.safe = true ∨ v.primaryNear →
      v.fusion.paused = true → Move v (v.second r)
  /-- The fusion is paused. -/
  | pause (v : View) : Move v v.pause
  /-- A listener from outside leaves. -/
  | leave (v : View) (name : String) : Move v (v.leave (.named name))
  /-- The fusion enters or leaves safe mode. -/
  | mode (v : View) (on : Bool) : Move v (v.mode on)
  /-- The secondary is about to be joined, and switched off before that. -/
  | ready (v : View) : Move v v.ready
  /-- The sensors have been joined. -/
  | link (v : View) : v.history.readied → Move v (v.change fun f => { f with connected := true })
  /-- The timer of a recheck fires. -/
  | recheck (v : View) {t : Timer} : t ∈ v.clock.pending → t.task = .recheck →
      Move v ((v.strike t).recheck t.id)
  /-- The timer of a recheck fires while another thread calls. -/
  | lapse (v : View) {t : Timer} {entry : Entry} : t ∈ v.clock.pending → t.task = .recheck →
      entry.isFatal = true → Move v ((v.strike t).note entry)
  /-- Somebody asks while others wait. -/
  | enqueue (v : View) (timeout : Number) {c : Caller} : v.primaryThere = true →
      v.checking = true → c.ticket = v.lastTicket + 1 → Move v ((v.ask timeout).queue c)
  /-- A check is begun on another thread, and the probe does not come to listen. -/
  | strand (v : View) (timeout : Number) {c : Caller} {entry : Entry} : v.primaryThere = true →
      v.checking = false → c.ticket = v.lastTicket + 1 → entry.isFatal = true →
      Move v ((v.openCheck timeout c).note entry)
  /-- A check is ended on another thread, and those who wait are lost. -/
  | abandon (v : View) (near : Option Bool) {entry : Entry} : entry.isFatal = true →
      Move v ((v.take near).stopTimer.note entry)
  /-- A check is given up on another thread, and those who wait are lost. -/
  | forsake (v : View) {t : Timer} {entry : Entry} : t ∈ v.clock.pending → t.task = .giveUp →
      entry.isFatal = true → Move v (((v.giveUp t).take none).stopTimer.note entry)

/-- **A reading is found to count**, and is about to become the fused reading unless
it is what was fused last. -/
inductive Heard (r : Reading) : View → View → Prop where
  /-- It is news of the primary, and there is no secondary. -/
  | alone (v : View) : v.isNews r → v.secondaryThere = false → Heard r v (v.sense r)
  /-- Outside safe mode it is the primary's news that something went away. -/
  | gone (v : View) : v.isNews r → v.fusion.safe = false → v.secondaryThere = true →
      r.near = false → Heard r v (v.sense r)
  /-- It is the secondary's, in safe mode or while the primary is near. -/
  | counted (v : View) : v.fusion.safe = true ∨ v.primaryNear → v.fusion.paused = false →
      Heard r v (v.second r)

/-- **Somebody comes to want the fusion to work**, which is about to go to work. -/
inductive Rise : View → View → Prop where
  /-- A listener from outside joins. -/
  | join (v : View) (name : String) : v.primaryThere = true → Rise v (v.join (.named name))
  /-- The fusion is resumed. -/
  | resume (v : View) : Rise v v.resume
  /-- Somebody asks while nobody waits. -/
  | begin (v : View) (timeout : Number) {c : Caller} : v.primaryThere = true →
      v.checking = false → c.ticket = v.lastTicket + 1 →
      Rise v ((v.openCheck timeout c).join .probe)

/-- **There is an answer**, which is about to be given to some callers. -/
inductive Close (near : Option Bool) : View → List Caller → View → Prop where
  /-- A reading answers all who wait. -/
  | reading (v : View) : Close near v v.waiting (v.close near)
  /-- The timer of the check has fired. -/
  | expiry (v : View) {t : Timer} : t ∈ v.clock.pending → t.task = .giveUp → near = none →
      Close near v v.waiting ((v.giveUp t).close none)
  /-- There is nobody to ask. -/
  | decline (v : View) (timeout : Number) {c : Caller} : v.primaryThere = false →
      c.ticket = v.lastTicket + 1 → near = none →
      Close near v [c] ((v.ask timeout).turn (.resolved [c.ticket] none))

end Proximity
