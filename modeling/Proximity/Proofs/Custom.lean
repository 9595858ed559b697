import Proximity.Proofs.Reached

/-!
# Customs

A *custom* (`Proximity.Custom`) is a relation between the bench before and the bench after, such
as "no error has been logged" or "nobody has been answered twice". An action *observes* it
(`Proximity.Observed`) if, on whatever bench it is done, the bench that it leaves is related to the
one that it found, whether it fails or not.

Laws (`Proximity.Law`) are about what a fusion and its probe see of a bench, and so presuppose that
a bench is wired as a session wires it. Customs are about the whole bench, its journal included, and
presuppose nothing. What has to be checked of a custom is little:

| part | what it demands |
|---|---|
| `Proximity.Tolerant.aside` | nothing happens to questions, answers, errors and broadcasts |
| `Proximity.Custom.broadcast` | listeners are told a reading |
| `Proximity.ProbeCustom.onReading` | the probe is told a reading |
| `Proximity.ProbeCustom.expire` | the timer of the probe fires |
| `Proximity.ProbeCustom.check`, `Proximity.ProbeCustom.query` | somebody asks |

All that can be called observes a custom, then, at every depth (`Proximity.Observed.react`), and so
do whole sessions (`Proximity.Reached.observed`). The proofs have the shape of the program: there is
one rule for each way of putting actions together, and one lemma for each action.

Whatever is called out is noted just before (`Proximity.Announced`), and a custom may count on that.
-/

namespace Proximity

open Act Session

/-! ### What is done aside -/

/-- Whether an entry is about no question, no answer and no error. -/
def Entry.isIncidental : Entry → Bool
  | .logged .error _ _ _ | .answered _ _ _ | .settled _ _ _ => false
  | .turned (.asked _ _) | .turned (.resolved _ _) | .turned (.replied _ _) => false
  | _ => true

/-- What a probe remembers of its callers. -/
def Probe.callers (p : Probe) :
    List Caller × Nat × List Nat × List Nat × List (Nat × Except Fault (Option Bool)) :=
  (p.waiting, p.lastTicket, p.unsettled, p.unwatched, p.unseen)

/-- **Something is done aside**: it has nothing to do with callers of the probe, with errors, and
with whether a broadcast is on. -/
structure Aside (b b' : Bench) : Prop where
  /-- A broadcast is on if one was. -/
  telling : b'.fusion.telling = b.fusion.telling
  /-- The same records are logged. -/
  threshold : b'.threshold = b.threshold
  /-- The probe remembers the same of its callers. -/
  callers : b'.probe.callers = b.probe.callers
  /-- What is noted is about something else. -/
  journal : History.Since Entry.isIncidental b.journal b'.journal

namespace Aside

/-- Any entry about something else may be noted. -/
theorem noted (b : Bench) {entry : Entry} (aside : entry.isIncidental = true) :
    Aside b (noted b entry) := ⟨rfl, rfl, rfl, .cons (.refl _ _) aside⟩

end Aside

/-! ### Customs -/

variable {α β : Type} {R : Bench → Bench → Prop} {b b' : Bench} {call : Reactor}

/-- **An action observes a relation**: the bench that it leaves is related to the one that it
found, whether it fails or not. -/
def Observed (R : Bench → Bench → Prop) (act : Act α) : Prop := ∀ b, R b (after act b)

/-- **A call has been announced**: that it is made is the last thing that was noted. -/
def Announced (b : Bench) : Callback → Prop
  | .listener l r => ∃ time earlier, b.journal = ⟨time, .told l r⟩ :: earlier
  | .reply c near => ∃ time earlier, b.journal = ⟨time, .answered c.ticket c.name near⟩ :: earlier
  | .task _ => ∃ time name earlier, b.journal = ⟨time, .ran name⟩ :: earlier

/-- Whatever is called observes a relation, when it has been announced. -/
def Reactor.Observes (R : Bench → Bench → Prop) (call : Reactor) : Prop :=
  ∀ c b, Announced b c → R b (after (call c) b)

/-- **A relation that tolerates what is done aside.** -/
class Tolerant (R : Bench → Bench → Prop) : Prop where
  /-- Nothing may happen. -/
  refl : ∀ b, R b b
  /-- One thing may happen after the other. -/
  trans : ∀ {b b' b''}, R b b' → R b' b'' → R b b''
  /-- Anything may be done aside. -/
  aside : ∀ {b b'}, Aside b b' → R b b'

/-- **A custom.** Listeners may be told something if each of them observes it. -/
class Custom (R : Bench → Bench → Prop) : Prop extends Tolerant R where
  /-- A fused reading may be told. -/
  broadcast : ∀ {call : Reactor}, call.Observes R → ∀ fresh, Observed R (Fusion.broadcast call fresh)

/-- **A custom that a probe observes.** -/
class ProbeCustom (R : Bench → Bench → Prop) : Prop extends Custom R where
  /-- The probe may be told a reading. -/
  onReading : ∀ {call : Reactor} {r b}, call.Observes R → Announced b (.listener .probe r) →
    R b (after (Probe.onReading call r) b)
  /-- The time of those who wait may be up. -/
  expire : ∀ {call : Reactor} {t : Timer}, call.Observes R → t.task = .giveUp →
    Observed R (Timer.fire call t)
  /-- Somebody may ask, with a callback. -/
  check : ∀ {call : Reactor}, call.Observes R → ∀ name timeout script,
    Observed R (Probe.check call name timeout script)
  /-- Somebody may ask, with a promise. -/
  query : ∀ {call : Reactor}, call.Observes R → ∀ name timeout,
    Observed R (Probe.query call name timeout)

namespace Observed

/-! ### Ways of putting actions together -/

/-- An action that fails, or does so later, has observed what it did. -/
theorem after_bind {x : Act α} {f : α → Act β} (hx : R b (after x b))
    (hf : ∀ a b', exec x b = (.ok a, b') → R b b' → R b (after (f a) b')) :
    R b (after (x >>= f) b) := by
  rcases e : exec x b with ⟨fault | a, b'⟩
  all_goals
    have left : after x b = b' := congrArg Prod.snd e
    rw [left] at hx
  · rw [after, exec_bind_of_error e]
    exact hx
  · rw [after, exec_bind_of_ok e]
    exact hf a b' e hx

/-- A failure is handled on the bench that is left. -/
theorem after_tryCatch {x : Act α} {f : Fault → Act α} (hx : R b (after x b))
    (hf : ∀ fault b', exec x b = (.error fault, b') → R b b' → R b (after (f fault) b')) :
    R b (after (tryCatch x f) b) := by
  rcases e : exec x b with ⟨fault | a, b'⟩
  all_goals
    have left : after x b = b' := congrArg Prod.snd e
    rw [left] at hx
    rw [after, exec_tryCatch, e]
  · exact hf fault b' e hx
  · exact hx

/-- It makes no difference what a choice rests on. -/
theorem ite {p : Prop} [Decidable p] {x y : Act α} (hx : Observed R x) (hy : Observed R y) :
    Observed R (if p then x else y) := by
  split
  · exact hx
  · exact hy

section

variable [Tolerant R]

theorem pure (a : α) : Observed R (pure a : Act α) := Tolerant.refl

theorem throw (e : Fault) : Observed R (throw e : Act α) := Tolerant.refl

theorem get : Observed R (get : Act Bench) := Tolerant.refl

/-- One action after the other observes what both of them do. -/
theorem bind {x : Act α} {f : α → Act β} (hx : Observed R x) (hf : ∀ a, Observed R (f a)) :
    Observed R (x >>= f) := fun b =>
  after_bind (hx b) fun a b' _ r => Tolerant.trans r (hf a b')

/-- What is done about a failure has to observe a custom, too. -/
theorem tryCatch {x : Act α} {f : Fault → Act α} (hx : Observed R x) (hf : ∀ e, Observed R (f e)) :
    Observed R (tryCatch x f) := fun b =>
  after_tryCatch (hx b) fun fault b' _ r => Tolerant.trans r (hf fault b')

/-- The same may be done for all in a list. The induction is on the list. -/
theorem forM {f : α → Act Unit} (l : List α) (h : ∀ a, Observed R (f a)) : Observed R (l.forM f) := by
  induction l with
  | nil => exact .pure ()
  | cons a l ih =>
    rw [forM_cons]
    exact .bind (h a) fun _ => ih

/-! ### Primitive actions -/

/-- A bench may change aside in any way. -/
theorem modify {g : Bench → Bench} (aside : ∀ b, Aside b (g b)) : Observed R (modify g) :=
  fun b => Tolerant.aside (aside b)

/-- Anything may be noted that is about something else. -/
theorem note {entry : Entry} (aside : entry.isIncidental = true) : Observed R (Bench.note entry) :=
  fun b => Tolerant.aside (.noted b aside)

theorem turn {t : Turn} (aside : (Entry.turned t).isIncidental = true) : Observed R (Bench.turn t) :=
  note aside

/-- **Something is called**, when that has been noted. -/
theorem announce (C : call.Observes R) {c : Callback} {entry : Entry}
    (aside : entry.isIncidental = true)
    (announced : ∀ b, Announced (noted b entry) c) :
    Observed R (Bench.note entry >>= fun _ => call c) := fun b =>
  after_bind (note aside b) fun _ b' e r => by
    cases e
    exact Tolerant.trans r (C c _ (announced b))

/-- Whoever looks at a fusion changes nothing, and so it is with the other things on a bench. -/
theorem getFusion : Observed R Bench.getFusion := Tolerant.refl

theorem getProbe : Observed R Bench.getProbe := Tolerant.refl

theorem getSensor (role : Role) : Observed R (Bench.getSensor role) := Tolerant.refl

/-- Neither clocks nor sensors have anything to do with callers. -/
theorem modifyClock (f : Clock → Clock) : Observed R (Bench.modifyClock f) :=
  modify fun _ => ⟨rfl, rfl, rfl, .refl _ _⟩

theorem modifySensor (role : Role) (f : Sensor → Sensor) : Observed R (Bench.modifySensor role f) :=
  modify fun _ => ⟨rfl, rfl, rfl, .refl _ _⟩

/-- The probe may change in what has nothing to do with its callers. -/
theorem modifyProbe {f : Probe → Probe} (callers : ∀ p, (f p).callers = p.callers) :
    Observed R (Bench.modifyProbe f) :=
  modify fun b => ⟨rfl, rfl, callers b.probe, .refl _ _⟩

/-- The fusion may change in everything but whether a broadcast is on. -/
theorem modifyFusion {f : Fusion → Fusion} (telling : ∀ s, (f s).telling = s.telling) :
    Observed R (Bench.modifyFusion f) :=
  modify fun b => ⟨telling b.fusion, rfl, rfl, .refl _ _⟩

/-- Any record may be logged but one of an error. -/
theorem log {severity : Severity} (mild : severity ≠ .error) (origin message : String)
    (metadata : List (String × Tree)) : Observed R (Bench.log severity origin message metadata) := by
  refine .bind get fun b => .ite (note ?_) (.pure ())
  cases severity with
  | error => exact absurd rfl mild
  | _ => rfl

/-- Reports to the error tracker are no records of an error. -/
theorem report (fault : Fault) (extra : List (String × Tree)) :
    Observed R (Bench.report fault extra) :=
  .bind get fun _ => .ite (note rfl) (.pure ())

/-- A call from another thread is logged as fatal, and reported, and then it fails. -/
theorem assertOwner : Observed R Bench.assertOwner := by
  refine .bind get fun b => ?_
  cases b.owner with
  | none => exact .pure ()
  | some owner =>
    exact .ite (.bind (log (by decide) _ _ _) fun _ => .bind (report _ _) fun _ => .throw _)
      (.pure ())

theorem assertOwnerIf (confined : Bool) : Observed R (Bench.assertOwnerIf confined) :=
  .ite assertOwner (.pure ())

/-- A stamp that cannot be resolved is a failure, and nothing more. -/
theorem resolveStamp (stamp : Stamp) : Observed R (Bench.resolveStamp stamp) := by
  refine .bind get fun b => ?_
  cases stamp.resolve b.clock.now with
  | ok nanos => exact .pure nanos
  | error fault => exact .throw fault

theorem isAvailable (role : Role) : Observed R (Sensor.isAvailable role) :=
  .bind (getSensor role) fun _ => .pure _

/-! ### Timers -/

/-- A timer may be set, of whatever kind it is. -/
theorem schedule (delay : Number) (task : Task) (keepsAlive : Bool) :
    Observed R (Timer.schedule delay task keepsAlive) :=
  .bind (modifyClock _) fun _ => .bind get fun _ => .bind (note rfl) fun _ => .pure _

/-- A timer may be called off, be it armed or not. -/
theorem cancel (id : Nat) : Observed R (Timer.cancel id) :=
  .bind get fun _ => .ite
    (.bind (modifyClock _) fun _ => .bind (note rfl) fun _ => modifyClock _) (.pure ())

/-- A timer goes off. -/
theorem strike (t : Timer) : Observed R (Timer.strike t) :=
  .bind (modifyClock _) fun _ => .bind (note rfl) fun _ => modifyClock _

/-! ### Sensors -/

/-- Asking for one kind of sensor changes nothing, whatever kind is there. -/
theorem standInGet (role : Role) : Observed R (StandIn.get role) :=
  .bind (getSensor role) fun _ => .pure _

theorem standInModify (role : Role) (f : StandIn → StandIn) : Observed R (StandIn.modify role f) :=
  modifySensor role _

theorem hysteresisGet (role : Role) : Observed R (Hysteresis.get role) :=
  .bind (getSensor role) fun _ => .pure _

theorem hysteresisModify (role : Role) (f : Hysteresis → Hysteresis) :
    Observed R (Hysteresis.modify role f) := modifySensor role _

theorem modifySource (role : Role) (f : Source → Source) :
    Observed R (Hysteresis.modifySource role f) := modifySensor role _

theorem assertConfined (role : Role) : Observed R (Hysteresis.assertConfined role) :=
  .bind (hysteresisGet role) fun _ => assertOwnerIf _

theorem hysteresisLog (role : Role) {severity : Severity} (mild : severity ≠ .error)
    (message : String) (metadata : List (String × Tree)) :
    Observed R (Hysteresis.logAbout role severity message metadata) :=
  .bind (hysteresisGet role) fun _ => log mild _ _ _

/-- A subscription is stopped, which is noted. -/
theorem stop (role : Role) (n : Nat) : Observed R (Hysteresis.stop role n) :=
  .bind (note rfl) fun _ => modifySource role _

/-- A subscription is stopped if there is one. -/
theorem dropSubscription (role : Role) : Observed R (Hysteresis.dropSubscription role) := by
  refine .bind (hysteresisGet role) fun h => .bind (hysteresisModify role _) fun _ => ?_
  cases h.subscription with
  | none => exact .pure ()
  | some n => exact stop role n

/-- A stand-in notes that it gets a tag; a hysteresis sensor remembers it. -/
theorem sensorTag (role : Role) (text : Option String) : Observed R (Sensor.tagAs role text) := by
  refine .bind (getSensor role) fun s => ?_
  cases s with
  | standIn => exact note rfl
  | hysteresis => exact hysteresisModify role _
  | absent | unplanned => exact .pure ()

section Sensors

variable (C : call.Observes R)
include C

/-- A listener is told something when that has been noted. -/
theorem tell (l : Listener) (r : Reading) : Observed R (Bench.tell call l r) :=
  announce C rfl fun _ => ⟨_, _, rfl⟩

theorem tellAll (listeners : List Listener) (r : Reading) :
    Observed R (Bench.tellAll call listeners r) := forM listeners fun l => tell C l r

/-- A stand-in tells all its listeners, at its own time or at another one. -/
theorem emit (role : Role) (near : Bool) (stamp : Option Int) :
    Observed R (StandIn.emit call role near stamp) := by
  cases stamp with
  | some stamp => exact .bind (standInGet role) fun _ => tellAll C _ _
  | none =>
    exact .bind (standInModify role _) fun _ => .bind (standInGet role) fun _ => tellAll C _ _

/-- A stand-in may have something to tell when it is called. -/
theorem emitNext (role : Role) (next : Option (Option Bool)) :
    Observed R (StandIn.emitNext call role next) := by
  rcases next with _ | _ | near
  · exact .pure ()
  · exact .pure ()
  · exact emit C role near none

/-- A sample is noted first, and then something is made of it. -/
theorem exists_take (role : Role) (sample : Sample) : ∃ rest, Observed R rest
    ∧ Hysteresis.take call role sample = (do
      Hysteresis.assertConfined role
      Bench.turn (.sampled role sample)
      rest) := by
  refine ⟨_, ?_, rfl⟩
  refine .bind (hysteresisGet role) fun h => .ite ?_ (.pure ())
  cases h.band.classify sample.value with
  | none => exact .pure ()
  | some near =>
    refine .ite (.bind (hysteresisModify role _) fun _ => ?_) (.pure ())
    exact .bind (resolveStamp _) fun _ => .bind (turn rfl) fun _ => tellAll C _ _

/-- **A sample is taken**, whether it crosses the band or not. -/
theorem take (role : Role) (sample : Sample) : Observed R (Hysteresis.take call role sample) := by
  obtain ⟨rest, h, e⟩ := exists_take C role sample
  rw [e]
  exact .bind (assertConfined role) fun _ => .bind (turn rfl) fun _ => h

/-- Sampling begins with a subscription, whose source may have samples at once. -/
theorem beginSampling (role : Role) : Observed R (Hysteresis.beginSampling call role) := by
  have subscribe (delay : Number) : Observed R (Hysteresis.subscribe call role delay) :=
    .bind (modifySource role _) fun _ => .bind (hysteresisGet role) fun _ =>
      .bind (note rfl) fun _ => .bind (hysteresisGet role) fun _ =>
      .bind (modifySource role _) fun _ => .bind (forM _ fun _ => take C role _) fun _ => .pure _
  exact .bind (hysteresisGet role) fun h => .bind (hysteresisLog role (by decide) _ _) fun _ =>
    .bind (hysteresisModify role _) fun _ => .bind (subscribe h.delay) fun _ =>
    .bind (hysteresisGet role) fun _ => .ite (hysteresisModify role _) (stop role _)

/-- A hysteresis sensor samples just while it is wanted to. -/
theorem adjust (role : Role) : Observed R (Hysteresis.adjust call role) := by
  refine .bind (hysteresisGet role) fun h => .ite ?_ (.ite ?_ (.pure ()))
  · exact .bind (turn rfl) fun _ => beginSampling C role
  · exact .bind (hysteresisLog role (by decide) _ _) fun _ => .bind (turn rfl) fun _ =>
      .bind (hysteresisModify role _) fun _ => dropSubscription role

/-- Another delay needs another subscription. -/
theorem hysteresisRetime (role : Role) (delay : Number) :
    Observed R (Hysteresis.retime call role delay) := by
  refine .bind (assertConfined role) fun _ => .bind (hysteresisGet role) fun _ =>
    .ite (.bind (hysteresisModify role _) fun _ => ?_) (.pure ())
  exact .bind (hysteresisGet role) fun _ =>
    .ite (.bind (dropSubscription role) fun _ => beginSampling C role) (.pure ())

/-- Joining twice is remarked on. -/
theorem hysteresisJoin (role : Role) (l : Listener) : Observed R (Hysteresis.join call role l) := by
  refine .bind (assertConfined role) fun _ => .bind (hysteresisGet role) fun _ =>
    .ite (.ite ?_ ?_) (.pure ())
  · exact .bind (hysteresisLog role (by decide) _ _) fun _ => adjust C role
  · exact .bind (hysteresisModify role _) fun _ => adjust C role

/-- Whatever changes a hysteresis sensor, it starts or stops sampling then. -/
theorem hysteresisChange (role : Role) (f : Hysteresis → Hysteresis) :
    Observed R (Hysteresis.assertConfined role >>= fun _ =>
      Hysteresis.modify role f >>= fun _ => Hysteresis.adjust call role) :=
  .bind (assertConfined role) fun _ => .bind (hysteresisModify role f) fun _ => adjust C role

/-- A sensor gets a delay. -/
theorem sensorRetime (role : Role) (delay : Number) : Observed R (Sensor.retime call role delay) := by
  refine .bind (getSensor role) fun s => ?_
  cases s with
  | standIn => exact note rfl
  | hysteresis => exact hysteresisRetime C role delay
  | absent | unplanned => exact .pure ()

/-- A sensor is paused, of whatever kind it is. -/
theorem sensorPause (role : Role) : Observed R (Sensor.pause call role) := by
  refine .bind (getSensor role) fun s => ?_
  cases s with
  | standIn => exact .bind (note rfl) fun _ => standInModify role _
  | hysteresis => exact hysteresisChange C role _
  | absent | unplanned => exact .pure ()

/-- A sensor is resumed, and may report from inside that call. -/
theorem sensorResume (role : Role) : Observed R (Sensor.resume call role) := by
  refine .bind (getSensor role) fun s => ?_
  cases s with
  | standIn =>
    exact .bind (note rfl) fun _ => .bind (standInGet role) fun _ =>
      .bind (standInModify role _) fun _ => emitNext C role _
  | hysteresis => exact hysteresisChange C role _
  | absent | unplanned => exact .pure ()

/-- A listener joins a sensor, which may report from inside that call, too. -/
theorem sensorJoin (role : Role) (l : Listener) : Observed R (Sensor.join call role l) := by
  refine .bind (getSensor role) fun s => ?_
  cases s with
  | standIn =>
    exact .bind (note rfl) fun _ => .bind (standInGet role) fun _ =>
      .bind (standInModify role _) fun _ => emitNext C role _
  | hysteresis => exact hysteresisJoin C role l
  | absent | unplanned => exact .pure ()

theorem sensorLeave (role : Role) (l : Listener) : Observed R (Sensor.leave call role l) := by
  refine .bind (getSensor role) fun s => ?_
  cases s with
  | standIn => exact .bind (note rfl) fun _ => standInModify role _
  | hysteresis => exact hysteresisChange C role _
  | absent | unplanned => exact .pure ()

theorem sensorEmit (role : Role) (near : Bool) (stamp : Option Int) :
    Observed R (Sensor.emit call role near stamp) := by
  refine .bind (getSensor role) fun s => ?_
  cases s with
  | standIn => exact emit C role near stamp
  | hysteresis | absent | unplanned => exact .throw _

/-- What comes for a subscription that has been stopped is not taken, unless it is late. -/
theorem sensorDeliver (role : Role) (sample : Sample) (late : Bool) :
    Observed R (Sensor.deliver call role sample late) := by
  refine .bind (getSensor role) fun s => ?_
  cases s with
  | hysteresis =>
    refine .bind (hysteresisGet role) fun h => ?_
    cases h.source with
    | none => exact .pure ()
    | some source => exact .ite (take C role sample) (.pure ())
  | standIn | absent | unplanned => exact .pure ()

end Sensors

/-! ### The fusion -/

theorem fusionLog (message : String) : Observed R (Fusion.logAbout message) :=
  .bind getFusion fun _ => log (by decide) _ _ _

/-- A recheck is called off if one is waited for. -/
theorem cancelRecheck : Observed R Fusion.cancelRecheck := by
  refine .bind getFusion fun f => ?_
  cases f.pendingRecheck with
  | none => exact .pure ()
  | some id => exact .bind (cancel id) fun _ => modifyFusion fun _ => rfl

/-- A recheck takes the place of the one before it. -/
theorem scheduleRecheck : Observed R Fusion.scheduleRecheck :=
  .bind cancelRecheck fun _ => .bind getFusion fun _ => .bind (schedule _ _ _) fun _ =>
    modifyFusion fun _ => rfl

/-- A tag is passed on to both sensors. -/
theorem fusionTag (text : Option String) : Observed R (Fusion.tagAs text) :=
  .bind (modifyFusion fun _ => rfl) fun _ => .bind (sensorTag _ _) fun _ => sensorTag _ _

/-- **A broadcast observes whatever has nothing to do with broadcasts**: neither with whether one is
on, nor with the errors of those who are told. -/
theorem broadcast_of_free (C : call.Observes R) (fresh : Bool)
    (modifyFusion : ∀ f, Observed R (Bench.modifyFusion f))
    (error : ∀ origin message metadata,
      Observed R (Bench.note (.logged .error origin message metadata))) :
    Observed R (Fusion.broadcast call fresh) := by
  have complain (fault : Fault) : Observed R (Fusion.complain fault) :=
    .bind getFusion fun _ => .bind (.bind get fun _ => .ite (error _ _ _) (.pure ())) fun _ =>
      report _ _
  have announce (r : Reading) (listeners : List Listener) :
      Observed R (Fusion.announce call r fresh listeners) :=
    .bind (turn rfl) fun _ =>
      .bind (.forM _ fun l => .tryCatch (tell C l r) complain) fun _ => turn rfl
  refine .bind assertOwner fun _ => .bind getFusion fun f => .ite ?_ (.pure ())
  refine .bind (modifyFusion _) fun _ => ?_
  cases f.lastFused with
  | none => exact modifyFusion _
  | some r => exact .bind (announce r _) fun _ => modifyFusion _

end

section

variable [Custom R]

section Fusion

variable (C : call.Observes R)
include C

/-- **A reading is made the fused reading** if it is news, which pauses the secondary after a far
one. -/
theorem accept (r : Reading) : Observed R (Fusion.accept call r) := by
  have adopt : Observed R (Fusion.adopt call r) :=
    .bind (turn rfl) fun _ => .bind (modifyFusion fun _ => rfl) fun _ =>
      Custom.broadcast C true
  exact .bind assertOwner fun _ => .bind getFusion fun _ =>
    .ite (.ite (.bind (sensorPause C _) fun _ => adopt) adopt) (.pure ())

/-- **The secondary is looked at again**, whether that was still waited for or not. -/
theorem recheck (id : Nat) : Observed R (Fusion.recheck call id) := by
  have look : Observed R (Fusion.logAbout "Re-checking secondary sensor" >>= fun _ =>
      Bench.turn .rechecked >>= fun _ => Sensor.resume call .secondary) :=
    .bind (fusionLog _) fun _ => .bind (turn rfl) fun _ => sensorResume C _
  exact .bind assertOwner fun _ => .bind getFusion fun _ =>
    .ite (.bind (modifyFusion fun _ => rfl) fun _ => look) look

/-- A reading of the primary is noted first, and then something is made of it. -/
theorem exists_onPrimary (r : Reading) : ∃ rest, Observed R rest
    ∧ Fusion.onPrimary call r = (do
      Bench.assertOwner
      Bench.turn (.sensed .primary r)
      rest) := by
  refine ⟨_, ?_, rfl⟩
  refine .bind getFusion fun _ => .ite (.bind (modifyFusion fun _ => rfl) fun _ => ?_) (.pure ())
  refine .bind getFusion fun f => .bind (isAvailable _) fun available =>
    .ite ?_ (.ite ?_ (.ite ?_ (accept C r)))
  · exact .bind (fusionLog _) fun _ => .ite (sensorResume C _) (.pure ())
  · exact .bind (fusionLog _) fun _ => accept C r
  · exact .bind (fusionLog _) fun _ => .bind cancelRecheck fun _ => sensorResume C _

/-- So is a reading of the secondary. -/
theorem exists_onSecondary (r : Reading) : ∃ rest, Observed R rest
    ∧ Fusion.onSecondary call r = (do
      Bench.assertOwner
      Bench.turn (.sensed .secondary r)
      rest) := by
  have finish : Observed R (Fusion.onSecondary.finish call r) :=
    .bind (fusionLog _) fun _ => .bind getFusion fun _ => .ite (accept C r) (.pure ())
  refine ⟨_, ?_, rfl⟩
  refine .bind getFusion fun _ => .ite (.bind (sensorPause C _) fun _ => .ite cancelRecheck ?_) finish
  exact .bind scheduleRecheck fun _ => finish

/-- **The primary reports.** -/
theorem onPrimary (r : Reading) : Observed R (Fusion.onPrimary call r) := by
  obtain ⟨rest, h, e⟩ := exists_onPrimary C r
  rw [e]
  exact .bind assertOwner fun _ => .bind (turn rfl) fun _ => h

/-- **The secondary reports.** -/
theorem onSecondary (r : Reading) : Observed R (Fusion.onSecondary call r) := by
  obtain ⟨rest, h, e⟩ := exists_onSecondary C r
  rw [e]
  exact .bind assertOwner fun _ => .bind (turn rfl) fun _ => h

/-- The fusion joins both sensors, and readies the secondary in between. -/
theorem connect : Observed R (Fusion.connect call) := by
  have ready : Observed R (Fusion.ready call) :=
    .bind getFusion fun _ => .ite (.bind (sensorPause C _) fun _ => turn rfl) (turn rfl)
  exact .bind (sensorJoin C _ _) fun _ => .bind ready fun _ => .bind (sensorJoin C _ _) fun _ =>
    modifyFusion fun _ => rfl

/-- **A fusion goes to work** if it may. -/
theorem activate : Observed R (Fusion.activate call) := by
  have wake : Observed R (Fusion.logAbout "Registering sensor listener" >>= fun _ =>
      Sensor.resume call .primary) := .bind (fusionLog _) fun _ => sensorResume C _
  have rouse : Observed R (Fusion.rouse call) :=
    .bind getFusion fun _ => .ite (.bind (connect C) fun _ => wake) wake
  exact .bind assertOwner fun _ => .bind getFusion fun _ =>
    .ite (.bind rouse fun _ => .bind (modifyFusion fun _ => rfl) fun _ => turn rfl) (.pure ())

/-- **A fusion stops working** if it was at work. -/
theorem tearDown : Observed R (Fusion.tearDown call) := by
  refine .bind assertOwner fun _ => .bind getFusion fun _ => .ite ?_ (.pure ())
  exact .bind (fusionLog _) fun _ => .bind (sensorPause C _) fun _ => .bind (sensorPause C _) fun _ =>
    .bind cancelRecheck fun _ => .bind (modifyFusion fun _ => rfl) fun _ => turn rfl

theorem fusionRetime (delay : Number) : Observed R (Fusion.retime call delay) :=
  .bind assertOwner fun _ => .bind (sensorRetime C _ _) fun _ => sensorRetime C _ _

theorem fusionPause : Observed R (Fusion.pause call) :=
  .bind assertOwner fun _ => .bind (turn rfl) fun _ => .bind (modifyFusion fun _ => rfl) fun _ =>
    tearDown C

theorem fusionResume : Observed R (Fusion.resume call) :=
  .bind assertOwner fun _ => .bind (turn rfl) fun _ => .bind (modifyFusion fun _ => rfl) fun _ =>
    activate C

/-- Whether safe mode is entered or left shows in what is done to the secondary. -/
theorem setSafe (on : Bool) : Observed R (Fusion.setSafe call on) :=
  .bind assertOwner fun _ => .bind (turn rfl) fun _ => .bind (modifyFusion fun _ => rfl) fun _ =>
    .ite (sensorResume C _) (sensorPause C _)

/-- A listener joins a fusion, which may be what makes it go to work. -/
theorem fusionJoin (l : Listener) : Observed R (Fusion.join call l) := by
  refine .bind assertOwner fun _ => .bind (isAvailable _) fun _ => .ite ?_ (.pure ())
  refine .bind getFusion fun _ => .ite ?_ ?_
  · exact .bind (fusionLog _) fun _ => activate C
  · exact .bind (turn rfl) fun _ => .bind (modifyFusion fun _ => rfl) fun _ => activate C

/-- A listener leaves a fusion, which may have been the last one. -/
theorem fusionLeave (l : Listener) : Observed R (Fusion.leave call l) := by
  have drop : Observed R (Fusion.leave.drop call l) :=
    .bind (modifyFusion fun _ => rfl) fun _ => .bind getFusion fun _ =>
      .ite (tearDown C) (.pure ())
  exact .bind assertOwner fun _ => .bind getFusion fun _ =>
    .ite (.bind (turn rfl) fun _ => drop) drop

end Fusion

/-! ### What a bench is aimed at -/

/-- A target that does not know a call refuses it. -/
theorem refuse (name : String) : Observed R (Target.refuse name : Act α) := by
  refine .bind get fun b => ?_
  split <;> exact .throw _

/-- What is aimed at a target is tactful if it is so for fusions and for sensors. -/
theorem aimed {fusion sensor : Act α} (name : String) (hf : Observed R fusion)
    (hs : Observed R sensor) : Observed R (do
      match (← MonadState.get : Bench).target with
      | .fusion => fusion
      | .sensor => sensor
      | .timers | .nothing => Target.refuse name) := by
  refine .bind get fun b => ?_
  cases b.target with
  | fusion => exact hf
  | sensor => exact hs
  | timers | nothing => exact refuse name

/-- Only a fusion and a sensor can be asked whether they are there. -/
theorem targetAvailable : Observed R Target.isAvailable :=
  aimed _ (isAvailable _) (isAvailable _)

theorem targetTag (text : Option String) : Observed R (Target.tagAs text) :=
  aimed _ (fusionTag text) (sensorTag _ text)

theorem targetRetime (C : call.Observes R) (delay : Number) :
    Observed R (Target.retime call delay) := aimed _ (fusionRetime C delay) (sensorRetime C _ delay)

theorem targetPause (C : call.Observes R) : Observed R (Target.pause call) :=
  aimed _ (fusionPause C) (sensorPause C _)

theorem targetResume (C : call.Observes R) : Observed R (Target.resume call) :=
  aimed _ (fusionResume C) (sensorResume C _)

/-- A probe joins what the bench is aimed at, and so does any listener. -/
theorem targetJoin (C : call.Observes R) (l : Listener) : Observed R (Target.join call l) :=
  aimed _ (fusionJoin C l) (sensorJoin C _ l)

theorem targetLeave (C : call.Observes R) (l : Listener) : Observed R (Target.leave call l) :=
  aimed _ (fusionLeave C l) (sensorLeave C _ l)

/-! ### The probe -/

/-- The timer of a check is called off if there is one. -/
theorem stopTimer : Observed R Probe.stopTimer := by
  refine .bind getProbe fun p => ?_
  cases p.timer with
  | none => exact .pure ()
  | some id => exact .bind (cancel id) fun _ => modifyProbe fun _ => rfl

/-- A check is over. -/
theorem finish (C : call.Observes R) : Observed R (Probe.finish call) :=
  .bind stopTimer fun _ => .bind (targetLeave C _) fun _ => modifyProbe fun _ => rfl

/-- A check is opened. -/
theorem openCheck (C : call.Observes R) (timeout : Number) : Observed R (do
    Bench.modifyProbe fun p => { p with checking := true }
    let id ← Timer.schedule timeout .giveUp true
    Bench.modifyProbe fun p => { p with timer := some id }
    Target.join call .probe) :=
  .bind (modifyProbe fun _ => rfl) fun _ => .bind (schedule _ _ _) fun _ =>
    .bind (modifyProbe fun _ => rfl) fun _ => targetJoin C _

end

/-! ### Timers that fire -/

section

variable [ProbeCustom R]

section Calls

variable (C : call.Observes R)
include C

/-- **A timer fires**, and its task is run. -/
theorem fire (t : Timer) : Observed R (Timer.fire call t) := by
  cases task : t.task with
  | giveUp => exact ProbeCustom.expire C task
  | recheck =>
    refine .bind (strike t) fun _ => ?_
    rw [Timer.run, task]
    exact recheck C t.id
  | scripted name script =>
    refine .bind (strike t) fun _ => ?_
    rw [Timer.run, task]
    exact announce C rfl fun _ => ⟨_, _, _, rfl⟩

/-- Any number of timers may fire. The induction is on that. -/
theorem fireUntil (limit : Number) (bound : Nat) : Observed R (Timer.fireUntil call limit bound) := by
  induction bound with
  | zero => exact .pure ()
  | succ bound ih =>
    refine .bind get fun b => ?_
    cases b.clock.next? limit with
    | none => exact .pure ()
    | some t => exact .bind (fire C t) fun _ => ih

/-- The time passes, and timers that are due fire in their order. -/
theorem advance (millis : Number) (bound : Nat) : Observed R (Timer.advance call millis bound) :=
  .bind get fun _ => .bind (fireUntil C _ _) fun _ => modifyClock _

end Calls

/-! ### Steps -/

theorem quietly {act : Act Unit} (h : Observed R act) : Observed R (Session.quietly act) :=
  .bind h fun _ => .pure _

/-- A step for a fusion is refused by anything else. -/
theorem onFusion (name : String) {act : Act Answer} (h : Observed R act) :
    Observed R (Session.onFusion name act) := by
  refine .bind get fun b => ?_
  cases b.target with
  | fusion => exact h
  | sensor | timers | nothing => exact refuse name

theorem onTimers (name : String) {act : Act Answer} (h : Observed R act) :
    Observed R (Session.onTimers name act) := by
  refine .bind get fun b => ?_
  cases b.target with
  | timers => exact h
  | fusion | sensor | nothing => exact refuse name

/-- A step for a probe fails where there is none. -/
theorem onProbe (name : String) {act : Act Answer} (h : Observed R act) :
    Observed R (Session.onProbe name act) := .bind get fun _ => .ite h (.throw _)

/-- A handle that was never kept is a failure. -/
theorem handle (name asked : String) : Observed R (Session.handle name asked) := by
  refine .bind get fun b => ?_
  cases b.handles.lookup name with
  | none => exact .throw _
  | some id => exact .pure id

theorem receipt : Observed R Session.receipt := by
  refine .bind get fun b => .bind get fun b' => ?_
  split <;> exact .pure _

theorem flags : Observed R Session.flags := by
  refine .bind get fun b => ?_
  cases b.target with
  | fusion => exact .bind get fun _ => .bind (isAvailable _) fun _ => .pure _
  | sensor | timers | nothing => exact refuse _

/-- **Every step is tactful** if whatever is called is. -/
theorem perform (C : call.Observes R) (step : Step) : Observed R (perform call step) := by
  cases step with
  | join listener => exact quietly (targetJoin C _)
  | leave listener => exact quietly (targetLeave C _)
  | pause => exact quietly (targetPause C)
  | resume => exact quietly (targetResume C)
  | alert => exact onFusion _ (quietly (Custom.broadcast C false))
  | tag text => exact .bind (targetTag text) fun _ => receipt
  | delay delay => exact .bind (targetRetime C delay) fun _ => receipt
  | safe on => exact onFusion _ (quietly (setSafe C on))
  | near => exact onFusion _ (.bind get fun _ => .pure _)
  | flags => exact flags
  | text => exact .bind get fun _ => .pure _
  | event role near stamp => exact quietly (sensorEmit C role near stamp)
  | sample role sample late => exact quietly (sensorDeliver C role sample late)
  | thread id => exact quietly (modify fun _ => ⟨rfl, rfl, rfl, .refl _ _⟩)
  | assertOwner =>
    exact .bind get fun _ =>
      .ite (.bind (.throw _) fun _ => quietly assertOwner) (quietly assertOwner)
  | advance millis => exact .bind get fun _ => .bind (advance C _ _) fun _ => .pure _
  | check name timeout script => exact onProbe _ (quietly (ProbeCustom.check C name timeout script))
  | query name timeout => exact onProbe _ (quietly (ProbeCustom.query C name timeout))
  | probeTag text => exact onProbe _ (quietly (targetTag text))
  | schedule name delay keepsAlive script =>
    refine onTimers _ (.bind (schedule _ _ _) fun _ => ?_)
    have kept (id : Nat) : Observed R (do
        MonadState.modifyGet fun b : Bench => ((), { b with handles := (name, id) :: b.handles })
        return Answer.none : Act Answer) :=
      .bind (modify fun _ => ⟨rfl, rfl, rfl, .refl _ _⟩) fun _ => .pure _
    exact .ite (.bind (.throw _) fun _ => kept _) (kept _)
  | cancel name direct =>
    cases direct with
    | false => exact onTimers _ (.bind (handle name _) fun _ => quietly (cancel _))
    | true => exact .bind (handle name _) fun _ => quietly (cancel _)
  | active name => exact .bind (handle name _) fun _ => .bind get fun _ => .pure _
  | «throwError» message => exact .throw _
  | throwValue text => exact .throw _

/-- The steps of a script are taken, until one fails. -/
theorem performAll (C : call.Observes R) (script : List Step) :
    Observed R (performAll call script) :=
  .forM script fun step => .bind (perform C step) fun _ => .pure ()

/-- A listener takes the next of its scripts. -/
theorem nextScript (name : String) : Observed R (Session.nextScript name) :=
  .bind get fun _ => .bind (modify fun _ => ⟨rfl, rfl, rfl, .refl _ _⟩) fun _ => .pure _

/-- **All that can be called observes a custom.** The induction is on the depth. -/
theorem react (depth : Nat) : (Session.react depth).Observes R := by
  induction depth with
  | zero => exact fun _ b _ => Tolerant.refl b
  | succ depth ih =>
    intro c b announced
    cases c with
    | listener l r =>
      rcases l with name | role | _
      · exact Observed.bind (nextScript name) (fun _ => performAll ih _) b
      · cases role with
        | primary => exact onPrimary ih r b
        | secondary => exact onSecondary ih r b
        | sole => exact Tolerant.refl b
      · exact ProbeCustom.onReading ih announced
    | reply c near =>
      rcases c with ⟨ticket, name, _ | _⟩
      · exact performAll ih _ b
      · exact Tolerant.refl b
    | task script => exact performAll ih script b

/-- Whatever is done before the first step observes a custom. -/
theorem prepare (s : Scenario) : Observed R s.prepare := by
  have tracker : Observed R
      (if s.startsTracker then Scenario.startTracker s.telemetry else .pure ()) := by
    refine .ite (.ite (.bind (.forM _ fun _ => note rfl) fun _ => ?_) (log (by decide) _ _ _))
      (.pure ())
    exact modify fun _ => ⟨rfl, rfl, rfl, .refl _ _⟩
  exact .ite (.bind (targetTag _) fun _ => tracker) tracker

end

end Observed

/-! ### Customs that have nothing to do with callers -/

/-- Whether an entry is no record of an error. -/
def Entry.isCivil : Entry → Bool
  | .logged .error _ _ _ => false
  | _ => true

/-- What is noted aside is no error. -/
theorem Entry.isCivil_of_isIncidental {entry : Entry} (aside : entry.isIncidental = true) :
    entry.isCivil = true := by
  cases entry with
  | logged severity =>
    cases severity with
    | error => cases aside
    | _ => rfl
  | _ => rfl

/-- **A custom that has nothing to do with the callers of the probe.** -/
class Careless (R : Bench → Bench → Prop) : Prop extends Custom R where
  /-- Anything may be noted but an error. -/
  note : ∀ {entry : Entry}, entry.isCivil = true → Observed R (Bench.note entry)
  /-- The probe may change in any way. -/
  modifyProbe : ∀ f, Observed R (Bench.modifyProbe f)

namespace Careless

variable [Careless R]

/-- A promise may be settled, whether somebody watches it or not. -/
theorem settle (c : Caller) (outcome : Except Fault (Option Bool)) :
    Observed R (Probe.settle c outcome) :=
  .bind .getProbe fun _ => .ite (.bind (modifyProbe _) fun _ => .bind .getProbe fun _ =>
    .ite (modifyProbe _) (note rfl)) (.pure ())

theorem watch (c : Caller) : Observed R (Probe.watch c) := by
  refine .bind .getProbe fun p => .bind (modifyProbe _) fun _ => ?_
  cases p.unseen.lookup c.ticket with
  | none => exact .pure ()
  | some outcome => exact note rfl

/-- A ticket is given out. -/
theorem newTicket (timeout : Number) : Observed R (Probe.newTicket timeout) :=
  .bind (modifyProbe _) fun _ => .bind .getProbe fun _ => .bind (note rfl) fun _ => .pure _

variable (C : call.Observes R)
include C

/-- A callback is called when that has been noted, and may fail. -/
theorem answer (near : Option Bool) (c : Caller) : Observed R (Probe.answer call near c) := by
  refine .bind (note rfl) fun _ => ?_
  cases c.reply with
  | promise => exact settle c _
  | callback script =>
    intro b
    refine Observed.after_bind (note rfl b) fun _ b₁ e r => Tolerant.trans r ?_
    cases e
    refine Observed.after_tryCatch (C _ _ ⟨_, _, rfl⟩) fun fault b₂ _ r => Tolerant.trans r ?_
    exact Observed.bind (Observed.turn rfl) (fun _ => .throw fault) b₂

/-- **All who wait are answered**, when the check is over. -/
theorem answerAll (near : Option Bool) : Observed R (Probe.answerAll call near) :=
  .bind .getProbe fun _ => .bind (note rfl) fun _ => .bind (modifyProbe _) fun _ =>
    .bind (.finish C) fun _ => .forM _ fun c => answer C near c

/-- The time of those who wait is up. -/
theorem expire {t : Timer} (task : t.task = .giveUp) : Observed R (Timer.fire call t) := by
  have giveUp : Observed R (Probe.giveUp call) :=
    .bind (modifyProbe _) fun _ => .bind .getProbe fun _ => .bind (.log (by decide) _ _ _) fun _ =>
      answerAll C none
  refine .bind (.strike t) fun _ => ?_
  rw [Timer.run, task]
  exact giveUp

/-- **Somebody asks**, and waits or is answered at once. -/
theorem ask (timeout : Number) (c : Caller) : Observed R (Probe.ask call timeout c) :=
  .bind .targetAvailable fun _ => .ite (.bind (note rfl) fun _ => answer C none c)
    (.bind (modifyProbe _) fun _ => .bind .getProbe fun _ => .ite (.openCheck C timeout) (.pure ()))

theorem check (name : String) (timeout : Number) (script : List Step) :
    Observed R (Probe.check call name timeout script) :=
  .bind (newTicket timeout) fun _ => ask C timeout _

theorem query (name : String) (timeout : Option Number) :
    Observed R (Probe.query call name timeout) :=
  .bind .getProbe fun _ => .bind (newTicket _) fun _ => .bind (modifyProbe _) fun _ =>
    .bind (.tryCatch (ask C _ _) fun _ => settle _ _) fun _ => watch _

omit C

/-- **The probe observes it**, whoever asks and whoever is answered. -/
instance : ProbeCustom R where
  onReading C _ := answerAll C _ _
  expire C task := expire C task
  check C := check C
  query C := query C

end Careless

/-- **What a custom says of some steps**, which may be taken one after the other. -/
theorem Observed.run [ProbeCustom R] (steps : List Step) (b : Bench) :
    R b (Session.run steps b) := by
  induction steps generalizing b with
  | nil => exact Tolerant.refl b
  | cons step steps ih => exact Tolerant.trans (Observed.perform (Observed.react _) step b) (ih _)

/-- **What a custom says of a reached bench**: it is related to the bench of a scenario on which
nothing has been done. The induction is on the steps taken. -/
theorem Reached.observed [ProbeCustom R] (h : Reached b) :
    ∃ s b₀, Scenario.bare s = .ok b₀ ∧ R b₀ b := by
  induction h with
  | @setUp s b _ h =>
    obtain ⟨b₀, bare, rfl⟩ := s.exists_of_setUp h
    exact ⟨s, b₀, bare, Observed.prepare s b₀⟩
  | @take b step _ ih =>
    obtain ⟨s, b₀, bare, r⟩ := ih
    exact ⟨s, b₀, bare, Tolerant.trans r (Observed.perform (Observed.react _) step b)⟩

end Proximity
