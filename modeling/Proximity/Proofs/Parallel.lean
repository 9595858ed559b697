import Proximity.Proofs.Exec

/-!
# Actions that go in parallel

What has been noted about calls that were refused, nobody on a bench ever reads. Two benches
*match* (`Proximity.Matches`) if they differ in nothing else, and two actions are *parallel*
(`Proximity.Parallel`) if from benches that match they end in the same way, on benches that
match again.

Parallel actions need not be the same: whatever is called from inside them may differ, as long
as it is parallel, too. For each way of putting actions together there is one rule, which is that of
`Proximity.Meet`. With these rules the sensors are followed here; the fusion, the probe and single
steps in `Proximity.Proofs.Lockstep`.
-/

namespace Proximity

open Act Session

variable {α β : Type}

/-- Whether an entry is about a call that was refused: the record of it, which is the only fatal
one, or the report of it, which is the only one that adds nothing to the fault. -/
def Entry.isRefusal : Entry → Bool
  | logged .fatal _ _ _ => true
  | tracked (.capture _ (.record [])) => true
  | _ => false

/-- A bench without what has been noted about refused calls. -/
def Bench.unrefused (b : Bench) : Bench :=
  { b with journal := b.journal.filter fun n => !n.entry.isRefusal }

/-- **Two benches of a fusion match**: only what has been noted about refused calls tells them
apart. -/
structure Matches (b b' : Bench) : Prop where
  /-- They are benches of a fusion. -/
  target : b.target = .fusion
  /-- They are the same without the refusals. -/
  unrefused : b.unrefused = b'.unrefused

/-- **Two actions are parallel**: on benches that match they end in the same way, and the benches
that they leave match again. -/
structure Parallel (x x' : Act α) : Prop where
  /-- They end alike, and the benches that they leave match. -/
  meet : ∀ {b b'}, Matches b b' → Meet Matches x x' b b'

/-- Whatever becomes of a call, the same becomes of it with the other reactor. -/
def Reactor.Parallel (call call' : Reactor) : Prop := ∀ c, Proximity.Parallel (call c) (call' c)

/-! ### Benches that match -/

namespace Matches

variable {b b' : Bench}

/-- Only the journals of benches that match may differ. -/
theorem eq (m : Matches b b') : b' = { b with journal := b'.journal } :=
  (congrArg (fun c : Bench => { c with journal := b'.journal }) m.unrefused).symm

/-- Without the refusals the journals are the same, too. -/
theorem filter_journal (m : Matches b b') :
    b.journal.filter (fun n => !n.entry.isRefusal)
      = b'.journal.filter (fun n => !n.entry.isRefusal) :=
  congrArg Bench.journal m.unrefused

/-- The same happens to both. -/
theorem change (m : Matches b b') {g : Bench → Bench}
    (blind : ∀ c J, g { c with journal := J } = { g c with journal := J })
    (target : (g b).target = b.target) : Matches (g b) (g b') := by
  refine ⟨target.trans m.target, ?_⟩
  -- What does not depend on the journal leaves it alone.
  have kept (c : Bench) : (g c).journal = c.journal := by
    rw [show g c = { g c with journal := c.journal } from blind c c.journal]
  have same : g b' = { g b with journal := b'.journal } := by
    rw [m.eq]
    exact blind b b'.journal
  rw [Bench.unrefused, Bench.unrefused, kept b', ← m.filter_journal, same, kept b]

/-- The same may be noted on both, be it a refusal or not. -/
theorem noted (m : Matches b b') (entry : Entry) :
    Matches (Act.noted b entry) (Act.noted b' entry) := by
  refine ⟨m.target, ?_⟩
  have now : b'.clock.now = b.clock.now := by rw [m.eq]
  have same : Act.noted b' entry
      = { Act.noted b entry with journal := ⟨b.clock.now, entry⟩ :: b'.journal } := by
    rw [Act.noted, now, m.eq]
    rfl
  rw [Bench.unrefused, Bench.unrefused, same]
  simp only [Act.noted, List.filter_cons, m.filter_journal]

end Matches

/-! ### Putting actions together -/

namespace Parallel

variable {x x' : Act α} {f f' : α → Act β}

/-- What does nothing is parallel to itself. -/
theorem pure (a : α) : Parallel (pure a) (pure a) := ⟨.pure a⟩

/-- Both fail with the same fault. -/
theorem throw (fault : Fault) : Parallel (throw fault : Act α) (throw fault) := ⟨.throw fault⟩

/-- One after the other, parallel actions are parallel. -/
theorem bind (hx : Parallel x x') (hf : ∀ a, Parallel (f a) (f' a)) :
    Parallel (x >>= f) (x' >>= f') :=
  ⟨fun m => (hx.meet m).bind fun a _ _ => (hf a).meet⟩

/-- Both fail or neither does, so that the same failure is handled. -/
theorem tryCatch {g g' : Fault → Act α} (hx : Parallel x x')
    (hg : ∀ fault, Parallel (g fault) (g' fault)) : Parallel (tryCatch x g) (tryCatch x' g') :=
  ⟨fun m => (hx.meet m).tryCatch fun fault _ _ => (hg fault).meet⟩

/-- The same list is gone through, with parallel actions for its members. -/
theorem forM {g g' : α → Act Unit} (l : List α) (h : ∀ a, Parallel (g a) (g' a)) :
    Parallel (l.forM g) (l.forM g') :=
  ⟨fun m => .forM m fun a _ _ _ => (h a).meet⟩

/-- Both make the same choice. -/
theorem ite {c : Prop} [Decidable c] {y y' : Act α} (hx : Parallel x x') (hy : Parallel y y') :
    Parallel (if c then x else y) (if c then x' else y') := by
  split
  · exact hx
  · exact hy

/-- What is read of a bench makes no difference, unless it is the journal. -/
theorem read {f f' : Bench → Act α} (blind : ∀ b J, f' { b with journal := J } = f' b)
    (h : ∀ b, b.target = .fusion → Parallel (f b) (f' b)) :
    Parallel (get >>= f) (get >>= f') := by
  refine ⟨fun {b b'} m => ?_⟩
  have same : f' b' = f' b := by
    rw [m.eq]
    exact blind b b'.journal
  rw [Meet, exec_bind_of_ok (exec_get b), exec_bind_of_ok (exec_get b'), same]
  exact (h b m.target).meet m

/-! ### Primitive actions -/

/-- Any change is parallel to itself that leaves the journal and the target alone. -/
theorem modify {g : Bench → Bench}
    (blind : ∀ b J, g { b with journal := J } = { g b with journal := J })
    (target : ∀ b, (g b).target = b.target) : Parallel (modify g) (modify g) :=
  ⟨fun m => ⟨_, _, _, rfl, rfl, m.change blind (target _)⟩⟩

/-- What is noted is noted on both. -/
theorem note (entry : Entry) : Parallel (Bench.note entry) (Bench.note entry) :=
  ⟨fun m => ⟨_, _, _, rfl, rfl, m.noted entry⟩⟩

theorem turn (t : Turn) : Parallel (Bench.turn t) (Bench.turn t) := note _

/-- Fusions are alike on benches that match. -/
theorem getFusion : Parallel Bench.getFusion Bench.getFusion :=
  .read (fun _ _ => rfl) fun _ _ => .pure _

/-- So are probes. -/
theorem getProbe : Parallel Bench.getProbe Bench.getProbe :=
  .read (fun _ _ => rfl) fun _ _ => .pure _

/-- So are sensors. -/
theorem getSensor (role : Role) : Parallel (Bench.getSensor role) (Bench.getSensor role) :=
  .read (fun _ _ => rfl) fun _ _ => .pure _

theorem isAvailable (role : Role) :
    Parallel (Sensor.isAvailable role) (Sensor.isAvailable role) :=
  .bind (getSensor role) fun _ => .pure _

theorem modifyFusion (g : Fusion → Fusion) :
    Parallel (Bench.modifyFusion g) (Bench.modifyFusion g) :=
  .modify (fun _ _ => rfl) fun _ => rfl

theorem modifyProbe (g : Probe → Probe) : Parallel (Bench.modifyProbe g) (Bench.modifyProbe g) :=
  .modify (fun _ _ => rfl) fun _ => rfl

theorem modifyClock (g : Clock → Clock) : Parallel (Bench.modifyClock g) (Bench.modifyClock g) :=
  .modify (fun _ _ => rfl) fun _ => rfl

theorem modifySensor (role : Role) (g : Sensor → Sensor) :
    Parallel (Bench.modifySensor role g) (Bench.modifySensor role g) :=
  .modify (fun _ _ => rfl) fun _ => rfl

/-- Whether a record is logged depends on the threshold, and that is the same. -/
theorem log (severity : Severity) (origin message : String) (metadata : List (String × Tree)) :
    Parallel (Bench.log severity origin message metadata)
      (Bench.log severity origin message metadata) :=
  .read (fun _ _ => rfl) fun _ _ => .ite (note _) (.pure ())

/-- Whether a fault is reported depends on the tracker, and that is the same. -/
theorem report (fault : Fault) (extra : List (String × Tree)) :
    Parallel (Bench.report fault extra) (Bench.report fault extra) :=
  .read (fun _ _ => rfl) fun _ _ => .ite (note _) (.pure ())

/-- A call from another thread is refused on both benches, and recorded on both. -/
theorem assertOwner : Parallel Bench.assertOwner Bench.assertOwner := by
  refine .read (fun _ _ => rfl) fun b _ => ?_
  cases b.owner with
  | none => exact .pure ()
  | some owner =>
    exact .ite (.bind (log ..) fun _ => .bind (report ..) fun _ => .throw _) (.pure ())

/-- The clocks are alike, and so are the stamps they give. -/
theorem resolveStamp (stamp : Stamp) :
    Parallel (Bench.resolveStamp stamp) (Bench.resolveStamp stamp) := by
  refine .read (fun _ _ => rfl) fun b _ => ?_
  cases stamp.resolve b.clock.now with
  | ok nanos => exact .pure nanos
  | error fault => exact .throw fault

/-! ### Timers -/

/-- The same timer is set on both. -/
theorem schedule (delay : Number) (task : Task) (keepsAlive : Bool) :
    Parallel (Timer.schedule delay task keepsAlive) (Timer.schedule delay task keepsAlive) :=
  .bind (modifyClock _) fun _ => .read (fun _ _ => rfl) fun _ _ =>
    .bind (note _) fun _ => .pure _

/-- The same timer is called off on both, if it is armed. -/
theorem cancel (id : Nat) : Parallel (Timer.cancel id) (Timer.cancel id) :=
  .read (fun _ _ => rfl) fun _ _ =>
    .ite (.bind (modifyClock _) fun _ => .bind (note _) fun _ => modifyClock _) (.pure ())

/-! ### Sensors that call nobody -/

/-- Stand-ins and hysteresis sensors are read alike, as they are sensors. -/
theorem standInGet (role : Role) : Parallel (StandIn.get role) (StandIn.get role) :=
  .bind (getSensor role) fun _ => .pure _

theorem standInModify (role : Role) (g : StandIn → StandIn) :
    Parallel (StandIn.modify role g) (StandIn.modify role g) := modifySensor role _

theorem hysteresisGet (role : Role) : Parallel (Hysteresis.get role) (Hysteresis.get role) :=
  .bind (getSensor role) fun _ => .pure _

theorem hysteresisModify (role : Role) (g : Hysteresis → Hysteresis) :
    Parallel (Hysteresis.modify role g) (Hysteresis.modify role g) := modifySensor role _

/-- Sources belong to their sensors. -/
theorem modifySource (role : Role) (g : Source → Source) :
    Parallel (Hysteresis.modifySource role g) (Hysteresis.modifySource role g) :=
  hysteresisModify role _

/-- A sensor is confined on both benches or on neither. -/
theorem assertConfined (role : Role) :
    Parallel (Hysteresis.assertConfined role) (Hysteresis.assertConfined role) :=
  .bind (hysteresisGet role) fun _ => .ite assertOwner (.pure ())

theorem hysteresisLog (role : Role) (severity : Severity) (message : String)
    (metadata : List (String × Tree)) :
    Parallel (Hysteresis.logAbout role severity message metadata)
      (Hysteresis.logAbout role severity message metadata) :=
  .bind (hysteresisGet role) fun _ => log ..

/-- The same subscription is stopped. -/
theorem stop (role : Role) (n : Nat) : Parallel (Hysteresis.stop role n) (Hysteresis.stop role n) :=
  .bind (note _) fun _ => modifySource role _

/-- There is a subscription on both benches or on neither. -/
theorem dropSubscription (role : Role) :
    Parallel (Hysteresis.dropSubscription role) (Hysteresis.dropSubscription role) := by
  refine .bind (hysteresisGet role) fun h => .bind (hysteresisModify role _) fun _ => ?_
  cases h.subscription with
  | none => exact .pure ()
  | some n => exact stop role n

/-- The same tag is noted, or remembered. -/
theorem sensorTag (role : Role) (text : Option String) :
    Parallel (Sensor.tagAs role text) (Sensor.tagAs role text) := by
  refine .bind (getSensor role) fun sensor => ?_
  cases sensor with
  | standIn s => exact note _
  | hysteresis h => exact hysteresisModify role _
  | absent | unplanned => exact .pure ()

/-! ### Sensors that call the fusion -/

section Calls

variable {call call' : Reactor} (C : Reactor.Parallel call call')
include C

/-- A listener is told the same by whatever is called. -/
theorem tell (l : Listener) (r : Reading) : Parallel (Bench.tell call l r) (Bench.tell call' l r) :=
  .bind (note _) fun _ => C _

theorem tellAll (listeners : List Listener) (r : Reading) :
    Parallel (Bench.tellAll call listeners r) (Bench.tellAll call' listeners r) :=
  .forM listeners fun l => tell C l r

/-- A stand-in reports to the same listeners. -/
theorem standInEmit (role : Role) (near : Bool) (stamp : Option Int) :
    Parallel (StandIn.emit call role near stamp) (StandIn.emit call' role near stamp) := by
  cases stamp with
  | some stamp => exact .bind (standInGet role) fun _ => tellAll C _ _
  | none =>
    exact .bind (standInModify role _) fun _ => .bind (standInGet role) fun _ => tellAll C _ _

/-- A stand-in has the same to report. -/
theorem emitNext (role : Role) (next : Option (Option Bool)) :
    Parallel (StandIn.emitNext call role next) (StandIn.emitNext call' role next) := by
  rcases next with _ | _ | near
  · exact .pure ()
  · exact .pure ()
  · exact standInEmit C role near none

/-- **A sample is taken in parallel**: it crosses both bands or neither. -/
theorem take (role : Role) (sample : Sample) :
    Parallel (Hysteresis.take call role sample) (Hysteresis.take call' role sample) := by
  refine .bind (assertConfined role) fun _ => .bind (turn _) fun _ =>
    .bind (hysteresisGet role) fun h => .ite ?_ (.pure ())
  cases h.band.classify sample.value with
  | none => exact .pure ()
  | some near =>
    refine .ite ?_ (.pure ())
    exact .bind (hysteresisModify role _) fun _ => .bind (resolveStamp _) fun _ =>
      .bind (turn _) fun _ => tellAll C _ _

/-- A source has the same samples at once. -/
theorem subscribe (role : Role) (delay : Number) :
    Parallel (Hysteresis.subscribe call role delay) (Hysteresis.subscribe call' role delay) :=
  .bind (modifySource role _) fun _ => .bind (hysteresisGet role) fun _ => .bind (note _) fun _ =>
    .bind (hysteresisGet role) fun _ => .bind (modifySource role _) fun _ =>
      .bind (.forM _ fun sample => take C role sample) fun _ => .pure _

/-- Sampling begins on both, and the subscription is kept on both or stopped. -/
theorem beginSampling (role : Role) :
    Parallel (Hysteresis.beginSampling call role) (Hysteresis.beginSampling call' role) :=
  .bind (hysteresisGet role) fun _ => .bind (hysteresisLog ..) fun _ =>
    .bind (hysteresisModify role _) fun _ => .bind (subscribe C role _) fun n =>
      .bind (hysteresisGet role) fun _ => .ite (hysteresisModify role _) (stop role n)

/-- Sampling begins or ends on both, or on neither. -/
theorem adjust (role : Role) :
    Parallel (Hysteresis.adjust call role) (Hysteresis.adjust call' role) := by
  refine .bind (hysteresisGet role) fun h => .ite ?_ (.ite ?_ (.pure ()))
  · exact .bind (turn _) fun _ => beginSampling C role
  · exact .bind (hysteresisLog ..) fun _ => .bind (turn _) fun _ =>
      .bind (hysteresisModify role _) fun _ => dropSubscription role

/-- A sensor gets the same delay. -/
theorem sensorRetime (role : Role) (delay : Number) :
    Parallel (Sensor.retime call role delay) (Sensor.retime call' role delay) := by
  refine .bind (getSensor role) fun sensor => ?_
  cases sensor with
  | standIn s => exact note _
  | hysteresis h =>
    refine .bind (assertConfined role) fun _ => .bind (hysteresisGet role) fun _ =>
      .ite ?_ (.pure ())
    exact .bind (hysteresisModify role _) fun _ => .bind (hysteresisGet role) fun _ =>
      .ite (.bind (dropSubscription role) fun _ => beginSampling C role) (.pure ())
  | absent | unplanned => exact .pure ()

/-- A sensor is paused on both. -/
theorem sensorPause (role : Role) :
    Parallel (Sensor.pause call role) (Sensor.pause call' role) := by
  refine .bind (getSensor role) fun sensor => ?_
  cases sensor with
  | standIn s => exact .bind (note _) fun _ => standInModify role _
  | hysteresis h =>
    exact .bind (assertConfined role) fun _ => .bind (hysteresisModify role _) fun _ =>
      adjust C role
  | absent | unplanned => exact .pure ()

/-- A sensor is resumed on both, and reports the same from inside that call. -/
theorem sensorResume (role : Role) :
    Parallel (Sensor.resume call role) (Sensor.resume call' role) := by
  refine .bind (getSensor role) fun sensor => ?_
  cases sensor with
  | standIn s =>
    exact .bind (note _) fun _ => .bind (standInGet role) fun _ =>
      .bind (standInModify role _) fun _ => emitNext C role _
  | hysteresis h =>
    exact .bind (assertConfined role) fun _ => .bind (hysteresisModify role _) fun _ =>
      adjust C role
  | absent | unplanned => exact .pure ()

theorem sensorJoin (role : Role) (l : Listener) :
    Parallel (Sensor.join call role l) (Sensor.join call' role l) := by
  refine .bind (getSensor role) fun sensor => ?_
  cases sensor with
  | standIn s =>
    exact .bind (note _) fun _ => .bind (standInGet role) fun _ =>
      .bind (standInModify role _) fun _ => emitNext C role _
  | hysteresis h =>
    refine .bind (assertConfined role) fun _ => .bind (hysteresisGet role) fun _ =>
      .ite ?_ (.pure ())
    exact .ite (.bind (hysteresisLog ..) fun _ => adjust C role)
      (.bind (hysteresisModify role _) fun _ => adjust C role)
  | absent | unplanned => exact .pure ()

theorem sensorEmit (role : Role) (near : Bool) (stamp : Option Int) :
    Parallel (Sensor.emit call role near stamp) (Sensor.emit call' role near stamp) := by
  refine .bind (getSensor role) fun sensor => ?_
  cases sensor with
  | standIn s => exact standInEmit C role near stamp
  | hysteresis h => exact .throw _
  | absent => exact .throw _
  | unplanned => exact .throw _

theorem sensorDeliver (role : Role) (sample : Sample) (late : Bool) :
    Parallel (Sensor.deliver call role sample late) (Sensor.deliver call' role sample late) := by
  refine .bind (getSensor role) fun sensor => ?_
  cases sensor with
  | hysteresis h =>
    refine .bind (hysteresisGet role) fun h => ?_
    cases h.source with
    | none => exact .pure ()
    | some s => exact .ite (take C role sample) (.pure ())
  | standIn _ | absent | unplanned => exact .pure ()

end Calls

end Parallel

end Proximity
