import Proximity.Proofs.Stirred
import Proximity.Proofs.Tame

/-!
# Benches that are kin

Two tame benches are *kin* (`Proximity.Kin`) if nothing that happens on them can tell the fusion
on the one from its *twin* on the other. They differ in three things at most
(`Proximity.Bench.twin`):

| what may differ | why it does not show |
|---|---|
| whether the fusion has joined its sensors | it does so when it first goes to work |
| the sensors | they are the same when new; nobody asks them whether they are switched on |
| what has been noted before | nobody reads it |

From when they became kin the same has been noted on both, but for a *greeting* on the second,
which is what a twin notes when it joins its sensors later than the fusion (`Proximity.Echo`).

An action that is taken on two benches is followed on both at once. It either succeeds alike
(`Proximity.Agrees`) or, where it may fail, ends alike (`Proximity.Alike`); for both there is one
rule for each way of putting actions together. What leaves benches kin is shown here for the
primitive actions, and in `Proximity.Proofs.Tandem` for the fusion.
-/

namespace Proximity

open Act Session

variable {α β : Type} {R Q : Bench → Bench → Prop} {b b' c c' : Bench}

/-! ### Actions that end alike -/

/-- **An action succeeds alike on two benches**, and leaves benches that are related. -/
def Agrees (R : Bench → Bench → Prop) (act : Act α) (b b' : Bench) : Prop :=
  ∃ a c c', exec act b = (.ok a, c) ∧ exec act b' = (.ok a, c') ∧ R c c'

/-- **An action ends alike on two benches**, whether it fails or not, and leaves benches that
are related. -/
structure Alike (R : Bench → Bench → Prop) (act : Act α) (b b' : Bench) : Prop where
  /-- It answers or fails in the same way. -/
  outcome : (exec act b).1 = (exec act b').1
  /-- The benches that it leaves are related. -/
  related : R (after act b) (after act b')

namespace Agrees

variable {x : Act α} {f : α → Act β}

/-- What both do is known to the last detail. -/
theorem of_exec {a : α} (e : exec x b = (.ok a, c)) (e' : exec x b' = (.ok a, c')) (r : R c c') :
    Agrees R x b b' := ⟨a, c, c', e, e', r⟩

theorem pure (a : α) (r : R b b') : Agrees R (pure a : Act α) b b' := of_exec rfl rfl r

/-- A weaker relation of the benches will do. -/
theorem mono (h : Agrees R x b b') (hQ : ∀ c c', R c c' → Q c c') : Agrees Q x b b' := by
  obtain ⟨a, c, c', e, e', r⟩ := h
  exact ⟨a, c, c', e, e', hQ c c' r⟩

/-- What comes after an action starts from the benches that it leaves. -/
theorem bind (hx : Agrees R x b b') (hf : ∀ a c c', R c c' → Agrees Q (f a) c c') :
    Agrees Q (x >>= f) b b' := by
  obtain ⟨a, c, c', e, e', r⟩ := hx
  obtain ⟨a', d, d', h, h', q⟩ := hf a c c' r
  exact ⟨a', d, d', (exec_bind_of_ok e).trans h, (exec_bind_of_ok e').trans h', q⟩

/-- An action that ends on two benches as another one does on two other ones. -/
theorem follow {y : Act α} (e : exec x b = exec y c) (e' : exec x b' = exec y c')
    (h : Agrees R y c c') : Agrees R x b b' := by
  obtain ⟨a, d, d', h, h', r⟩ := h
  exact ⟨a, d, d', e.trans h, e'.trans h', r⟩

/-- What both do first is known to the last detail. -/
theorem step {a : α} (e : exec x b = (.ok a, c)) (e' : exec x b' = (.ok a, c'))
    (h : Agrees R (f a) c c') : Agrees R (x >>= f) b b' :=
  follow (exec_bind_of_ok e) (exec_bind_of_ok e') h

/-- A step without an answer is no exception. -/
theorem quietly {act : Act Unit} (h : Agrees R act b b') : Agrees R (quietly act) b b' :=
  h.bind fun _ _ _ r => pure _ r

/-- The induction is on the list. -/
theorem forM {g : α → Act Unit} {l : List α} (r : R b b')
    (h : ∀ a ∈ l, ∀ c c', R c c' → Agrees R (g a) c c') : Agrees R (l.forM g) b b' := by
  induction l generalizing b b' with
  | nil => exact pure () r
  | cons a l ih =>
    rw [forM_cons]
    exact (h a List.mem_cons_self b b' r).bind fun _ c c' r =>
      ih r fun a ha => h a (List.mem_cons_of_mem _ ha)

end Agrees

namespace Alike

variable {x : Act α} {f : α → Act β}

/-- Both end alike, in success or in failure. -/
theorem of_exec {o : Except Fault α} (e : exec x b = (o, c)) (e' : exec x b' = (o, c'))
    (r : R c c') : Alike R x b b' := by
  constructor
  · rw [e, e']
  · rw [after, after, e, e']
    exact r

/-- Those that agree succeed, and so they end alike. -/
theorem of_agrees (h : Agrees R x b b') : Alike R x b b' := by
  obtain ⟨a, c, c', e, e', r⟩ := h
  exact of_exec e e' r

theorem mono (h : Alike R x b b') (hQ : ∀ c c', R c c' → Q c c') : Alike Q x b b' :=
  ⟨h.outcome, hQ _ _ h.related⟩

/-- An action that ends on two benches as another one does on two other ones. -/
theorem follow {y : Act α} (e : exec x b = exec y c) (e' : exec x b' = exec y c')
    (h : Alike R y c c') : Alike R x b b' := by
  constructor
  · rw [e, e']
    exact h.outcome
  · rw [after, after, e, e']
    exact h.related

/-- An action ends alike just when it meets itself. -/
theorem of_meet (h : Meet R x x b b') : Alike R x b b' := by
  obtain ⟨o, c, c', e, e', r⟩ := h
  exact of_exec e e' r

/-- And the other way round. -/
theorem meet (h : Alike R x b b') : Meet R x x b b' := by
  have e : exec x b' = ((exec x b).1, after x b') := Prod.ext h.outcome.symm rfl
  exact ⟨_, _, _, rfl, e, h.related⟩

/-- What comes after an action starts from the benches that it leaves, unless it fails. -/
theorem bind (hx : Alike R x b b') (hf : ∀ a c c', R c c' → Alike R (f a) c c') :
    Alike R (x >>= f) b b' :=
  of_meet (hx.meet.bind fun a c c' r => (hf a c c' r).meet)

/-- The same is done for all in a list. -/
theorem forM {g : α → Act Unit} {l : List α} (r : R b b')
    (h : ∀ a ∈ l, ∀ c c', R c c' → Alike R (g a) c c') : Alike R (l.forM g) b b' :=
  of_meet (.forM r fun a ha c c' r => (h a ha c c' r).meet)

/-- A failure is handled alike. -/
theorem tryCatch {g : Fault → Act α} (hx : Alike R x b b')
    (hg : ∀ fault c c', R c c' → Agrees R (g fault) c c') : Agrees R (tryCatch x g) b b' := by
  obtain ⟨o, c, c', e, e', r⟩ := hx.meet
  have h := exec_tryCatch x g b
  have h' := exec_tryCatch x g b'
  rw [e] at h
  rw [e'] at h'
  cases o with
  | error fault => exact .follow h h' (hg fault c c' r)
  | ok a => exact .of_exec h h' r

end Alike

/-! ### Kin -/

/-- **Two journals have grown by the same notes**, but for a greeting among them on the second. -/
def Echo (greeting J J' K K' : List Note) : Prop :=
  ∃ pre post, K = post ++ (pre ++ J) ∧ K' = post ++ (greeting ++ (pre ++ J'))

/-- A bench that differs from another one in what its fusion has joined, in its sensors, and in
what has been noted. -/
def Bench.twin (b : Bench) (linked : Bool) (sensors : Sensors) (journal : List Note) : Bench :=
  { b with fusion := { b.fusion with connected := linked }, sensors, journal }

/-- **How far a fusion has come, and a twin with it.** -/
structure Stage where
  /-- Whether they are at work. -/
  active : Bool
  /-- Whether they are paused. -/
  paused : Bool
  /-- Who listens to them. -/
  listeners : List Listener
  /-- Whether the fusion has joined its sensors. -/
  linked : Bool
  /-- Whether the twin has joined its sensors. -/
  linked' : Bool
  /-- What was noted when the twin joined its sensors later than the fusion. -/
  greeting : List Note

/-- **What holds of a fusion and its twin** at every stage. -/
structure Stage.Sound (s : Stage) : Prop where
  /-- All who listen are from outside. -/
  named : ∀ l ∈ s.listeners, ∃ name, l = .named name
  /-- They are at work only if both have joined their sensors. -/
  working : s.active = true → s.linked = true ∧ s.linked' = true
  /-- The twin is never the first to join its sensors. -/
  later : s.linked' = true → s.linked = true
  /-- Nothing is in a greeting but what is noted when sensors are joined. -/
  greeting : (s.greeting.map (·.entry)).Sublist salutation
  /-- There is no greeting before the twin has joined its sensors. -/
  ungreeted : s.linked' = false → s.greeting = []

/-- **Two benches are kin**: they are tame, and nothing but what they have noted earlier tells
them apart, whether their sensors are switched on, and whether the fusions have joined them. -/
structure Kin (J J' : List Note) (s : Stage) (b b' : Bench) : Prop where
  /-- They differ in nothing else. -/
  twin : ∃ sensors journal, b' = b.twin s.linked' sensors journal
  /-- Nothing that is called calls back. -/
  tame : b.Tame
  /-- The stage is sound. -/
  sound : s.Sound
  /-- The fusions are at work or not. -/
  active : b.fusion.active = s.active
  /-- They are paused or not. -/
  paused : b.fusion.paused = s.paused
  /-- They have the same listeners. -/
  listeners : b.fusion.listeners = s.listeners
  /-- The one has joined its sensors or not. -/
  linked : b.fusion.connected = s.linked
  /-- When new, their sensors are the same. -/
  same : ∀ role, (b'.sensors.get role).renewed = (b.sensors.get role).renewed
  /-- The one fusion listens to its sensors if it has joined them. -/
  heard : ∀ role, (b.sensors.get role).Heard role s.linked
  /-- The other fusion listens to its sensors if it has joined them. -/
  heard' : ∀ role, (b'.sensors.get role).Heard role s.linked'
  /-- While they are not at work they remember nothing. -/
  blank : s.active = false → b.fusion.Blank
  /-- They have listeners only if the primary is there. -/
  present : s.listeners ≠ [] → b.sensors.primary.available = true
  /-- The same has been noted on both. -/
  echo : Echo s.greeting J J' b.journal b'.journal

namespace Kin

variable {J J' : List Note} {s : Stage}

/-! ### What is done on two benches that are kin -/

/-- The same is noted on both. -/
theorem write (k : Kin J J' s b b') (entries : List Entry) :
    Kin J J' s { b with journal := entries.map (⟨b.clock.now, ·⟩) ++ b.journal }
      { b' with journal := entries.map (⟨b'.clock.now, ·⟩) ++ b'.journal } := by
  obtain ⟨sensors, journal, rfl⟩ := k.twin
  obtain ⟨pre, post, e, e'⟩ := k.echo
  exact { k with
    twin := ⟨sensors, _, rfl⟩
    tame := { k.tame with }
    echo := ⟨pre, entries.map (⟨b.clock.now, ·⟩) ++ post, by rw [List.append_assoc, ← e],
      by rw [List.append_assoc, ← e']; rfl⟩ }

/-- The same may be noted on both. -/
theorem noted (k : Kin J J' s b b') (entry : Entry) :
    Kin J J' s (Act.noted b entry) (Act.noted b' entry) := k.write [entry]

/-- The fusions change alike, and may enter another stage. -/
theorem enter (k : Kin J J' s b b') (active paused : Bool) (listeners : List Listener)
    {g : Fusion → Fusion}
    (blind : ∀ f linked, g { f with connected := linked } = { g f with connected := linked })
    (sound : Stage.Sound { s with active, paused, listeners })
    (told : (g b.fusion).active = active ∧ (g b.fusion).paused = paused
      ∧ (g b.fusion).listeners = listeners ∧ (g b.fusion).connected = b.fusion.connected)
    (blank : active = false → (g b.fusion).Blank)
    (present : listeners ≠ [] → b.sensors.primary.available = true) :
    Kin J J' { s with active, paused, listeners } { b with fusion := g b.fusion }
      { b' with fusion := g b'.fusion } := by
  obtain ⟨sensors, journal, rfl⟩ := k.twin
  obtain ⟨hactive, hpaused, hlisteners, hconnected⟩ := told
  exact
    { twin := ⟨sensors, journal, congrArg (fun f => { b with fusion := f, sensors, journal })
        (blind b.fusion s.linked')⟩
      tame := { k.tame with }
      sound
      active := hactive
      paused := hpaused
      listeners := hlisteners
      linked := hconnected.trans k.linked
      same := k.same
      heard := k.heard
      heard' := k.heard'
      blank
      present
      echo := k.echo }

/-- The fusions change alike, and stay at their stage. -/
theorem change (k : Kin J J' s b b') {g : Fusion → Fusion}
    (blind : ∀ f linked, g { f with connected := linked } = { g f with connected := linked })
    (told : ∀ f, (g f).active = f.active ∧ (g f).paused = f.paused ∧ (g f).listeners = f.listeners
      ∧ (g f).connected = f.connected)
    (blank : s.active = false → (g b.fusion).Blank) :
    Kin J J' s { b with fusion := g b.fusion } { b' with fusion := g b'.fusion } := by
  obtain ⟨active, paused, listeners, connected⟩ := told b.fusion
  exact k.enter s.active s.paused s.listeners blind k.sound
    ⟨active.trans k.active, paused.trans k.paused, listeners.trans k.listeners, connected⟩ blank
    k.present

/-- The clocks change alike, and nobody but the fusion puts a task off. -/
theorem tick (k : Kin J J' s b b') {g : Clock → Clock}
    (tasks : ∀ t ∈ (g b.clock).pending, t.task = .recheck) :
    Kin J J' s { b with clock := g b.clock } { b' with clock := g b'.clock } := by
  obtain ⟨sensors, journal, rfl⟩ := k.twin
  exact { k with
    twin := ⟨sensors, journal, rfl⟩
    tame := { k.tame with tasks } }

/-- The scripts change alike, and stay harmless. -/
theorem rescript (k : Kin J J' s b b') {g : List (String × List (List Step)) → _}
    (scripts : ∀ s ∈ g b.scripts, ∀ script ∈ s.2, ∀ step ∈ script, step.isHarmless = true) :
    Kin J J' s { b with scripts := g b.scripts } { b' with scripts := g b'.scripts } := by
  obtain ⟨sensors, journal, rfl⟩ := k.twin
  exact { k with
    twin := ⟨sensors, journal, rfl⟩
    tame := { k.tame with scripts } }

/-- A stand-in changes on both, which leaves it as much there, as mute and as much listened to
as it was. -/
theorem equip (k : Kin J J' s b b') (role : Role) {g : StandIn → StandIn}
    (there : ∀ t, (g t).available = t.available ∧ (g t).listeners = t.listeners)
    (mute : ∀ t, (Sensor.standIn (g t)).isMute = (Sensor.standIn t).isMute)
    (new : ∀ t u, (Sensor.standIn t).renewed = (Sensor.standIn u).renewed →
      (Sensor.standIn (g t)).renewed = (Sensor.standIn (g u)).renewed) :
    Kin J J' s { b with sensors := b.sensors.modify role (·.mapStandIn g) }
      { b' with sensors := b'.sensors.modify role (·.mapStandIn g) } := by
  obtain ⟨sensors, journal, rfl⟩ := k.twin
  have heard : ∀ linked other t, (Sensor.standIn t).Heard other linked →
      (Sensor.standIn (g t)).Heard other linked := fun linked other t h u e => by
    cases e
    exact (there t).2.trans (h t rfl)
  have sole : b.sensors.get .sole = .unplanned := k.tame.sole
  exact { k with
    twin := ⟨_, _, rfl⟩
    tame := { k.tame with
      sole := Sensors.get_mapStandIn (P := fun _ s => s = .unplanned) (fun _ _ => nofun) sole
      mute := fun other => Sensors.get_mapStandIn (P := fun _ s => s.isMute = true)
        (fun _ t => (mute t).trans) (k.tame.mute other) }
    same := Sensors.renewed_mapStandIn new k.same
    heard := fun other => Sensors.get_mapStandIn (heard s.linked) (k.heard other)
    heard' := fun other => Sensors.get_mapStandIn (heard s.linked') (k.heard' other)
    present := fun some => by
      have present : (b.sensors.get .primary).available = true := k.present some
      exact Sensors.get_mapStandIn (P := fun _ s => s.available = true)
        (fun _ t => (there t).1.trans) present }

/-- A sensor is called on both, which only switches it on or off. -/
theorem commanded (k : Kin J J' s b b') (role : Role) (c : Command) {g : StandIn → StandIn}
    (hg : ∀ t, (Sensor.standIn (g t)).renewed = (Sensor.standIn t).renewed)
    (hl : ∀ t, (g t).listeners = t.listeners) :
    Kin J J' s (b.commanded role c g) (b'.commanded role c g) := by
  have written := Sensor.records_of_renewed (k.same role) role c
  rw [Bench.commanded, Bench.commanded, written]
  refine (k.write ((b.sensors.get role).records role c)).equip role (fun t => ⟨?_, hl t⟩)
    (fun t => Sensor.isMute_of_renewed (hg t)) fun t u e => ?_
  · exact Sensor.available_of_renewed (hg t)
  · exact (hg t).trans (e.trans (hg u).symm)

/-! ### Reading and noting -/

section Primitives

variable (k : Kin J J' s b b')
include k

/-- The other bench is tame, too. -/
theorem tame' : b'.Tame := by
  obtain ⟨sole, mute⟩ := k.tame.sensors k.same
  obtain ⟨sensors, journal, rfl⟩ := k.twin
  exact { k.tame with sole, mute }

/-- The twin has joined its sensors just when the stage says so. -/
theorem connected' : b'.fusion.connected = s.linked' := by
  obtain ⟨sensors, journal, rfl⟩ := k.twin
  rfl

/-- What is read of a bench makes no difference, unless a twin differs in it. -/
theorem read {f : Bench → Act α}
    (blind : ∀ linked sensors journal, f (b.twin linked sensors journal) = f b)
    (h : Agrees R (f b) b b') : Agrees R (get >>= f) b b' := by
  obtain ⟨sensors, journal, rfl⟩ := k.twin
  exact .follow (exec_bind_of_ok (exec_get b))
    ((exec_bind_of_ok (exec_get _)).trans (by rw [blind])) h

/-- What is read of a fusion makes no difference, unless it is whether it has joined its
sensors. -/
theorem readFusion {f : Fusion → Act α}
    (blind : ∀ φ linked, f { φ with connected := linked } = f φ)
    (h : Agrees R (f b.fusion) b b') : Agrees R (Bench.getFusion >>= f) b b' := by
  obtain ⟨sensors, journal, rfl⟩ := k.twin
  have same : f (b.twin s.linked' sensors journal).fusion = f b.fusion := blind b.fusion s.linked'
  exact .follow (exec_bind_of_ok (exec_getFusion b))
    ((exec_bind_of_ok (exec_getFusion _)).trans (by rw [same])) h

/-- A sensor is there on both benches or on neither. -/
theorem readAvailable {role : Role} {f : Bool → Act α}
    (h : Agrees R (f (b.sensors.get role).available) b b') :
    Agrees R (Sensor.isAvailable role >>= f) b b' :=
  .follow (exec_bind_of_ok (exec_isAvailable role b))
    ((exec_bind_of_ok (exec_isAvailable role b')).trans
      (by rw [Sensor.available_of_renewed (k.same role)])) h

/-- Anything may be noted. -/
theorem note (entry : Entry) : Agrees (Kin J J' s) (Bench.note entry) b b' :=
  .of_exec (exec_note entry b) (exec_note entry b') (k.noted entry)

theorem turn (t : Turn) : Agrees (Kin J J' s) (Bench.turn t) b b' := k.note (.turned t)

/-- Both benches are called from the owner's thread. -/
theorem assertOwner : Agrees (Kin J J' s) Bench.assertOwner b b' :=
  .of_exec (exec_assertOwner k.tame.thread) (exec_assertOwner k.tame'.thread) k

/-- The same is logged on both, as the threshold is the same. -/
theorem log (severity : Severity) (origin message : String) (metadata : List (String × Tree)) :
    Agrees (Kin J J' s) (Bench.log severity origin message metadata) b b' := by
  refine k.read (fun _ _ _ => rfl) ?_
  split
  · exact k.note _
  · exact .pure () k

/-- The same is reported on both, as the tracker is the same. -/
theorem report (fault : Fault) (extra : List (String × Tree)) :
    Agrees (Kin J J' s) (Bench.report fault extra) b b' := by
  refine k.read (fun _ _ _ => rfl) ?_
  split
  · exact k.note _
  · exact .pure () k

theorem logAbout (message : String) : Agrees (Kin J J' s) (Fusion.logAbout message) b b' :=
  k.readFusion (fun _ _ => rfl) (k.log _ _ _ _)

/-- A fusion may change in any way that does not depend on whether it has joined its sensors. -/
theorem modifyFusion {g : Fusion → Fusion}
    (blind : ∀ f linked, g { f with connected := linked } = { g f with connected := linked })
    (told : ∀ f, (g f).active = f.active ∧ (g f).paused = f.paused ∧ (g f).listeners = f.listeners
      ∧ (g f).connected = f.connected)
    (blank : s.active = false → (g b.fusion).Blank) :
    Agrees (Kin J J' s) (Bench.modifyFusion g) b b' :=
  .of_exec (exec_modifyFusion g b) (exec_modifyFusion g b') (k.change blind told blank)

/-- A clock may change as long as there are no timers but rechecks. -/
theorem modifyClock {g : Clock → Clock} (tasks : ∀ t ∈ (g b.clock).pending, t.task = .recheck) :
    Agrees (Kin J J' s) (Bench.modifyClock g) b b' :=
  .of_exec (exec_modifyClock g b) (exec_modifyClock g b') (k.tick tasks)

/-! ### Sensors -/

/-- Sensors that are mute do no more than note that they are called. -/
theorem sensorPause (call : Reactor) (role : Role) :
    Agrees (Kin J J' s) (Sensor.pause call role) b b' :=
  .of_exec (exec_sensorPause call (k.tame.mute role)) (exec_sensorPause call (k.tame'.mute role))
    (k.commanded role .pause (fun _ => rfl) fun _ => rfl)

/-- They do not report when they are resumed. -/
theorem sensorResume (call : Reactor) (role : Role) :
    Agrees (Kin J J' s) (Sensor.resume call role) b b' :=
  .of_exec (exec_sensorResume call (k.tame.mute role)) (exec_sensorResume call (k.tame'.mute role))
    (k.commanded role .resume (fun _ => rfl) fun _ => rfl)

theorem sensorTagAs (role : Role) (text : Option String) :
    Agrees (Kin J J' s) (Sensor.tagAs role text) b b' :=
  .of_exec (exec_sensorTagAs (k.tame.mute role) text) (exec_sensorTagAs (k.tame'.mute role) text)
    (k.commanded role (.tag text) (fun _ => rfl) fun _ => rfl)

theorem sensorRetime (call : Reactor) (role : Role) (delay : Number) :
    Agrees (Kin J J' s) (Sensor.retime call role delay) b b' :=
  .of_exec (exec_sensorRetime call (k.tame.mute role) delay)
    (exec_sensorRetime call (k.tame'.mute role) delay)
    (k.commanded role (.delay delay) (fun _ => rfl) fun _ => rfl)

/-! ### Timers -/

/-- The same timer is called off on both. -/
theorem cancel (id : Nat) : Agrees (Kin J J' s) (Timer.cancel id) b b' := by
  refine k.read (fun _ _ _ => rfl) ?_
  split
  · refine (k.modifyClock fun t ht => k.tame.tasks t (List.mem_of_mem_filter ht)).bind
      fun _ c c' k => ?_
    refine (k.note _).bind fun _ c c' k => ?_
    exact k.modifyClock k.tame.tasks
  · exact .pure () k

/-- The same timer is set on both. -/
theorem schedule (delay : Number) (keepsAlive : Bool) :
    Agrees (Kin J J' s) (Timer.schedule delay .recheck keepsAlive) b b' := by
  refine (k.modifyClock fun t ht => ?_).bind fun _ c c' k => ?_
  · rcases List.mem_append.mp ht with ht | ht
    · exact k.tame.tasks t ht
    · rw [List.mem_singleton.mp ht]
  refine k.read (fun _ _ _ => rfl) ?_
  exact (k.note _).bind fun _ c c' k => .pure _ k

end Primitives

end Kin

end Proximity
