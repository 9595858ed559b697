import Proximity.Proofs.Broadcast
import Proximity.Proofs.Punctual
import Proximity.Proofs.Tandem

/-!
# Teardown leaves no residue

A fusion stops working when it is paused or when its last listener leaves, whatever it was in the
middle of: it may have heard one sensor and not yet the other, and a recheck may be to come.
Nothing of that should show when it works again. So a fusion that has been used and is stopped is
compared with a new one, which is brought to the same listeners, pause, mode and tag by the calls
that anybody could make (`Proximity.Bench.bringing`). The main statement is
`Proximity.no_residue`: from then on both do the same.

It is about sessions in which nothing is called back:

| assumption | where it is made |
|---|---|
| all calls come from the owner's thread | `Proximity.Scenario.Tame.home`, `Proximity.Step.isTame` |
| no sensor reports from inside a call | `Proximity.Scenario.Tame.sensors` |
| no listener makes the fusion do anything | `Proximity.Scenario.Tame.scripts` |
| what a sensor tells the fusion comes while it is at work | `Proximity.Session.timely` |

The sensors are stand-ins, or are not there. Each report of a stand-in is a step of its own, and
the steps are arbitrary, so a stand-in may be any sensor that reports at times of its own.

The proof has three parts. The bench of a stopped fusion has nothing pending and its fusion
remembers nothing (`Proximity.Reached.stopped`). A new fusion gets to the same memory
(`Proximity.Sown.bring`). And two fusions with the same memory go on in the same way, of which
one has joined its sensors and the other one may not (`Proximity.AtRest.run`).
-/

namespace Proximity

open Act Session

variable {b b' b₀ c : Bench} {f : Fusion} {s : Scenario}

/-! ### A new fusion -/

/-- What a fusion that is not at work and remembers nothing has, but for the sensors that it may
have joined, is what it was given. -/
theorem Fusion.unlinked_of_blank (f : Fusion) (blank : f.Blank) (idle : f.active = false)
    (quiet : f.telling = false) :
    { f with connected := false } = { fresh f.recheckDelay with
      listeners := f.listeners, tag := f.tag, paused := f.paused, safe := f.safe } := by
  obtain ⟨primary, fused, recheck⟩ := blank
  cases f
  simp_all [fresh]

/-- The step by which a listener from outside joins a fusion. -/
def Listener.joining : Listener → List Step
  | named name => [.join name]
  | fusion _ | probe => []

namespace Bench

/-- **A bench with a new fusion.** Its sensors are new, too, though they go on numbering their
reports; nothing is pending; and the time, the scripts and the journal go on. -/
def renewed (b : Bench) : Bench :=
  { b with
    clock := { b.clock with pending := [], armed := [] }
    sensors := ⟨b.sensors.primary.renewed, b.sensors.secondary.renewed, b.sensors.sole.renewed⟩
    fusion := .fresh b.fusion.recheckDelay }

/-- **The steps that bring a new fusion to where the fusion of a bench is.** It is paused first,
so that it does not go to work before it has been brought there. -/
def bringing (b : Bench) : List Step :=
  [.pause] ++ b.fusion.listeners.flatMap Listener.joining
    ++ [.safe b.fusion.safe, .tag b.fusion.tag] ++ if b.fusion.paused then [] else [.resume]

end Bench

/-- **A bench on which a new fusion has got to a memory**, and has not gone to work. -/
structure Sown (b : Bench) (f : Fusion) (c : Bench) : Prop where
  /-- Nothing else has come of it but notes and calls of the sensors. -/
  twin : ∃ sensors journal, c = { b.renewed with fusion := f, sensors, journal }
  /-- When new, its sensors are the same as before. -/
  same : ∀ role, (c.sensors.get role).renewed = (b.sensors.get role).renewed
  /-- It has not joined its sensors. -/
  unheard : ∀ role, (c.sensors.get role).Heard role false

namespace Sown

/-- On a new bench there is a new fusion, which has joined no sensors. -/
theorem start (b : Bench) : Sown b (.fresh b.fusion.recheckDelay) b.renewed where
  twin := ⟨_, _, rfl⟩
  same role := by
    have twice : ∀ s : Sensor, s.renewed.renewed = s.renewed := fun s => by cases s <;> rfl
    cases role <;> exact twice _
  unheard role := by
    have new : ∀ s : Sensor, s.renewed.Heard role false := fun s t e => by
      cases s <;> cases e
      rfl
    cases role <;> exact new _

theorem tame (h : Sown b f c) (tame : b.Tame) : c.Tame := by
  obtain ⟨sole, mute⟩ := tame.sensors h.same
  obtain ⟨sensors, journal, rfl⟩ := h.twin
  exact { tame with sole, mute, tasks := nofun }

/-- The memory of the fusion is the one it has got to. -/
theorem fusion (h : Sown b f c) : c.fusion = f := by
  obtain ⟨sensors, journal, rfl⟩ := h.twin
  rfl

/-- Anything may be noted. -/
theorem noted (h : Sown b f c) (entry : Entry) : Sown b f (Act.noted c entry) := by
  obtain ⟨sensors, journal, rfl⟩ := h.twin
  exact { h with twin := ⟨sensors, _, rfl⟩ }

/-- The fusion gets to another memory when that changes. -/
theorem change (h : Sown b f c) (g : Fusion → Fusion) :
    Sown b (g f) { c with fusion := g c.fusion } := by
  obtain ⟨sensors, journal, rfl⟩ := h.twin
  exact { h with twin := ⟨sensors, journal, rfl⟩ }

/-- A sensor may be called in a way that leaves no trace on it when it is new again. -/
theorem commanded (h : Sown b f c) (role : Role) (command : Command) {g : StandIn → StandIn}
    (hg : ∀ t, (Sensor.standIn (g t)).renewed = (Sensor.standIn t).renewed)
    (hl : ∀ t, (g t).listeners = t.listeners) : Sown b f (c.commanded role command g) := by
  obtain ⟨sensors, journal, rfl⟩ := h.twin
  exact
    { twin := ⟨_, _, rfl⟩
      same := fun other => Sensors.get_mapStandIn
        (P := fun other s => s.renewed = (b.sensors.get other).renewed) (fun _ t => (hg t).trans)
        (h.same other)
      unheard := fun other => Sensors.get_mapStandIn
        (P := fun other s => s.Heard other false) (fun _ t ht u e => by
          cases e
          exact (hl t).trans (ht t rfl)) (h.unheard other) }

/-! ### Steps that do not set it to work -/

variable (call : Reactor)

/-- A fusion that is not at work is paused, and that is all. -/
theorem pause (h : Sown b f c) (t : b.Tame) (idle : f.active = false) :
    Yields (perform call .pause) c fun _ => Sown b { f with paused := true } := by
  have tame := h.tame t
  refine .bind (P := fun _ => Sown b { f with paused := true }) ?_ fun _ _ h => .pure h
  refine .step (exec_get c) ?_
  rw [tame.target]
  refine .step (exec_assertOwner tame.thread) ?_
  refine .step (exec_note _ c) (.step (exec_modifyFusion _ _) ?_)
  have h := (h.noted (.turned .paused)).change fun f => { f with paused := true }
  refine .step (exec_assertOwner (h.tame t).thread) (.step (exec_getFusion _) ?_)
  rw [h.fusion, if_neg (ne_true_of_eq_false idle)]
  exact .pure h

/-- A listener joins a fusion that is paused, and that is all. -/
theorem join (h : Sown b f c) (t : b.Tame) (paused : f.paused = true) {name : String}
    (there : b.sensors.primary.available = true) (new : .named name ∉ f.listeners) :
    Yields (perform call (.join name)) c
      fun _ => Sown b { f with listeners := f.listeners ++ [.named name] } := by
  have tame := h.tame t
  have there' : (c.sensors.get .primary).available = true :=
    (Sensor.available_of_renewed (h.same .primary)).trans there
  refine .bind (P := fun _ => Sown b { f with listeners := f.listeners ++ [.named name] }) ?_
    fun _ _ h => .pure h
  refine .step (exec_get c) ?_
  rw [tame.target]
  refine .step (exec_assertOwner tame.thread) (.step (exec_isAvailable .primary c) ?_)
  rw [if_pos there']
  refine .step (exec_getFusion c) ?_
  rw [h.fusion, if_neg new]
  refine .step (exec_note _ c) (.step (exec_modifyFusion _ _) ?_)
  have h := (h.noted (.turned (.joined (.named name)))).change fun f =>
    { f with listeners := f.listeners ++ [.named name] }
  refine .step (exec_assertOwner (h.tame t).thread) (.step (exec_getFusion _) ?_)
  rw [h.fusion, if_neg (by simp [paused])]
  exact .pure h

/-- The mode is changed, and the secondary called accordingly. -/
theorem safe (h : Sown b f c) (t : b.Tame) (on : Bool) :
    Yields (perform call (.safe on)) c fun _ => Sown b { f with safe := on } := by
  have tame := h.tame t
  refine .step (exec_get c) ?_
  rw [tame.target]
  refine .bind (P := fun _ => Sown b { f with safe := on }) ?_ fun _ _ h => .pure h
  refine .step (exec_assertOwner tame.thread) ?_
  refine .step (exec_note _ c) (.step (exec_modifyFusion _ _) ?_)
  have h := (h.noted (.turned (.mode on))).change fun f => { f with safe := on }
  have mute := (h.tame t).mute .secondary
  cases on with
  | true => exact ⟨_, _, exec_sensorResume call mute, h.commanded _ _ (fun _ => rfl) fun _ => rfl⟩
  | false => exact ⟨_, _, exec_sensorPause call mute, h.commanded _ _ (fun _ => rfl) fun _ => rfl⟩

/-- A tag is passed on. -/
theorem tag (h : Sown b f c) (t : b.Tame) (text : Option String) :
    Yields (perform call (.tag text)) c fun _ => Sown b { f with tag := text } := by
  refine .bind (P := fun _ => Sown b { f with tag := text }) ?_ fun _ c h =>
    ⟨_, _, exec_receipt (h.tame t), h⟩
  refine .step (exec_get c) ?_
  rw [(h.tame t).target]
  refine .step (exec_modifyFusion _ _) ?_
  have h := h.change fun f => { f with tag := text }
  refine .step (exec_sensorTagAs ((h.tame t).mute .primary) _) ?_
  have h := h.commanded .primary (.tag (some (text.getD "null" ++ ":primary"))) (g := id)
    (fun _ => rfl) fun _ => rfl
  exact ⟨_, _, exec_sensorTagAs ((h.tame t).mute .secondary) _,
    h.commanded _ _ (fun _ => rfl) fun _ => rfl⟩

/-- A fusion without listeners is resumed, and does not go to work. -/
theorem resume (h : Sown b f c) (t : b.Tame) (alone : f.listeners = []) :
    Yields (perform call .resume) c fun _ => Sown b { f with paused := false } := by
  have tame := h.tame t
  refine .bind (P := fun _ => Sown b { f with paused := false }) ?_ fun _ _ h => .pure h
  refine .step (exec_get c) ?_
  rw [tame.target]
  refine .step (exec_assertOwner tame.thread) ?_
  refine .step (exec_note _ c) (.step (exec_modifyFusion _ _) ?_)
  have h := (h.noted (.turned .resumed)).change fun f => { f with paused := false }
  refine .step (exec_assertOwner (h.tame t).thread) (.step (exec_getFusion _) ?_)
  rw [h.fusion, if_neg (by simp [alone])]
  exact .pure h

/-- A step is taken. -/
theorem take {f' : Fusion} {step : Step}
    (h : ∀ call, Yields (perform call step) c fun _ => Sown b f') :
    Sown b f' (Session.take step c).bench := by
  obtain ⟨_, c', e, h'⟩ := h (react (depth c step))
  rwa [Session.take_of_exec e]

/-- Listeners join one after the other. The induction is on those that are still to join. -/
theorem joins (h : Sown b f c) (t : b.Tame) (paused : f.paused = true) {listeners : List Listener}
    (there : listeners ≠ [] → b.sensors.primary.available = true)
    (named : ∀ l ∈ listeners, ∃ name, l = .named name)
    (distinct : (f.listeners ++ listeners).Nodup) :
    Sown b { f with listeners := f.listeners ++ listeners }
      (run (listeners.flatMap Listener.joining) c) := by
  induction listeners generalizing f c with
  | nil =>
    rw [List.append_nil]
    exact h
  | cons l listeners ih =>
    obtain ⟨name, rfl⟩ := named l List.mem_cons_self
    have there := there (List.cons_ne_nil _ _)
    have new : .named name ∉ f.listeners := fun old =>
      (List.nodup_append.mp distinct).2.2 _ old _ List.mem_cons_self rfl
    have joined := take fun call => h.join call t paused there new
    have rest := ih joined paused (fun _ => there)
      (fun l hl => named l (List.mem_cons_of_mem _ hl)) (by simpa using distinct)
    rw [List.append_assoc, List.singleton_append] at rest
    exact rest

/-- **A new fusion is brought to where a fusion is** that is not at work and remembers
nothing. -/
theorem bring (t : b.Tame) (idle : b.fusion.active = false) (blank : b.fusion.Blank)
    (quiet : b.fusion.telling = false) (settled : b.fusion.paused = true ∨ b.fusion.listeners = [])
    (there : b.fusion.listeners ≠ [] → b.sensors.primary.available = true)
    (named : ∀ l ∈ b.fusion.listeners, ∃ name, l = .named name)
    (distinct : b.fusion.listeners.Nodup) :
    Sown b { b.fusion with connected := false } (run b.bringing b.renewed) := by
  have h := take fun call => (start b).pause call t rfl
  have h := h.joins t rfl there named distinct
  have h := take fun call => h.safe call t b.fusion.safe
  have h := take fun call => h.tag call t b.fusion.tag
  rw [Bench.bringing, run_append, run_append, run_append]
  cases paused : b.fusion.paused with
  | true =>
    rw [b.fusion.unlinked_of_blank blank idle quiet, paused]
    exact h
  | false =>
    have alone : b.fusion.listeners = [] := settled.resolve_left (ne_true_of_eq_false paused)
    have h := take fun call => h.resume call t (by rw [alone]; rfl)
    rw [b.fusion.unlinked_of_blank blank idle quiet, paused]
    exact h

end Sown

/-! ### Setting up -/

/-- Whether what a sensor is made from never reports from inside a call. -/
def SensorPlan.isMute : SensorPlan → Bool
  | standIn _ onResume onJoin => onResume.isEmpty && onJoin.isEmpty
  | absent | unplanned _ => true
  | hysteresis _ _ _ _ _ => false

/-- Whether a target is a fusion of two sensors that never report from inside a call. -/
def TargetPlan.isMute : TargetPlan → Bool
  | fusion primary secondary _ => primary.isMute && secondary.all (·.isMute)
  | sensor _ | timers | nothing => false

/-- **A scenario in which nothing that a fusion calls calls it back.** -/
structure Scenario.Tame (s : Scenario) : Prop where
  /-- The target is a fusion whose sensors never report from inside a call. -/
  sensors : s.target.isMute = true
  /-- The owner's thread calls. -/
  home : s.confines = true → s.thread.same (s.owner.getD s.thread) = true
  /-- Whatever the listeners do at their calls makes nothing happen. -/
  scripts : ∀ entry ∈ s.scripts, ∀ script ∈ entry.2, ∀ step ∈ script, step.isHarmless = true

/-- A sensor that is planned to be mute is. -/
theorem SensorPlan.isMute_make {plan : SensorPlan} {sensor : Sensor} (mute : plan.isMute = true)
    (h : plan.make = .ok sensor) : sensor.isMute = true := by
  cases plan with
  | standIn => cases h; exact mute
  | hysteresis => cases mute
  | absent => cases h; rfl
  | unplanned => cases h

/-- So are all sensors of a target. -/
theorem TargetPlan.isMute_makeSensors {plan : TargetPlan} {sensors : Sensors}
    (mute : plan.isMute = true) (h : plan.makeSensors = .ok sensors) :
    ∀ role, (sensors.get role).isMute = true := by
  cases plan with
  | fusion primary secondary request =>
    obtain ⟨first, second⟩ := Bool.and_eq_true_iff.mp mute
    rw [makeSensors] at h
    cases hp : primary.make with
    | error e => rw [hp] at h; cases h
    | ok p =>
      rw [hp] at h
      cases hq : (secondary.map SensorPlan.make).getD (.ok .unplanned) with
      | error e => rw [hq] at h; cases h
      | ok q =>
        rw [hq] at h
        cases h
        intro role
        cases role with
        | primary => exact SensorPlan.isMute_make first hp
        | secondary =>
          cases secondary with
          | none => cases hq; rfl
          | some plan => exact SensorPlan.isMute_make second hq
        | sole => rfl
  | sensor | timers | nothing => cases mute

theorem TargetPlan.target_of_isMute {plan : TargetPlan} (mute : plan.isMute = true) :
    plan.target = .fusion := by
  cases plan with
  | fusion => rfl
  | sensor | timers | nothing => cases mute

/-- Nothing has happened to a fusion and a twin of it yet. -/
def Stage.initial : Stage :=
  { active := false, paused := false, listeners := [], linked := false, linked' := false
    greeting := [] }

namespace Scenario

variable {J J' : List Note} {stage : Stage}

/-- **Before anything is done a bench is kin to itself.** -/
theorem Tame.kin_bare (tame : s.Tame) (h : s.bare = .ok b) : Kin [] [] .initial b b := by
  have thread := s.onThread_of_bare tame.home h
  obtain ⟨sensors, delay, patience, made, rfl⟩ := s.eq_of_bare h
  have aimed := TargetPlan.target_of_isMute tame.sensors
  obtain ⟨sole, new⟩ := TargetPlan.makeSensors_fusion aimed made
  have heard : ∀ role, (sensors.get role).Heard role false := fun role t e => by
    have nobody := (new role).1
    rw [e] at nobody
    exact nobody
  exact
    { twin := ⟨_, _, rfl⟩
      tame :=
        { target := aimed, thread, sole, mute := TargetPlan.isMute_makeSensors tame.sensors made
          scripts := tame.scripts, handles := rfl, tasks := nofun }
      sound :=
        { named := nofun, working := nofun, later := nofun, greeting := List.nil_sublist _
          ungreeted := fun _ => rfl }
      active := rfl
      paused := rfl
      listeners := rfl
      linked := rfl
      same := fun _ => rfl
      heard
      heard' := heard
      blank := fun _ => ⟨rfl, rfl, rfl⟩
      present := fun some => absurd rfl some
      echo := ⟨[], [], rfl, rfl⟩ }

/-- What is done before the first step leaves two benches kin. -/
theorem agrees_prepare (s : Scenario) (k : Kin J J' stage b b') :
    Agrees (Kin J J' stage) s.prepare b b' := by
  have tracker : ∀ {b b'}, Kin J J' stage b b' → Agrees (Kin J J' stage) (if s.startsTracker then
      Scenario.startTracker s.telemetry else pure ()) b b' := by
    intro b b' k
    split
    · rw [startTracker]
      split
      · refine Agrees.bind (.forM k fun call _ _ _ k => k.note _) fun _ c c' k => ?_
        obtain ⟨sensors, journal, rfl⟩ := k.twin
        exact .of_exec (exec_modify _ c) (exec_modify _ _)
          { k with twin := ⟨sensors, journal, rfl⟩, tame := { k.tame with } }
      · exact k.log _ _ _ _
    · exact .pure () k
  rw [prepare]
  split
  · have tagged : Agrees (Kin J J' stage) (Probe.tagAs (some probeTag)) b b' :=
      k.aim (fun _ h => by simp only [h]) (k.tagAs (some probeTag))
    exact tagged.bind fun _ _ _ k => tracker k
  · exact tracker k

/-- **When a fusion has been set up nothing is going on**, and its bench is kin to itself. -/
theorem Tame.atRest (tame : s.Tame) (start : s.setUp = .ok b) : AtRest [] [] b b := by
  obtain ⟨b₀, bare, rfl⟩ := s.exists_of_setUp start
  obtain ⟨_, related⟩ := Alike.of_agrees (s.agrees_prepare (tame.kin_bare bare))
  exact ⟨.initial, related, fun _ => .inr rfl⟩

end Scenario

/-! ### Stopped fusions -/

/-- **A fusion that is stopped in a tame session has nothing pending**, tells nothing, and has no
listener twice. -/
theorem Reached.stopped (h : Reached b) (tame : b.Tame) (blank : b.fusion.Blank) :
    b.clock.pending = [] ∧ b.clock.armed = [] ∧ b.fusion.telling = false
      ∧ b.fusion.listeners.Nodup := by
  have rechecks : b.clock.rechecks = [] := h.tracked.rechecks_eq_nil blank.2.2
  have pending : b.clock.pending = [] := List.eq_nil_iff_forall_not_mem.mpr fun t ht => by
    have mem := Clock.mem_rechecks.mpr ⟨ht, tame.tasks t ht⟩
    rw [rechecks] at mem
    cases mem
  have armed : b.clock.armed = b.clock.pending.map (·.id) := h.prompting.punctual.paired
  have attended : Attended b.view :=
    (Law.ofInvariant Attended.deed).invariant (fun _ p => p.attended) h
  rw [pending] at armed
  exact ⟨pending, armed, h.faithful.telling.trans h.orderly.telling, attended.distinct⟩

/-- A bench is kin to the one on which a new fusion has got to the memory of its own. -/
theorem Sown.kin {J J' : List Note} {stage : Stage}
    (h : Sown b { b.fusion with connected := false } c) (k : Kin J J' stage b b)
    (idle : stage.active = false) (pending : b.clock.pending = []) (armed : b.clock.armed = []) :
    Kin b.journal c.journal { stage with linked' := false, greeting := [] } b c := by
  have clock : { b.clock with pending := [], armed := [] } = b.clock := by
    rw [← pending, ← armed]
  have same := h.same
  have unheard := h.unheard
  obtain ⟨sensors, journal, rfl⟩ := h.twin
  exact { k with
    twin := ⟨sensors, journal, congrArg (fun clock =>
      { b with clock, fusion := { b.fusion with connected := false }, sensors, journal }) clock⟩
    sound :=
      { k.sound with
        working := fun working => absurd working (ne_true_of_eq_false idle)
        later := nofun
        greeting := List.nil_sublist _
        ungreeted := fun _ => rfl }
    same
    heard' := unheard
    echo := ⟨[], [], rfl, rfl⟩ }

/-- **Teardown leaves no residue.** In a scenario in which nothing that a fusion calls calls it
back, some steps are taken after which it is not at work; and all reports come in time. A new
fusion on the same bench is brought to the same listeners, pause, mode and tag. Then

* it remembers the same as the old one, but for having joined its sensors;
* the clocks are the same, and nothing is pending;
* whatever steps are taken after that, they answer the same on both;
* and they note the same, at the same times and in the same order: what the listeners are told,
  how the sensors are called, which timers are set, fire or are cancelled, and what is logged.
  Only what is noted when the new fusion joins its sensors may come on top of that, once. -/
theorem no_residue {s : Scenario} {b₀ : Bench} (tame : s.Tame) (start : s.setUp = .ok b₀)
    {before after : List Step} (ops : ∀ step ∈ before ++ after, step.isTame = true)
    (timely : timely (before ++ after) b₀ = true)
    (stopped : (run before b₀).fusion.active = false) :
    let b := run before b₀
    let b' := run b.bringing b.renewed
    b'.fusion = { b.fusion with connected := false }
      ∧ b'.clock = b.clock ∧ b.clock.pending = []
      ∧ answers after b' = answers after b
      ∧ ∃ greeting, Echo greeting b.journal b'.journal (run after b).journal (run after b').journal
          ∧ (greeting.map (·.entry)).Sublist salutation := by
  rw [timely_append, Bool.and_eq_true] at timely
  obtain ⟨timelyBefore, timelyAfter⟩ := timely
  have reached : Reached (run before b₀) :=
    (Reached.setUp (TargetPlan.target_of_isMute tame.sensors) start).run before
  -- What the first steps come to is kin to itself.
  obtain ⟨⟨stage, k, settled⟩, -⟩ := (tame.atRest start).run
    (fun step hs => ops step (List.mem_append_left _ hs)) timelyBefore
  intro b b'
  have idle : stage.active = false := k.active.symm.trans stopped
  have blank : b.fusion.Blank := k.blank idle
  obtain ⟨pending, armed, quiet, distinct⟩ := reached.stopped k.tame blank
  have sown : Sown b { b.fusion with connected := false } b' := by
    refine Sown.bring k.tame stopped blank quiet ?_ (fun some => ?_) (fun l hl => ?_) distinct
    · rw [k.paused, k.listeners]
      exact settled idle
    · exact k.present (k.listeners ▸ some)
    · exact k.sound.named l (k.listeners ▸ hl)
  have kin := sown.kin k idle pending armed
  obtain ⟨⟨stage', k', -⟩, same⟩ := (show AtRest b.journal b'.journal b b' from
    ⟨_, kin, settled⟩).run (fun step hs => ops step (List.mem_append_right _ hs)) timelyAfter
  refine ⟨sown.fusion, ?_, pending, same, stage'.greeting, k'.echo, k'.sound.greeting⟩
  obtain ⟨sensors, journal, e⟩ := kin.twin
  rw [e]
  rfl

/-- A scenario with two listeners, of which the first one asks whether something is near when it
is first told something, and fails after that. -/
def askingScenario : Scenario :=
  .ofSensors (.standIn true [] []) (.standIn true [] []) [("a", [[.near], [.throwError "no"]])]

/-- Steps that pause a fusion while a recheck is to come. -/
def haltingSteps : List Step :=
  [.join "a", .join "b", .tag (some "door"), .event .primary true none,
    .event .secondary true none, .advance 700, .event .secondary false none, .pause]

/-- Steps that resume it, confirm that something is near after a recheck, and tell that again. -/
def resumingSteps : List Step :=
  [.near, .resume, .event .primary true none, .near, .event .secondary false none, .advance 6000,
    .event .secondary true none, .near, .alert]

theorem no_residue_session :
    let b := run haltingSteps (askingScenario.after [])
    let b' := run b.bringing b.renewed
    (b.fusion.connected = true ∧ b.fusion.active = false
        ∧ (run haltingSteps.dropLast (askingScenario.after [])).fusion.pendingRecheck ≠ none)
      ∧ answers resumingSteps b = [.ok (.near none), .ok .none, .ok .none, .ok (.near none),
          .ok .none, .ok .none, .ok .none, .ok (.near (some true)), .ok .none]
      ∧ answers resumingSteps b' = answers resumingSteps b
      ∧ ∃ greeting, Echo greeting b.journal b'.journal (run resumingSteps b).journal
            (run resumingSteps b').journal
          ∧ (greeting.map (·.entry)).Sublist salutation := by
  have tame : askingScenario.Tame := ⟨rfl, fun _ => by decide +kernel, by decide⟩
  have start : askingScenario.setUp = .ok (askingScenario.after []) := by
    have ok : askingScenario.setUp.isOk = true := by decide +kernel
    rw [Scenario.after]
    cases ready : askingScenario.setUp with
    | error e =>
      rw [ready] at ok
      cases ok
    | ok b => rfl
  have ops : ∀ step ∈ haltingSteps ++ resumingSteps, step.isTame = true := by decide
  obtain ⟨-, -, -, same, greeting⟩ :=
    no_residue tame start ops (by decide +kernel) (by decide +kernel)
  exact ⟨by decide +kernel, by decide +kernel, same, greeting⟩

end Proximity
