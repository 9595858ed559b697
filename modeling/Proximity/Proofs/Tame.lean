import Proximity.Proofs.Stretch

/-!
# Tame benches

The environment of a fusion is *tame* (`Proximity.Bench.Tame`) if nothing that it calls calls it
back: its sensors report at times of their own and never from inside a call, its listeners may
ask it things and may fail but make it do nothing, and all calls come from its owner's thread.

On a tame bench a sensor does no more than write down how it is called, and remember whether it
is switched on and who listens to it (`Proximity.Bench.commanded`). So what joining the sensors
does, which a fusion does only once, can be said in full (`Proximity.exec_connect`).
-/

namespace Proximity

open Act Session

variable {b : Bench}

/-! ### Steps and sensors -/

namespace Step

/-- **Whether a step makes nothing happen** on a bench with a fusion: it only asks, or it fails,
or it is not meant for such a bench. -/
def isHarmless : Step → Bool
  | .near | .flags | .text | .sample _ _ _ | .assertOwner => true
  | .schedule _ _ _ _ | .cancel _ _ | .active _ => true
  | .throwError _ | .throwValue _ => true
  | _ => false

/-- **Whether a step is a call of a fusion, a report of a sensor, or time that passes.** The
probe is left out, and so are calls from other threads. -/
def isTame : Step → Bool
  | .join _ | .leave _ | .pause | .resume | .alert | .tag _ | .delay _ | .safe _ => true
  | .event _ _ _ | .advance _ => true
  | step => step.isHarmless

end Step

/-- A stand-in with one more listener. -/
def StandIn.heardBy (l : Listener) (s : StandIn) : StandIn :=
  { s with listeners := l.addTo s.listeners }

/-- A stand-in that is switched on or off. -/
def StandIn.switched (paused : Bool) (s : StandIn) : StandIn := { s with paused }

namespace Sensor

/-- **Whether a sensor never reports from inside a call**: a stand-in that is told to report
nothing then, or no sensor at all. -/
def isMute : Sensor → Bool
  | standIn s => s.onResume.isEmpty && s.onJoin.isEmpty
  | absent | unplanned => true
  | hysteresis _ => false

/-- A stand-in as nobody has used it yet, but for the reports that it has numbered. -/
def renewed : Sensor → Sensor
  | standIn s => standIn { s with paused := false, listeners := [] }
  | other => other

/-- What is written down of a call of a sensor: a stand-in writes it down. -/
def records (s : Sensor) (role : Role) (c : Command) : List Entry :=
  match s with
  | standIn _ => [.commanded role c]
  | _ => []

/-- **Whether the fusion listens to a sensor at a place just if it is linked.** A stand-in has
nobody else to listen. -/
def Heard (role : Role) (linked : Bool) (s : Sensor) : Prop :=
  ∀ t, s = .standIn t → t.listeners = if linked then [.fusion role] else []

theorem available_renewed (s : Sensor) : s.renewed.available = s.available := by
  cases s <;> rfl

theorem isMute_renewed (s : Sensor) : s.renewed.isMute = s.isMute := by
  cases s <;> rfl

theorem records_renewed (s : Sensor) (role : Role) (c : Command) :
    s.renewed.records role c = s.records role c := by
  cases s <;> rfl

/-- A stand-in that is as another one when new has as little to report from inside a call. -/
theorem isMute_of_renewed {s t : Sensor} (h : s.renewed = t.renewed) : s.isMute = t.isMute := by
  rw [← isMute_renewed s, h, isMute_renewed]

theorem available_of_renewed {s t : Sensor} (h : s.renewed = t.renewed) :
    s.available = t.available := by
  rw [← available_renewed s, h, available_renewed]

theorem records_of_renewed {s t : Sensor} (h : s.renewed = t.renewed) (role : Role)
    (c : Command) : s.records role c = t.records role c := by
  rw [← records_renewed s, h, records_renewed]

/-- Only a stand-in can be another sensor than it is when new. -/
theorem eq_of_renewed {s t : Sensor} (h : s.renewed = t) (ht : ∀ u, t ≠ .standIn u) : s = t := by
  cases s with
  | standIn s => exact absurd h.symm (ht _)
  | _ => exact h

/-- Sensors that are the same when new stay so when they change in the same way. -/
theorem renewed_mapStandIn {g : StandIn → StandIn}
    (hg : ∀ t u, (standIn t).renewed = (standIn u).renewed →
      (standIn (g t)).renewed = (standIn (g u)).renewed)
    {s t : Sensor} (h : s.renewed = t.renewed) :
    (s.mapStandIn g).renewed = (t.mapStandIn g).renewed := by
  cases s with
  | standIn s =>
    cases t with
    | standIn t => exact hg s t h
    | _ => cases h
  | _ =>
    cases t with
    | standIn t => cases h
    | _ => exact h

theorem renewed_switched (paused : Bool) (s : Sensor) :
    (s.mapStandIn (.switched paused)).renewed = s.renewed := by
  cases s <;> rfl

theorem records_mapStandIn (s : Sensor) (g : StandIn → StandIn) (role : Role) (c : Command) :
    (s.mapStandIn g).records role c = s.records role c := by
  cases s <;> rfl

theorem unrest_of_isMute {s : Sensor} (mute : s.isMute = true) : Bench.sensorUnrest s = 0 := by
  cases s with
  | standIn s => simp_all [isMute, Bench.sensorUnrest]
  | hysteresis => cases mute
  | absent | unplanned => rfl

end Sensor

/-- What a change makes of the sensor that is there is all that counts. -/
theorem Sensors.modify_congr {s : Sensors} {role : Role} {f g : Sensor → Sensor}
    (h : f (s.get role) = g (s.get role)) : s.modify role f = s.modify role g := by
  cases role <;> simp_all [modify, get]

theorem Sensors.modify_eq_self {s : Sensors} {role : Role} {f : Sensor → Sensor}
    (h : f (s.get role) = s.get role) : s.modify role f = s := by
  rw [modify_congr (show f (s.get role) = id (s.get role) from h)]
  cases role <;> rfl

/-- What a stand-in keeps when it changes is kept at every place. -/
theorem Sensors.get_mapStandIn {s : Sensors} {role other : Role} {g : StandIn → StandIn}
    {P : Role → Sensor → Prop} (hP : ∀ other t, P other (.standIn t) → P other (.standIn (g t)))
    (h : P other (s.get other)) : P other ((s.modify role (·.mapStandIn g)).get other) := by
  by_cases e : other = role
  · subst e
    rw [get_modify_self]
    cases e : s.get other with
    | standIn t => exact hP other t (e ▸ h)
    | _ =>
      rw [e] at h
      exact h
  · rwa [get_modify_of_ne _ _ e]

/-- Sensors that are the same when new stay so when one of each changes in the same way. -/
theorem Sensors.renewed_mapStandIn {s t : Sensors} {role : Role} {g : StandIn → StandIn}
    (hg : ∀ t u, (Sensor.standIn t).renewed = (Sensor.standIn u).renewed →
      (Sensor.standIn (g t)).renewed = (Sensor.standIn (g u)).renewed)
    (h : ∀ other, (s.get other).renewed = (t.get other).renewed) (other : Role) :
    ((s.modify role (·.mapStandIn g)).get other).renewed
      = ((t.modify role (·.mapStandIn g)).get other).renewed := by
  by_cases e : other = role
  · subst e
    rw [get_modify_self, get_modify_self]
    exact Sensor.renewed_mapStandIn hg (h other)
  · rw [get_modify_of_ne _ _ e, get_modify_of_ne _ _ e, h other]

/-! ### Tame benches -/

/-- **A bench on which nothing that a fusion calls calls it back.** -/
structure Bench.Tame (b : Bench) : Prop where
  /-- The steps from outside are aimed at the fusion. -/
  target : b.target = .fusion
  /-- The owner's thread calls. -/
  thread : OnThread b
  /-- There is no third sensor. -/
  sole : b.sensors.sole = .unplanned
  /-- No sensor reports from inside a call. -/
  mute : ∀ role, (b.sensors.get role).isMute = true
  /-- Whatever the listeners do at their calls makes nothing happen. -/
  scripts : ∀ s ∈ b.scripts, ∀ script ∈ s.2, ∀ step ∈ script, step.isHarmless = true
  /-- There are no tasks from outside. -/
  handles : b.handles = []
  /-- Only the fusion puts tasks off. -/
  tasks : ∀ t ∈ b.clock.pending, t.task = .recheck

/-- Sensors that are the same when new are as mute, and there is no third one among them,
either. -/
theorem Bench.Tame.sensors (t : b.Tame) {sensors : Sensors}
    (same : ∀ role, (sensors.get role).renewed = (b.sensors.get role).renewed) :
    sensors.sole = .unplanned ∧ ∀ role, (sensors.get role).isMute = true :=
  ⟨Sensor.eq_of_renewed ((same .sole).trans (congrArg _ t.sole)) nofun,
    fun role => (Sensor.isMute_of_renewed (same role)).trans (t.mute role)⟩

/-! ### Tame sessions -/

/-- **Whether a report comes in time**: if the sensor has the fusion as a listener, the fusion is
at work. -/
def Step.isTimely (b : Bench) : Step → Bool
  | .event role _ _ => b.fusion.active || !((b.sensors.get role).listeners.contains (.fusion role))
  | _ => true

namespace Session

/-- Whether all reports among some steps come in time. -/
def timely : List Step → Bench → Bool
  | [], _ => true
  | step :: rest, b => step.isTimely b && timely rest (take step b).bench

/-- **What some steps answer**, but for texts. -/
def answers : List Step → Bench → List (Except Fault Answer)
  | [], _ => []
  | step :: rest, b =>
    let others := answers rest (take step b).bench
    match step with
    | .text => others
    | _ => (take step b).answer :: others

theorem timely_append (first rest : List Step) (b : Bench) :
    timely (first ++ rest) b = (timely first b && timely rest (run first b)) := by
  induction first generalizing b with
  | nil => rfl
  | cons step first ih =>
    rw [List.cons_append, timely, timely, ih, Bool.and_assoc]
    rfl

end Session

/-! ### Harmless steps -/

/-- **What a harmless step answers** on a tame bench, or how it fails there. -/
def Step.reply (b : Bench) : Step → Except Fault Answer
  | .near => .ok (.near (Fusion.near b))
  | .flags =>
    let s := Fusion.snapshot b
    .ok (.flags b.sensors.primary.available s.active s.paused s.safe)
  | .text => .ok (.text (Target.text b))
  | .assertOwner =>
    if b.owner.isNone then .error (.missing "undefined" "assertIsMainThread") else .ok .none
  | .schedule _ _ _ _ => .error (.notCallable ("target." ++ "scheduleAfterDelay"))
  | .cancel _ false => .error (.notCallable ("target." ++ "cancel"))
  | .cancel _ true => .error (.missing "undefined" "cancel")
  | .active _ => .error (.missing "undefined" "isActive")
  | .throwError message => .error (.error message)
  | .throwValue value => .error (.value value)
  | _ => .ok .none

/-- **What is harmless leaves a tame bench as it is.** -/
theorem exec_harmless (tame : b.Tame) (call : Reactor) {step : Step}
    (harmless : step.isHarmless = true) : exec (perform call step) b = (step.reply b, b) := by
  have refused : ∀ name, exec (Target.refuse name : Act Answer) b
      = (.error (.notCallable ("target." ++ name)), b) := fun name =>
    (exec_bind_of_ok (exec_get b)).trans (by rw [tame.target]; rfl)
  have lost : ∀ name call, exec (handle name call) b = (.error (.missing "undefined" call), b) :=
    fun name call => (exec_bind_of_ok (exec_get b)).trans (by rw [tame.handles]; rfl)
  cases step with
  | near | flags => exact (exec_bind_of_ok (exec_get b)).trans (by rw [tame.target]; rfl)
  | schedule =>
    exact (exec_bind_of_ok (exec_get b)).trans (by rw [tame.target]; exact refused _)
  | sample role sample late =>
    have mute := tame.mute role
    have unheard : exec (Sensor.deliver call role sample late) b = (.ok (), b) := by
      refine (exec_bind_of_ok (exec_getSensor role b)).trans ?_
      cases e : b.sensors.get role with
      | hysteresis h => rw [e] at mute; cases mute
      | _ => rfl
    exact exec_bind_of_ok unheard
  | assertOwner =>
    refine (exec_bind_of_ok (exec_get b)).trans ?_
    rw [Step.reply]
    split
    · rfl
    · exact exec_bind_of_ok (exec_assertOwner tame.thread)
  | cancel name direct =>
    cases direct with
    | false => exact (exec_bind_of_ok (exec_get b)).trans (by rw [tame.target]; exact refused _)
    | true => exact exec_bind_of_error (lost name "cancel")
  | active name => exact exec_bind_of_error (lost name "isActive")
  | _ => first | rfl | cases harmless

/-! ### Calls of sensors -/

/-- **A bench on which a sensor was called**, and has changed as a stand-in. -/
def Bench.commanded (b : Bench) (role : Role) (c : Command) (g : StandIn → StandIn) : Bench :=
  { b with
    sensors := b.sensors.modify role (·.mapStandIn g)
    journal := ((b.sensors.get role).records role c).map (⟨b.clock.now, ·⟩) ++ b.journal }

/-- Where there is no stand-in, a call makes nothing happen. -/
theorem Bench.commanded_of_none {role : Role} (h : ∀ t, b.sensors.get role ≠ .standIn t)
    (c : Command) (g : StandIn → StandIn) : b.commanded role c g = b := by
  have fixed : (b.sensors.get role).mapStandIn g = b.sensors.get role := by
    cases e : b.sensors.get role with
    | standIn t => exact absurd e (h t)
    | _ => rfl
  have silent : (b.sensors.get role).records role c = [] := by
    cases e : b.sensors.get role with
    | standIn t => exact absurd e (h t)
    | _ => rfl
  rw [commanded, Sensors.modify_eq_self fixed, silent]
  rfl

/-- Noting something leaves a stand-in as it is. -/
theorem exec_standInGet_noted {role : Role} {s : StandIn} (h : b.sensors.get role = .standIn s)
    (entry : Entry) : exec (StandIn.get role) (noted b entry) = (.ok s, noted b entry) := by
  rw [exec_standInGet, show (noted b entry).sensors = b.sensors from rfl, h]
  rfl

section Calls

variable {role : Role} (call : Reactor) (mute : (b.sensors.get role).isMute = true)
include mute

/-- **A mute sensor is called.** A stand-in writes that down and changes; where there is none,
nothing happens. -/
theorem exec_sensorCall {f : Sensor → Act Unit} {c : Command} {g : StandIn → StandIn}
    (there : ∀ s, b.sensors.get role = .standIn s → exec (f (.standIn s)) b
      = (.ok (), { noted b (.commanded role c) with
          sensors := b.sensors.modify role (·.mapStandIn g) }))
    (gone : f .absent = pure () ∧ f .unplanned = pure ()) :
    exec (Bench.getSensor role >>= f) b = (.ok (), b.commanded role c g) := by
  refine (exec_bind_of_ok (exec_getSensor role b)).trans ?_
  cases e : b.sensors.get role with
  | standIn s =>
    rw [there s e, Bench.commanded, e]
    rfl
  | hysteresis h =>
    rw [e] at mute
    cases mute
  | absent => rw [gone.1, Bench.commanded_of_none (by rw [e]; nofun), exec_pure]
  | unplanned => rw [gone.2, Bench.commanded_of_none (by rw [e]; nofun), exec_pure]

/-- A mute sensor is switched off. -/
theorem exec_sensorPause :
    exec (Sensor.pause call role) b = (.ok (), b.commanded role .pause (.switched true)) :=
  exec_sensorCall mute (fun _ _ => rfl) ⟨rfl, rfl⟩

/-- A mute sensor is switched on, and reports nothing. -/
theorem exec_sensorResume :
    exec (Sensor.resume call role) b = (.ok (), b.commanded role .resume (.switched false)) := by
  refine exec_sensorCall mute (fun s e => ?_) ⟨rfl, rfl⟩
  rw [e] at mute
  obtain ⟨nothing, -⟩ : s.onResume = [] ∧ s.onJoin = [] := by simpa [Sensor.isMute] using mute
  refine (exec_bind_of_ok (exec_note _ b)).trans ?_
  refine (exec_bind_of_ok (exec_standInGet_noted e _)).trans ?_
  rw [nothing]
  refine (exec_bind_of_ok (exec_modifySensor role _ _)).trans ?_
  have changed : b.sensors.modify role (·.mapStandIn fun s =>
        { s with paused := false, onResume := s.onResume.tail })
      = b.sensors.modify role (·.mapStandIn (.switched false)) :=
    Sensors.modify_congr (by simp [e, Sensor.mapStandIn, StandIn.switched, nothing])
  rw [← changed]
  rfl

/-- A mute sensor takes a listener, and reports nothing. -/
theorem exec_sensorJoin (l : Listener) :
    exec (Sensor.join call role l) b = (.ok (), b.commanded role .join (.heardBy l)) := by
  refine exec_sensorCall mute (fun s e => ?_) ⟨rfl, rfl⟩
  rw [e] at mute
  obtain ⟨-, nothing⟩ : s.onResume = [] ∧ s.onJoin = [] := by simpa [Sensor.isMute] using mute
  refine (exec_bind_of_ok (exec_note _ b)).trans ?_
  refine (exec_bind_of_ok (exec_standInGet_noted e _)).trans ?_
  rw [nothing]
  refine (exec_bind_of_ok (exec_modifySensor role _ _)).trans ?_
  have changed : b.sensors.modify role (·.mapStandIn fun s =>
        { s with listeners := l.addTo s.listeners, onJoin := s.onJoin.tail })
      = b.sensors.modify role (·.mapStandIn (.heardBy l)) :=
    Sensors.modify_congr (by simp [e, Sensor.mapStandIn, StandIn.heardBy, nothing])
  rw [← changed]
  rfl

theorem exec_sensorTagAs (text : Option String) :
    exec (Sensor.tagAs role text) b = (.ok (), b.commanded role (.tag text) id) :=
  exec_sensorCall mute (fun _ e => by rw [Sensors.modify_eq_self (by rw [e]; rfl)]; rfl) ⟨rfl, rfl⟩

theorem exec_sensorRetime (delay : Number) :
    exec (Sensor.retime call role delay) b = (.ok (), b.commanded role (.delay delay) id) :=
  exec_sensorCall mute (fun _ e => by rw [Sensors.modify_eq_self (by rw [e]; rfl)]; rfl) ⟨rfl, rfl⟩

end Calls

/-! ### Joining the sensors -/

/-- **What is noted when a fusion joins its sensors**, the latest first. -/
def Bench.greeting (b : Bench) : List Note :=
  (b.sensors.secondary.records .secondary .join ++ .turned .readied ::
    ((if b.fusion.safe then [] else b.sensors.secondary.records .secondary .pause)
      ++ b.sensors.primary.records .primary .join)).map (⟨b.clock.now, ·⟩)

/-- **A bench whose fusion has joined its sensors.** -/
def Bench.greeted (b : Bench) : Bench :=
  { b with
    fusion := { b.fusion with connected := true }
    sensors :=
      { b.sensors with
        primary := b.sensors.primary.mapStandIn (.heardBy (.fusion .primary))
        secondary :=
          (if b.fusion.safe then b.sensors.secondary
            else b.sensors.secondary.mapStandIn (.switched true)).mapStandIn
              (.heardBy (.fusion .secondary)) }
    journal := b.greeting ++ b.journal }

/-- Joining its sensors leaves them as they are when new. -/
theorem Bench.renewed_greeted (b : Bench) (role : Role) :
    (b.greeted.sensors.get role).renewed = (b.sensors.get role).renewed := by
  have heard : ∀ (l : Listener) (s : Sensor), (s.mapStandIn (.heardBy l)).renewed = s.renewed :=
    fun l s => by cases s <;> rfl
  cases role with
  | primary => exact heard _ _
  | secondary =>
    refine (heard _ _).trans ?_
    split
    · rfl
    · exact Sensor.renewed_switched true _
  | sole => rfl

/-- A fusion that has joined its sensors listens to them. -/
theorem Bench.heard_greeted (heard : ∀ role, (b.sensors.get role).Heard role false)
    (sole : b.sensors.sole = .unplanned) (role : Role) :
    (b.greeted.sensors.get role).Heard role true := by
  have joins : ∀ role s, Sensor.Heard role false s →
      (s.mapStandIn (.heardBy (.fusion role))).Heard role true := fun role s h t e => by
    cases s with
    | standIn s =>
      cases e
      rw [StandIn.heardBy, h s rfl]
      rfl
    | _ => cases e
  have switched : ∀ role s, Sensor.Heard role false s →
      (s.mapStandIn (.switched true)).Heard role false := fun role s h t e => by
    cases s with
    | standIn s =>
      cases e
      exact h s rfl
    | _ => cases e
  cases role with
  | primary => exact joins .primary _ (heard .primary)
  | secondary =>
    refine joins .secondary _ ?_
    split
    · exact heard .secondary
    · exact switched .secondary _ (heard .secondary)
  | sole =>
    intro t e
    cases sole.symm.trans e

/-- The entries of a greeting, the latest first, if both sensors write them down and the
secondary is switched off. -/
def salutation : List Entry :=
  [.commanded .secondary .join, .turned .readied, .commanded .secondary .pause,
    .commanded .primary .join]

/-- Nothing is in a greeting but that. -/
theorem Bench.greeting_sublist (b : Bench) :
    (b.greeting.map (·.entry)).Sublist salutation := by
  have written : ∀ (s : Sensor) (role : Role) (c : Command),
      (s.records role c).Sublist [.commanded role c] := fun s role c => by
    cases s with
    | standIn s => exact .refl _
    | _ => exact List.nil_sublist _
  have entries : b.greeting.map (·.entry) = b.sensors.secondary.records .secondary .join
      ++ ([.turned .readied] ++ ((if b.fusion.safe then []
        else b.sensors.secondary.records .secondary .pause)
          ++ b.sensors.primary.records .primary .join)) := by
    rw [greeting, List.map_map]
    exact List.map_id _
  have pause : (if b.fusion.safe then [] else b.sensors.secondary.records .secondary .pause).Sublist
      [.commanded .secondary .pause] := by
    split
    · exact List.nil_sublist _
    · exact written _ _ _
  rw [entries]
  exact (written _ _ _).append ((List.Sublist.refl _).append (pause.append (written _ _ _)))

/-- The secondary is readied, which leaves it as mute as it was. -/
theorem exec_ready (call : Reactor) (mute : b.sensors.secondary.isMute = true) :
    exec (Fusion.ready call) b
      = (.ok (), noted (if b.fusion.safe then b
          else b.commanded .secondary .pause (.switched true)) (.turned .readied)) := by
  refine (exec_bind_of_ok (exec_getFusion b)).trans ?_
  cases b.fusion.safe with
  | true => rfl
  | false => exact exec_bind_of_ok (exec_sensorPause call mute)

/-- **A fusion joins its sensors.** -/
theorem exec_connect (call : Reactor) (mute : ∀ role, (b.sensors.get role).isMute = true) :
    exec (Fusion.connect call) b = (.ok (), b.greeted) := by
  refine (exec_bind_of_ok (exec_sensorJoin call (mute .primary) _)).trans ?_
  have mute₁ : (b.commanded .primary .join
      (.heardBy (.fusion .primary))).sensors.secondary.isMute = true := mute .secondary
  refine (exec_bind_of_ok (exec_ready call mute₁)).trans ?_
  have mute₂ : ∀ b' : Bench, b'.sensors.secondary.renewed = b.sensors.secondary.renewed →
      (b'.sensors.get .secondary).isMute = true := fun b' h =>
    (Sensor.isMute_of_renewed h).trans (mute .secondary)
  rw [show (b.commanded .primary .join (.heardBy (.fusion .primary))).fusion = b.fusion from rfl]
  cases safe : b.fusion.safe with
  | true =>
    refine (exec_bind_of_ok (exec_sensorJoin call ?_ _)).trans ?_
    · exact mute₂ _ rfl
    refine (exec_modifyFusion _ _).trans ?_
    simp [Bench.commanded, Bench.greeted, Bench.greeting, safe, noted, Sensors.modify, Sensors.get]
  | false =>
    refine (exec_bind_of_ok (exec_sensorJoin call ?_ _)).trans ?_
    · exact mute₂ _ (Sensor.renewed_switched true _)
    refine (exec_modifyFusion _ _).trans ?_
    simp [Bench.commanded, Bench.greeted, Bench.greeting, safe, noted, Sensors.modify, Sensors.get,
      Sensor.records_mapStandIn]

/-- **A fusion makes its sensors report.** It joins them before that, if it has not done so. -/
theorem exec_rouse (call : Reactor) (mute : ∀ role, (b.sensors.get role).isMute = true) :
    exec (Fusion.rouse call) b = exec (do
        Fusion.logAbout "Registering sensor listener"
        Sensor.resume call .primary) (if b.fusion.connected then b else b.greeted) := by
  refine (exec_bind_of_ok (exec_getFusion b)).trans ?_
  cases b.fusion.connected with
  | true => rfl
  | false => exact exec_bind_of_ok (exec_connect call mute)

end Proximity
