import Proximity.Proofs.Plain
import Proximity.Scenario

/-!
# What a fusion can come to

A bench is *reached* (`Proximity.Reached`) if it comes from setting up some scenario
with a fusion and taking some steps. These are the benches that the main results are
about: nothing is assumed about the sensors, the scripts of the listeners and of the
callbacks, the threads, or the order of the steps.

What a law says of a reached bench, it says starting from a pristine view
(`Proximity.Law.holds`).
-/

namespace Proximity

open Act Session

/-- **A bench that some session with a fusion comes to**, when no call is in
progress. -/
inductive Reached : Bench → Prop where
  /-- A scenario has been set up. -/
  | setUp {s : Scenario} {b : Bench} : s.target.target = .fusion → s.setUp = .ok b → Reached b
  /-- A step has been taken. -/
  | take {b : Bench} (step : Step) : Reached b → Reached (Session.take step b).bench

theorem Reached.run {b : Bench} (h : Reached b) (steps : List Step) :
    Reached (Session.run steps b) := by
  induction steps generalizing b with
  | nil => exact h
  | cons step steps ih => exact ih (h.take step)

/-! ### Particular sessions -/

/-- A scenario with a fusion of two sensors that is confined to the calling thread, with
a probe on it, and with listeners that follow scripts. -/
def Scenario.ofSensors (primary secondary : SensorPlan)
    (scripts : List (String × List (List Step))) : Scenario :=
  { env := .ofList [], telemetry := plainTelemetry, startsTracker := false, confines := true
    owner := none, thread := 0, target := .fusion primary (some secondary) (.choice {})
    probe := some (.choice {}), scripts }

/-- The bench after some steps in a scenario that can be set up. -/
def Scenario.after (s : Scenario) (steps : List Step) : Bench :=
  match s.setUp with
  | .ok b => Session.run steps b
  | .error _ => default

/-- A scenario that can be set up is set up to what it is after no steps. -/
theorem Scenario.setUp_eq_after {s : Scenario} (ok : s.setUp.isOk = true) :
    s.setUp = .ok (s.after []) := by
  rw [after]
  cases h : s.setUp with
  | ok b => rfl
  | error e =>
    rw [h] at ok
    cases ok

theorem Scenario.reached_after {s : Scenario} (hs : s.target.target = .fusion)
    (ok : s.setUp.isOk = true) (steps : List Step) : Reached (s.after steps) := by
  rw [after]
  cases h : s.setUp with
  | ok b => exact (Reached.setUp hs h).run steps
  | error e =>
    rw [h] at ok
    cases ok

/-- **The view of a bench on which nothing has happened yet.** -/
structure Pristine (v : View) : Prop where
  /-- The history is empty. -/
  history : v.history = []
  /-- Nobody has used the fusion. -/
  fusion : ∃ recheckDelay, v.fusion = .fresh recheckDelay
  /-- Nobody waits. -/
  waiting : v.waiting = []
  /-- The probe has not asked. -/
  checking : v.checking = false
  /-- It has no timer. -/
  timer : v.timer = none
  /-- No ticket has been given out. -/
  lastTicket : v.lastTicket = 0
  /-- No timer has been set. -/
  clock : v.clock = .start
  /-- The secondary has not been switched off. -/
  rests : v.secondaryRests ≠ some true

/-! ### Setting up -/

/-- Nobody listens to a new sensor, and it has not been switched off. -/
theorem SensorPlan.new_of_make {plan : SensorPlan} {s : Sensor} (h : plan.make = .ok s) :
    s.listeners = [] ∧ s.rests? ≠ some true := by
  cases plan with
  | standIn => cases h; exact ⟨rfl, nofun⟩
  | hysteresis source threshold latch delay confined =>
    rw [make] at h
    cases hb : Band.make threshold (latch.getD threshold) with
    | error e => rw [hb] at h; cases h
    | ok band => rw [hb] at h; cases h; exact ⟨rfl, nofun⟩
  | absent => cases h; exact ⟨rfl, nofun⟩
  | unplanned => cases h

/-- The sensors of a fusion are new, and there is no third one. -/
theorem TargetPlan.makeSensors_fusion {plan : TargetPlan} {sensors : Sensors}
    (hp : plan.target = .fusion) (h : plan.makeSensors = .ok sensors) :
    sensors.sole = .unplanned
      ∧ ∀ role, (sensors.get role).listeners = [] ∧ (sensors.get role).rests? ≠ some true := by
  cases plan with
  | fusion primary secondary request =>
    rw [makeSensors] at h
    cases first : primary.make with
    | error e => rw [first] at h; cases h
    | ok p =>
      rw [first] at h
      have unplanned : Sensor.unplanned.listeners = [] ∧ Sensor.unplanned.rests? ≠ some true :=
        ⟨rfl, nofun⟩
      have second : ∀ q, (secondary.map SensorPlan.make).getD (.ok .unplanned) = .ok q →
          q.listeners = [] ∧ q.rests? ≠ some true := by
        intro q hq
        cases secondary with
        | none => cases hq; exact unplanned
        | some plan => exact SensorPlan.new_of_make hq
      cases hq : (secondary.map SensorPlan.make).getD (.ok .unplanned) with
      | error e => rw [hq] at h; cases h
      | ok q =>
        rw [hq] at h
        cases h
        refine ⟨rfl, fun role => ?_⟩
        cases role with
        | primary => exact SensorPlan.new_of_make first
        | secondary => exact second q hq
        | sole => exact unplanned
  | sensor => cases hp
  | timers => cases hp
  | nothing => cases hp

namespace Scenario

variable {s : Scenario} {b : Bench}

/-- **The bench before anything is done on it.** -/
theorem eq_of_bare (h : s.bare = .ok b) :
    ∃ sensors recheckDelay patience, s.target.makeSensors = .ok sensors
      ∧ b = { target := s.target.target
              owner := if s.confines then some (s.owner.getD s.thread) else none
              threshold := s.telemetry.threshold, tracking := false, thread := s.thread
              clock := .start, sensors, fusion := .fresh recheckDelay, probe := .fresh patience
              probed := s.probe.isSome, scripts := s.scripts, handles := [], journal := [] } := by
  rw [bare] at h
  cases sensors : s.target.makeSensors with
  | error e => rw [sensors] at h; cases h
  | ok sensors' =>
    rw [sensors] at h
    cases delay : s.target.recheckDelay s.env with
    | error e => rw [delay] at h; cases h
    | ok delay' =>
      rw [delay] at h
      cases patience : s.probePatience with
      | error e => rw [patience] at h; cases h
      | ok patience' =>
        rw [patience] at h
        exact ⟨sensors', delay', patience', rfl, (Except.ok.inj h).symm⟩

theorem bare_fusion (hs : s.target.target = .fusion) (h : s.bare = .ok b) :
    Wired b ∧ Pristine b.view := by
  obtain ⟨sensors, delay, patience, made, rfl⟩ := eq_of_bare h
  obtain ⟨sole, new⟩ := TargetPlan.makeSensors_fusion hs made
  refine ⟨⟨hs, sole, rfl, fun role l hl => ?_, fun t ht => ?_⟩, ?_⟩
  · rw [(new role).1] at hl
    exact absurd hl List.not_mem_nil
  · exact absurd ht List.not_mem_nil
  · exact ⟨rfl, ⟨_, rfl⟩, rfl, rfl, rfl, rfl, rfl, (new .secondary).2⟩

/-- Whoever calls first calls from the owner's thread, if there is one. -/
theorem onThread_of_bare (home : s.confines = true → s.thread.same (s.owner.getD s.thread) = true)
    (h : s.bare = .ok b) : OnThread b := by
  obtain ⟨sensors, delay, patience, -, rfl⟩ := eq_of_bare h
  intro owner e
  cases confines : s.confines with
  | false => simp [confines] at e
  | true =>
    rw [← show s.owner.getD s.thread = owner by simpa [confines] using e]
    exact home confines

/-- A bench is set up by what is done on it before the first step. -/
theorem exists_of_setUp (h : s.setUp = .ok b) :
    ∃ b₀, s.bare = .ok b₀ ∧ b = Act.after s.prepare b₀ := by
  rw [setUp] at h
  cases bare : s.bare with
  | error e => rw [bare] at h; cases h
  | ok b₀ =>
    rw [bare] at h
    exact ⟨b₀, rfl, (Except.ok.inj h).symm⟩

/-- **Starting the error tracker** is to note its calls, or that there is none, and to remember that
it has been started. -/
theorem yields_startTracker (m : Telemetry) {P : Bench → Prop} (p : P b)
    (calls : ∀ b call, P b → P (noted b (.tracked call)))
    (records : ∀ b origin message metadata, P b →
      P (noted b (.logged .debug origin message metadata)))
    (started : ∀ b, P b → P { b with tracking := true }) :
    Yields (startTracker m) b fun _ => P := by
  rw [startTracker]
  split
  · refine .bind (.forM _ (fun call _ b p => ⟨_, _, exec_note _ b, calls b call p⟩) p) ?_
    exact fun _ b p => ⟨_, _, exec_modify _ b, started b p⟩
  · refine ⟨_, _, exec_log _ _ _ _ b, ?_⟩
    split
    · exact records b _ _ _ p
    · exact p

end Scenario

variable {R : View → View → Prop} {b : Bench}

namespace Law

/-- What is done before the first step respects every law. -/
theorem keeps_prepare (L : Law R) (s : Scenario) : Keeps R s.prepare := by
  have tracker : Keeps R (if s.startsTracker then Scenario.startTracker s.telemetry else pure ()) := by
    split
    · rw [Scenario.startTracker]
      split
      · refine L.bind (L.forM _ fun call _ => L.unseen fun _ => ⟨(), ends_note rfl⟩) fun _ => ?_
        exact L.unseen fun _ => ⟨_, _, rfl, rfl, List.suffix_rfl,
          fun h => ⟨h.target, h.sole, h.handles, h.listeners, h.tasks⟩, rfl, rfl⟩
      · exact L.unseen fun _ => ⟨(), ends_log (by decide) _ _ _⟩
    · exact L.pure ()
  rw [Scenario.prepare]
  split
  · refine L.bind (keeps_aimed (L.keeps_fusionTag (some Scenario.probeTag)) fun b hb => ?_)
      fun _ => tracker
    rw [Probe.tagAs, Target.tagAs, exec_bind_of_ok (exec_get b), hb]
  · exact tracker

/-- **What a law says of a step.** Calls go as deep as the step needs, and a law holds at every
depth. -/
theorem leads_take (L : Law R) (w : Wired b) (step : Step) :
    Wired (Session.take step b).bench ∧ R b.view (Session.take step b).bench.view := by
  have taken := L.keeps_perform (L.reacts (depth b step)) step b w
  exact ⟨taken.wired, taken.related⟩

/-- What a law says of some steps. -/
theorem leads_steps (L : Law R) (w : Wired b) (steps : List Step) :
    Wired (Session.run steps b) ∧ R b.view (Session.run steps b).view := by
  induction steps generalizing b with
  | nil => exact ⟨w, L.refl _⟩
  | cons step steps ih =>
    obtain ⟨w₁, r₁⟩ := L.leads_take w step
    obtain ⟨w₂, r₂⟩ := ih w₁
    exact ⟨w₂, L.trans r₁ r₂⟩

/-- **What a law says of a reached bench.** Whatever session comes to it started from
a pristine view. The induction is on the steps taken. -/
theorem holds (L : Law R) (h : Reached b) : Wired b ∧ ∃ v, Pristine v ∧ R v b.view := by
  induction h with
  | @setUp s b hs h =>
    obtain ⟨b₀, bare, rfl⟩ := s.exists_of_setUp h
    -- The tag of the probe and the tracker come before the first step, and obey the law, too.
    obtain ⟨w, pristine⟩ := s.bare_fusion hs bare
    have prepared := L.keeps_prepare s b₀ w
    exact ⟨prepared.wired, b₀.view, pristine, prepared.related⟩
  | @take b step _ ih =>
    obtain ⟨w, v, pristine, r⟩ := ih
    obtain ⟨w', r'⟩ := L.leads_take w step
    exact ⟨w', v, pristine, L.trans r r'⟩

/-- A property that is a law and holds of all pristine views holds of what is
reached. -/
theorem invariant {P : View → Prop} (L : Law fun v v' => P v → P v')
    (start : ∀ v, Pristine v → P v) (h : Reached b) : P b.view := by
  obtain ⟨-, v, pristine, r⟩ := L.holds h
  exact r (start v pristine)

end Law

/-- Nobody has used a new fusion, and the history says nothing else. -/
theorem Pristine.faithful {v : View} (p : Pristine v) : Faithful v := by
  obtain ⟨delay, fusion⟩ := p.fusion
  constructor <;> rw [fusion, p.history] <;> rfl

/-- **The memory of a fusion is faithful to the history wherever one gets.** -/
theorem Reached.faithful (h : Reached b) : Faithful b.view :=
  law_faithful.invariant (fun _ p => p.faithful) h

end Proximity
