import Proximity.Proofs.Sampling

/-!
# The subscriptions of a sensor balance

A bench with one hysteresis sensor is set up, and steps are taken that call the sensor or
deliver it samples; its listeners do the same when they are called, from inside whatever call
makes them be called. The main statement is `Proximity.subscriptions_balance`: every step
succeeds, and after any number of steps the books of the sensor balance
(`Proximity.Balanced`).

The steps of the listeners are treated like those from outside, one level further down
(`Proximity.calls_react`).
-/

namespace Proximity

open Act Session

variable {b : Bench} {flights : List Flight} {h : Hysteresis}

/-! ### Steps -/

theorem Alone.sole (a : Alone h b) : exec (Bench.getSensor .sole) b = (.ok (.hysteresis h), b) := by
  rw [exec_getSensor, a.sensors]
  rfl

namespace Calls

variable {call : Reactor}

/-- What answers nothing need not be looked at. -/
theorem yields_quietly {act : Act Unit} (y : Yields act b fun _ => Accounted flights) :
    Yields (quietly act) b fun _ => Accounted flights :=
  y.bind fun _ _ s => .pure s

/-- A delay is given, and nothing is written about that. -/
theorem yields_delay (C : Calls call) (delay : Number) (s : Accounted flights b) :
    Yields (perform call (.delay delay)) b fun _ => Accounted flights := by
  obtain ⟨h, a, -⟩ := id s
  refine .bind (P := fun _ => Accounted flights) (.step (exec_get b) ?_) fun _ b₁ s₁ => ?_
  · rw [a.target]
    exact .step a.sole (C.yields_retime delay s)
  · obtain ⟨h₁, a₁, -⟩ := id s₁
    refine .step (exec_get b₁) (.step (exec_get b₁) ?_)
    rw [a₁.target, a₁.sensors]
    exact .pure s₁

/-- A sample is delivered to the sensor, or to a place without one. -/
theorem yields_sample (C : Calls call) (role : Role) (sample : Sample) (late : Bool)
    (s : Accounted flights b) :
    Yields (Sensor.deliver call role sample late) b fun _ => Accounted flights := by
  obtain ⟨h, a, -⟩ := id s
  refine .step (exec_getSensor role b) ?_
  rw [a.sensors]
  cases role with
  | sole => exact C.yields_deliver sample late s
  | primary | secondary => exact .pure s

/-- **A step is taken.** -/
theorem yields_perform (C : Calls call) {step : Step} (calls : step.isSensorCall = true)
    (s : Accounted flights b) : Yields (perform call step) b fun _ => Accounted flights := by
  obtain ⟨h, a, -⟩ := id s
  cases step with
  | delay delay => exact C.yields_delay delay s
  | sample role sample late => exact yields_quietly (C.yields_sample role sample late s)
  | join name =>
    refine yields_quietly (.step (exec_get b) ?_)
    rw [a.target]
    exact .step a.sole (C.yields_join name s)
  | leave name =>
    refine yields_quietly (.step (exec_get b) ?_)
    rw [a.target]
    exact .step a.sole (C.yields_leave (.named name) s)
  | pause =>
    refine yields_quietly (.step (exec_get b) ?_)
    rw [a.target]
    exact .step a.sole (C.yields_pause s)
  | resume =>
    refine yields_quietly (.step (exec_get b) ?_)
    rw [a.target]
    exact .step a.sole (C.yields_resume s)
  | _ => cases calls

end Calls

/-- The script that a listener follows at its next call only calls the sensor. -/
theorem yields_nextScript (name : String) (s : Accounted flights b) :
    Yields (nextScript name) b fun script b' =>
      Accounted flights b' ∧ ∀ step ∈ script, step.isSensorCall = true := by
  obtain ⟨h, a, s, wants⟩ := s
  have a₁ : Alone h { b with scripts := b.scripts.map fun s =>
      if s.1 = name then (s.1, s.2.tail) else s } :=
    { a with scripts := forall_mem_scripts a.scripts name }
  have next := forall_mem_script a.scripts name
  exact .step (exec_get b) (.step (exec_modify _ b) (.pure ⟨⟨h, a₁, s, wants⟩, next⟩))

/-- **Whatever is called succeeds**, however deep. The induction is on the depth. -/
theorem calls_react (depth : Nat) : Calls (react depth) := by
  induction depth with
  | zero => exact fun _ _ _ _ s => .pure s
  | succ depth ih =>
    intro flights name r b s
    refine (yields_nextScript name s).bind fun script b₁ ⟨s₁, calls⟩ => ?_
    refine .forM script (fun step hs b s => ?_) s₁
    exact (ih.yields_perform (calls step hs) s).bind fun _ _ s => .pure s

/-! ### Sessions -/

theorem Accounted.take {step : Step} (s : Accounted [] b) (calls : step.isSensorCall = true) :
    (Session.take step b).answer.isOk = true ∧ Accounted [] (Session.take step b).bench := by
  obtain ⟨answer, b', e, s'⟩ := (calls_react (depth b step)).yields_perform calls s
  rw [take_of_exec e]
  exact ⟨rfl, s'⟩

theorem Accounted.run {steps : List Step} (s : Accounted [] b)
    (calls : ∀ step ∈ steps, step.isSensorCall = true) : Accounted [] (Session.run steps b) := by
  induction steps generalizing b with
  | nil => exact s
  | cons step steps ih =>
    exact ih (s.take (calls step List.mem_cons_self)).2 fun step' h =>
      calls step' (List.mem_cons_of_mem step h)

/-! ### Setting up -/

/-- A sensor that nobody has used yet. -/
theorem sound_fresh {source : Option Source} (unused : ∀ s, source = some s → s.subscriptions = 0)
    (band : Band) (delay : Option Number) (confined : Bool) :
    Sound [] (.fresh source band delay confined) [] [] := by
  have none : Hysteresis.subscriptions (.fresh source band delay confined) = 0 := by
    cases source with
    | none => rfl
    | some s => exact unused s rfl
  refine ⟨⟨?_, .refl _, List.nodup_nil, nofun⟩, nofun, fun _ => ⟨⟨rfl, nofun⟩, rfl⟩⟩
  rw [none]
  rfl

variable {s : Scenario} {source : Option (Option String × List (List Sample))}
  {threshold : Number} {latch delay : Option Number} {confined : Bool}

/-- The sensor of a target that is a single hysteresis sensor. -/
theorem TargetPlan.makeSensors_sensor {sensors : Sensors}
    (h : makeSensors (.sensor (.hysteresis source threshold latch delay confined)) = .ok sensors) :
    ∃ h, sensors = ⟨.unplanned, .unplanned, .hysteresis h⟩ ∧ h.listeners = []
      ∧ h.sampling = h.wantsSamples ∧ Sound [] h [] [] := by
  rw [makeSensors, SensorPlan.make] at h
  cases band : Band.make threshold (latch.getD threshold) with
  | error e =>
    rw [band] at h
    cases h
  | ok band' =>
    rw [band] at h
    cases h
    refine ⟨_, rfl, rfl, ?_, sound_fresh (fun s hs => ?_) _ _ _⟩
    · exact (Bool.and_false _).symm
    · obtain ⟨_, -, rfl⟩ := Option.map_eq_some_iff.mp hs
      rfl

/-- The bench of a scenario with one hysteresis sensor, before anything is done on it. -/
theorem Scenario.accounted_bare
    (target : s.target = .sensor (.hysteresis source threshold latch delay confined))
    (home : s.confines = true → s.thread.same (s.owner.getD s.thread) = true)
    (scripts : ∀ entry ∈ s.scripts, ∀ script ∈ entry.2, ∀ step ∈ script,
      step.isSensorCall = true) (h : s.bare = .ok b) : Accounted [] b := by
  have thread := s.onThread_of_bare home h
  obtain ⟨sensors, delay, patience, made, rfl⟩ := s.eq_of_bare h
  rw [target] at made
  obtain ⟨sensor, rfl, nobody, wants, sound⟩ := TargetPlan.makeSensors_sensor made
  have aimed := congrArg TargetPlan.target target
  refine ⟨sensor, ⟨aimed, rfl, fun l hl => ?_, scripts, thread, ⟨0, rfl⟩⟩, sound, wants⟩
  rw [nobody] at hl
  exact absurd hl List.not_mem_nil

/-- What is done on a bench before the first step has nothing to do with subscriptions. -/
theorem Scenario.yields_prepare (s : Scenario) (accounted : Accounted [] b) :
    Yields s.prepare b fun _ => Accounted [] := by
  have tracker : ∀ {b}, Accounted [] b → Yields (if s.startsTracker then
      Scenario.startTracker s.telemetry else pure ()) b fun _ => Accounted [] := by
    intro b accounted
    split
    · refine yields_startTracker _ accounted (fun b _ a => a.logged (.note b rfl rfl))
        (fun b _ _ _ a => a.logged (.note b rfl rfl)) ?_
      exact fun _ ⟨h, a, rest⟩ => ⟨h, { a with }, rest⟩
    · exact .pure accounted
  rw [prepare]
  split
  · obtain ⟨h, a, sound, wants⟩ := accounted
    refine .bind (P := fun _ => Accounted []) ?_ fun _ _ accounted => tracker accounted
    refine .step (exec_get b) ?_
    rw [a.target]
    refine .step a.sole ⟨_, _, a.modify _, _, a.equip rfl, ?_, wants⟩
    exact sound.congr rfl ⟨rfl, rfl, rfl, rfl, rfl⟩
  · exact tracker accounted

/-- **The subscriptions of a sensor balance.** A hysteresis sensor is used from its owner's
thread, by steps and by listeners that only call it and deliver it samples. Then every step
succeeds, and after any number of steps its books balance. -/
theorem subscriptions_balance
    (target : s.target = .sensor (.hysteresis source threshold latch delay confined))
    (home : s.confines = true → s.thread.same (s.owner.getD s.thread) = true)
    (scripts : ∀ entry ∈ s.scripts, ∀ script ∈ entry.2, ∀ step ∈ script,
      step.isSensorCall = true)
    (ready : s.setUp = .ok b) {steps : List Step}
    (calls : ∀ step ∈ steps, step.isSensorCall = true) :
    (∀ before step after, steps = before ++ step :: after →
        (Session.take step (Session.run before b)).answer.isOk = true)
      ∧ ∃ h, (Session.run steps b).sensors.sole = .hysteresis h
          ∧ Balanced h (Session.run steps b).made (Session.run steps b).stopped := by
  have accounted : Accounted [] b := by
    rw [Scenario.setUp] at ready
    cases bare : s.bare with
    | error e =>
      rw [bare] at ready
      cases ready
    | ok b₀ =>
      rw [bare] at ready
      obtain ⟨_, b₁, e, accounted⟩ := s.yields_prepare (s.accounted_bare target home scripts bare)
      have prepared : b = b₁ := (Except.ok.inj ready).symm.trans (congrArg Prod.snd e)
      exact prepared ▸ accounted
  constructor
  · rintro before step after rfl
    have earlier : Accounted [] (Session.run before b) :=
      accounted.run fun step' h => calls step' (List.mem_append_left _ h)
    exact (earlier.take (calls step (by simp))).1
  · obtain ⟨h, a, sound, wants⟩ := accounted.run calls
    exact ⟨h, by rw [a.sensors], sound.balanced wants⟩

/-- A scenario with a sensor whose source takes a near sample from inside the first call that
subscribes to it, and a listener that gives the sensor another delay when it is told. -/
def retimedScenario : Scenario :=
  { env := .ofList [], telemetry := Scenario.plainTelemetry, startsTracker := false
    confines := true, owner := none, thread := 0
    target := .sensor (.hysteresis (some (none, [[⟨1, .exact 0⟩], [⟨9, .exact 1⟩]])) 5 none none true)
    probe := none, scripts := [("a", [[.delay 7]])] }

/-- The session of that scenario in which the listener joins: the second subscription is made
from inside the call that makes the first one, which is stopped when that call comes back. -/
def retimedSession : Bench := retimedScenario.after [.join "a"]

theorem subscriptions_balance_session :
    retimedSession.made = [(2, 7), (1, 3)] ∧ retimedSession.stopped = [1]
      ∧ ∃ h, retimedSession.sensors.sole = .hysteresis h
          ∧ Balanced h retimedSession.made retimedSession.stopped := by
  refine ⟨by decide +kernel, by decide +kernel, ?_⟩
  have ok : retimedScenario.setUp.isOk = true := by decide +kernel
  rw [retimedSession, Scenario.after]
  cases ready : retimedScenario.setUp with
  | error e =>
    rw [ready] at ok
    cases ok
  | ok b =>
    exact (subscriptions_balance rfl (fun _ => by decide +kernel) (by decide) ready
      (by decide)).2

end Proximity
