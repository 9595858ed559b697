import Mathlib.Data.List.Infix
import Proximity.Proofs.Beat

/-!
# A sensor and its listeners

A session with a single hysteresis sensor, in which the sensor is called and delivered samples,
time passes, and listeners call the sensor from inside whatever call makes them be called. All of
it is beats (`Proximity.Beat`), but for one thing: a step from outside may change the listeners
before it does anything else (`Proximity.Onward`).

So a property of scenes holds at the end of a session if it is kept by single beats
(`Proximity.Lasting`, `Proximity.Sits.run`).
-/

namespace Proximity

open Act Session

variable {calm : Prop} {x x' x₀ : Scene} {b : Bench} {waiting : List (Listener × Reading)}

/-! ### Steps -/

/-- A bench that beats lead to from a scene that may have got other listeners first. -/
def Onward (calm : Prop) (x : Scene) (b : Bench) : Prop :=
  ∃ listeners, listeners.Nodup ∧ Led calm (x.relist listeners) x.waiting b

theorem Sits.onward (s : Sits calm x b) {b' : Bench} (h : Led calm x x.waiting b') :
    Onward calm x b' := ⟨x.sensor.listeners, s.distinct, h⟩

theorem Sits.relist (s : Sits calm x b) {listeners : List Listener} (distinct : listeners.Nodup)
    (named : ∀ l ∈ listeners, l ∈ x.sensor.listeners ∨ ∃ name, l = .named name) :
    Sits calm (x.relist listeners) (b.equip { x.sensor with listeners }) :=
  { s with
    alone := s.alone.change named
    distinct }

namespace Leading

variable {call : Reactor}

theorem yields_join (C : Leading calm call) (name : String) (settled : calm → x.waiting = [])
    (s : Sits calm x b) :
    Yields (Hysteresis.join call .sole (.named name)) b fun _ => Onward calm x := by
  refine .step (open_of_onThread s.alone.thread .sole) (.step s.alone.get ?_)
  split
  · split
    · refine .bind (s.nearly.log .warn _ []) fun _ b₁ s₁ => ?_
      exact (C.yields_adjust settled (s₁.led .refl)).mono fun _ _ h => s.onward h
    · rename_i absent
      have distinct : (x.sensor.listeners ++ [Listener.named name]).Nodup :=
        List.nodup_append_comm.mp (List.nodup_cons.mpr ⟨absent, s.distinct⟩)
      have s₁ := s.relist distinct fun l hl => (List.mem_append.mp hl).imp_right fun new =>
        ⟨name, List.mem_singleton.mp new⟩
      refine .step (s.alone.modify _) ?_
      exact (C.yields_adjust settled s₁.led).mono fun _ _ h => ⟨_, distinct, h⟩
  · exact .pure (s.onward s.led)

theorem yields_leave (C : Leading calm call) (l : Listener) (settled : calm → x.waiting = [])
    (s : Sits calm x b) : Yields (Hysteresis.leave call .sole l) b fun _ => Onward calm x := by
  have distinct := s.distinct.erase l
  have s₁ := s.relist distinct fun l hl => .inl (List.mem_of_mem_erase hl)
  refine .step (open_of_onThread s.alone.thread .sole) (.step (s.alone.modify _) ?_)
  exact (C.yields_adjust settled s₁.led).mono fun _ _ h => ⟨_, distinct, h⟩

/-- A delay is given, and nothing is written about that. -/
theorem yields_delay (C : Leading calm call) (delay : Number) (settled : calm → x.waiting = [])
    (s : Sits calm x b) : Yields (perform call (.delay delay)) b fun _ => Led calm x x.waiting := by
  refine .bind (P := fun _ => Led calm x x.waiting) (.step (exec_get b) ?_) fun _ b₁ s₁ => ?_
  · rw [s.alone.target]
    exact .step s.alone.sole (C.yields_retime delay settled s.led)
  · obtain ⟨x₁, -, -, sits₁⟩ := id s₁
    refine .step (exec_get b₁) (.step (exec_get b₁) ?_)
    rw [sits₁.alone.target, sits₁.alone.sensors]
    exact .pure s₁

/-- A sample is delivered to the sensor, or to a place without one. -/
theorem yields_sample (C : Leading calm call) (role : Role) (sample : Sample) (late : Bool)
    (settled : calm → x.waiting = []) (s : Sits calm x b) :
    Yields (Sensor.deliver call role sample late) b fun _ => Led calm x x.waiting := by
  refine .step (exec_getSensor role b) ?_
  rw [s.alone.sensors]
  cases role with
  | sole => exact C.yields_deliver sample late settled s.led
  | primary | secondary => exact .pure s.led

/-- **A call of the sensor leads on.** -/
theorem yields_perform (C : Leading calm call) {step : Step} (calls : step.isSensorCall = true)
    (settled : calm → x.waiting = []) (s : Sits calm x b) :
    Yields (perform call step) b fun _ => Onward calm x := by
  have quietly {act : Act Unit} (y : Yields act b fun _ => Onward calm x) :
      Yields (quietly act) b fun _ => Onward calm x := y.bind fun _ _ h => .pure h
  cases step with
  | delay delay => exact (C.yields_delay delay settled s).mono fun _ _ h => s.onward h
  | sample role sample late =>
    exact quietly ((C.yields_sample role sample late settled s).mono fun _ _ h => s.onward h)
  | join name =>
    refine quietly (.step (exec_get b) ?_)
    rw [s.alone.target]
    exact .step s.alone.sole (C.yields_join name settled s)
  | leave name =>
    refine quietly (.step (exec_get b) ?_)
    rw [s.alone.target]
    exact .step s.alone.sole (C.yields_leave (.named name) settled s)
  | pause =>
    refine quietly (.step (exec_get b) ?_)
    rw [s.alone.target]
    exact .step s.alone.sole ((C.yields_pause settled s.led).mono fun _ _ h => s.onward h)
  | resume =>
    refine quietly (.step (exec_get b) ?_)
    rw [s.alone.target]
    exact .step s.alone.sole ((C.yields_resume settled s.led).mono fun _ _ h => s.onward h)
  | _ => cases calls

end Leading

/-- A bench that is led on to by listeners that are not calm. -/
theorem Led.onward (path : Beats calm x₀ x) (wild : ¬ calm) (h : Onward calm x b) :
    Led calm x₀ x.waiting b := by
  obtain ⟨listeners, distinct, x', path', e, sits⟩ := h
  exact ⟨x', (path.tail (.relist x distinct wild)).trans path', e, sits⟩

/-- **Whatever is called leads on**, however deep. The induction is on the depth. -/
theorem leading_react (depth : Nat) : Leading calm (react depth) := by
  induction depth with
  | zero => exact fun _ _ _ _ _ s => .pure s
  | succ depth ih =>
    rintro x₀ waiting name r b ⟨x, path, rfl, sits⟩
    have sits₁ : Sits calm x { b with scripts := b.scripts.map fun s =>
        if s.1 = name then (s.1, s.2.tail) else s } :=
      { sits with
        alone := { sits.alone with scripts := forall_mem_scripts sits.alone.scripts name }
        wild := forall_mem_scripts sits.wild name }
    have calls := forall_mem_script sits.alone.scripts name
    have wild := forall_mem_script sits.wild name
    refine .step (x := nextScript name) rfl ?_
    refine .forM (I := Led calm x₀ x.waiting) _ (fun step hs b s => ?_) ⟨x, path, rfl, sits₁⟩
    obtain ⟨x', path', e, sits'⟩ := s
    have settled : calm → x'.waiting = [] := fun c => absurd c (wild step hs)
    refine (ih.yields_perform (calls step hs) settled sits').bind fun _ b' h => ?_
    exact .pure (e ▸ Led.onward path' (wild step hs) h)

/-! ### Sessions -/

/-- Whether a step calls a sensor, delivers it a sample, or lets time pass. -/
def Step.isOuting : Step → Bool
  | advance _ => true
  | step => step.isSensorCall

theorem Step.isOuting_cases {step : Step} (h : step.isOuting = true) :
    step.isSensorCall = true ∨ ∃ millis, step = .advance millis := by
  cases step with
  | advance millis => exact .inr ⟨millis, rfl⟩
  | _ => exact .inl h

/-- Where no timer is pending, time passes and nothing happens. -/
theorem take_advance (idle : b.clock.pending = []) (millis : Number) :
    Session.take (.advance millis) b
      = ⟨.ok .none, { b with clock := { b.clock with now := b.clock.now + millis } }⟩ := by
  have next : b.clock.next? (b.clock.now + millis) = none := by
    rw [Clock.next?, idle]
    rfl
  refine take_of_exec ?_
  rw [exec_perform_advance, Timer.advance, exec_bind_assoc, exec_bind_of_ok (exec_get b),
    exec_bind_assoc]
  exact exec_bind_of_ok (exec_fireUntil_of_none _ _ next)

/-- **A step from outside leads on.** -/
theorem Sits.take {step : Step} (s : Sits calm x b) (settled : x.waiting = [])
    (outing : step.isOuting = true)
    (timely : ∃ nanos, nanosOf (Session.take step b).bench.clock.now = .ok nanos) :
    (Session.take step b).answer.isOk = true ∧ Onward calm x (Session.take step b).bench := by
  rcases step.isOuting_cases outing with calls | ⟨millis, rfl⟩
  · obtain ⟨answer, b', e, onward⟩ :=
      (leading_react (depth b step)).yields_perform calls (fun _ => settled) s
    rw [take_of_exec e]
    exact ⟨rfl, onward⟩
  · rw [take_advance s.idle] at timely ⊢
    have later : Sits calm x { b with clock := { b.clock with now := b.clock.now + millis } } :=
      { s with alone := { s.alone with timely := timely } }
    exact ⟨rfl, s.onward later.led⟩

/-- **What a sensor keeps** from beat to beat, and when it gets other listeners in between. -/
structure Lasting (calm : Prop) (P : Scene → Prop) : Prop where
  /-- It is kept by a beat. -/
  beat : ∀ {x x'}, Beat calm x x' → P x → P x'
  /-- It is kept when nobody waits and the listeners change. -/
  relist : ∀ {x listeners}, listeners.Nodup → x.waiting = [] → P x → P (x.relist listeners)

variable {P : Scene → Prop}

theorem Lasting.beats (L : Lasting calm P) (path : Beats calm x x') (p : P x) : P x' := by
  induction path with
  | refl => exact p
  | tail _ beat ih => exact L.beat beat ih

theorem Lasting.and {P' : Scene → Prop} (L : Lasting calm P) (L' : Lasting calm P') :
    Lasting calm fun x => P x ∧ P' x where
  beat s p := ⟨L.beat s p.1, L'.beat s p.2⟩
  relist distinct settled p := ⟨L.relist distinct settled p.1, L'.relist distinct settled p.2⟩

/-- Whether the clock shows a finite time after each of some steps. -/
def Timely (steps : List Step) (b : Bench) : Prop :=
  ∀ before, before <+: steps → ∃ nanos, nanosOf (Session.run before b).clock.now = .ok nanos

instance (steps : List Step) (b : Bench) : Decidable (Timely steps b) :=
  decidable_of_iff (∀ before ∈ steps.inits,
    (nanosOf (Session.run before b).clock.now).isOk = true) <| by
    refine forall_congr' fun before => imp_congr (List.mem_inits _ _) ?_
    cases nanosOf (Session.run before b).clock.now <;> simp [Except.isOk, Except.toBool]

theorem Timely.of_append {before after : List Step} (t : Timely (before ++ after) b) :
    Timely after (Session.run before b) := by
  intro first pre
  rw [← run_append]
  exact t (before ++ first) (List.prefix_append_right_inj before |>.mpr pre)

theorem Timely.of_prefix {before steps : List Step} (t : Timely steps b) (pre : before <+: steps) :
    Timely before b := fun first h => t first (h.trans pre)

/-- **A session leads on**, and what a sensor keeps holds at its end. The induction is on the
steps. -/
theorem Sits.run (L : Lasting calm P) {steps : List Step} (s : Sits calm x b)
    (settled : x.waiting = []) (p : P x) (outings : ∀ step ∈ steps, step.isOuting = true)
    (timely : Timely steps b) :
    ∃ x', Sits calm x' (Session.run steps b) ∧ x'.waiting = [] ∧ P x' := by
  induction steps generalizing x b with
  | nil => exact ⟨x, s, settled, p⟩
  | cons step steps ih =>
    have now := timely [step] ⟨steps, rfl⟩
    obtain ⟨-, listeners, distinct, x', path, e, s'⟩ :=
      s.take settled (outings step List.mem_cons_self) now
    have rest : Timely steps (Session.take step b).bench :=
      (show Timely ([step] ++ steps) b from timely).of_append
    exact ih s' (e.trans settled) (L.beats path (L.relist distinct settled p))
      (fun step hs => outings step (List.mem_cons_of_mem _ hs)) rest

/-! ### Setting up -/

variable {s : Scenario} {source : Option (Option String × List (List Sample))}
  {threshold : Number} {latch delay : Option Number} {confined : Bool}

/-- The scene of a sensor that nobody has used yet. -/
def Scene.opening (source : Option Source) (band : Band) (delay : Option Number)
    (confined : Bool) : Scene := ⟨[], .fresh source band delay confined, []⟩

/-- The bench of a scenario with one hysteresis sensor, before anything is done on it. -/
theorem Scenario.sits_bare
    (target : s.target = .sensor (.hysteresis source threshold latch delay confined))
    (home : s.confines = true → s.thread.same (s.owner.getD s.thread) = true)
    (scripts : ∀ entry ∈ s.scripts, ∀ script ∈ entry.2, ∀ step ∈ script,
      step.isSensorCall = true)
    (wild : ∀ entry ∈ s.scripts, ∀ script ∈ entry.2, ∀ _ ∈ script, ¬ calm)
    (h : s.bare = .ok b) : ∃ source' band, Band.make threshold (latch.getD threshold) = .ok band
      ∧ Sits calm (.opening source' band delay confined) b := by
  have thread := s.onThread_of_bare home h
  obtain ⟨sensors, _, _, made, rfl⟩ := s.eq_of_bare h
  have aimed := congrArg TargetPlan.target target
  rw [target, TargetPlan.makeSensors, SensorPlan.make] at made
  cases band : Band.make threshold (latch.getD threshold) with
  | error e =>
    rw [band] at made
    cases made
  | ok band' =>
    rw [band] at made
    cases made
    refine ⟨_, band', rfl, ⟨aimed, rfl, fun l hl => absurd hl List.not_mem_nil, scripts, thread,
      ⟨0, rfl⟩⟩, rfl, rfl, ?_, wild⟩
    exact List.nodup_nil

/-- What is done on a bench before the first step does not matter. -/
theorem Scenario.nearly_prepare (s : Scenario) (sits : Nearly calm x b) :
    Yields s.prepare b fun _ => Nearly calm x := by
  have tracker : ∀ {b}, Nearly calm x b → Yields (if s.startsTracker then
      Scenario.startTracker s.telemetry else pure ()) b fun _ => Nearly calm x := by
    intro b sits
    split
    · refine yields_startTracker _ sits (fun _ _ s => s.noted rfl) (fun _ _ _ _ s => s.noted rfl) ?_
      exact fun _ ⟨x', t, s'⟩ => ⟨x', t, { s' with alone := { s'.alone with } }⟩
    · exact .pure sits
  rw [prepare]
  split
  · refine .bind (P := fun _ => Nearly calm x) ?_ fun _ _ sits => tracker sits
    obtain ⟨x', t, s'⟩ := id sits
    refine .step (exec_get b) ?_
    rw [s'.alone.target]
    exact .step s'.alone.sole (sits.modify fun _ => ⟨rfl, rfl, rfl, rfl⟩)
  · exact tracker sits

/-- **The bench of a scenario with one hysteresis sensor** is led on to from an opening scene. -/
theorem Scenario.led_setUp (calm : Prop)
    (target : s.target = .sensor (.hysteresis source threshold latch delay confined))
    (home : s.confines = true → s.thread.same (s.owner.getD s.thread) = true)
    (scripts : ∀ entry ∈ s.scripts, ∀ script ∈ entry.2, ∀ step ∈ script,
      step.isSensorCall = true)
    (wild : ∀ entry ∈ s.scripts, ∀ script ∈ entry.2, ∀ _ ∈ script, ¬ calm)
    (ready : s.setUp = .ok b) :
    ∃ source' band, Band.make threshold (latch.getD threshold) = .ok band
      ∧ Led calm (.opening source' band delay confined) [] b := by
  obtain ⟨b₀, bare, rfl⟩ := s.exists_of_setUp ready
  obtain ⟨source', band, made, sits⟩ := s.sits_bare target home scripts wild bare
  obtain ⟨_, b₁, e, nearly⟩ := s.nearly_prepare sits.nearly
  have after : Act.after s.prepare b₀ = b₁ := congrArg Prod.snd e
  exact ⟨source', band, made, after ▸ nearly.led .refl⟩

end Proximity
