import Proximity.Proofs.Docket
import Proximity.Proofs.Reached

/-!
# What a handle says of its task

Whoever puts a task off has a handle, which can be asked whether the task is pending, and by which
the task can be called off. The books of the scheduler (`Proximity.Docket`) agree with the journal,
with the clock and with the handles wherever a session comes to (`Proximity.Docket.Kept`), in the
middle of a task, too. So handles tell the truth (`Proximity.Truthful`):

| of a task | |
|---|---|
| that is pending | the handle says so |
| that has begun | it began once, when it was due or later, after all that were due before |
| that was called off | it never begins |

What is pending after the clock has been moved on is due later than that, unless a task failed. The
main statement is `Proximity.handles_truthful`.
-/

namespace Proximity

open Act Session

/-- **The books are kept.** -/
structure Docket.Kept (d : Docket) (b : Bench) : Prop where
  /-- They agree with the journal. -/
  noted : Noted d b.journal
  /-- They agree with the clock. -/
  wound : Wound d b.clock
  /-- The tasks come in turn. -/
  turn : InTurn d b.clock.now
  /-- The tasks are numbered in the order in which they were put off. -/
  numbers : (History.settings b.journal).map (·.1) = List.range' 1 b.clock.lastId
  /-- A handle is the handle of a task of its name. -/
  handles : ∀ h ∈ b.handles, ∃ j ∈ d.jobs, j.name = h.1 ∧ j.id = h.2

/-- **Handles tell the truth.** -/
structure Truthful (d : Docket) (b : Bench) : Prop extends d.Kept b where
  /-- A task is in the books once. -/
  once : (d.jobs.map (·.id)).Nodup
  /-- A task is put off by its delay, or by none if that is negative. -/
  schedule : ∀ call name delay keepsAlive script,
    exec (perform call (.schedule name delay keepsAlive script)) b
      = (if keepsAlive.isNone then .error (.missing "null" "unref") else .ok .none,
        b.putOff name delay keepsAlive script)
  /-- A handle says whether its task is pending. -/
  active : ∀ call name id, b.handles.lookup name = some id →
    exec (perform call (.active name)) b
      = (.ok (.active (decide (id ∈ d.pending.map (·.id)))), b)
  /-- A task that is called off is not pending any more; if it was not pending, nothing changes. -/
  cancel : ∀ call name id direct, b.handles.lookup name = some id →
    exec (perform call (.cancel name direct)) b
      = (.ok .none, if id ∈ d.pending.map (·.id) then b.callOff id else b)

variable {b b' : Bench} {d : Docket}

namespace Docket.Kept

/-- **No number is given out twice**, and none is left out. -/
theorem ids_perm (k : d.Kept b) :
    (d.jobs.map (·.id)).Perm (List.range' 1 b.clock.lastId) := by
  have ids := (k.noted.settings.map (·.1)).symm
  rwa [List.map_map, k.numbers] at ids

theorem nodup (k : d.Kept b) : (d.jobs.map (·.id)).Nodup :=
  k.ids_perm.nodup_iff.mpr List.nodup_range'

/-- Numbers were given out one by one. -/
theorem id_le (k : d.Kept b) {j : Job} (mem : j ∈ d.jobs) : j.id ≤ b.clock.lastId := by
  have range := List.mem_range'_1.mp (k.ids_perm.mem_iff.mp (List.mem_map_of_mem mem))
  omega

/-- **What is kept, tells the truth.** -/
theorem truthful (k : d.Kept b) (r : Ready b) : Truthful d b := by
  refine ⟨k, k.nodup, fun _ _ delay keepsAlive script => ?_, fun _ _ _ h => ?_,
    fun _ _ _ direct h => ?_⟩
  · exact exec_schedule r.target delay keepsAlive script
  · rw [exec_active h, Clock.isArmed, k.wound.armed]
  · rw [exec_cancel r.target h, Clock.isArmed, k.wound.armed]
    simp only [decide_eq_true_iff]

/-! ### Whatever happens -/

/-- Somebody puts a task off. -/
theorem putOff (k : d.Kept b) (r : Ready b) (name : String) {delay : Number}
    (keepsAlive : Option Bool) (finite : delay.isFinite = true) (script : List Step) :
    Kept (d.putOff ⟨b.clock.lastId + 1, b.clock.now + delay.atLeastZero, name, script⟩)
      (b.putOff name delay keepsAlive script) := by
  obtain ⟨finite, positive⟩ := Number.atLeastZero_spec finite
  obtain ⟨due, later⟩ := r.now.add finite positive
  have last : ∀ j ∈ d.jobs, j.id ≤ b.clock.lastId := fun j mem => k.id_le mem
  constructor
  · exact Bench.journal_putOff .. ▸ k.noted.putOff name script
  · rw [Bench.clock_putOff]
    exact k.wound.putOff (fun j mem => last j (Docket.mem_jobs_of_pending mem)) due name script
  · rw [Bench.clock_putOff]
    exact k.turn.putOff later
      fun r mem => Nat.lt_succ_of_le (last r.2 (Docket.mem_jobs_of_begun mem))
  · rw [Bench.journal_putOff, Bench.clock_putOff, History.settings_cons, List.map_append, k.numbers]
    exact (List.range'_1_concat.trans (by rw [Nat.add_comm]; rfl)).symm
  · have old : ∀ h ∈ b.handles, ∃ j ∈ (d.putOff
        ⟨b.clock.lastId + 1, b.clock.now + delay.atLeastZero, name, script⟩).jobs,
        j.name = h.1 ∧ j.id = h.2 := by
      intro h hh
      obtain ⟨j, mem, same⟩ := k.handles h hh
      exact ⟨j, (d.jobs_putOff _).mem_iff.mpr (List.mem_append_left _ mem), same⟩
    rw [Bench.putOff]
    split
    · exact old
    · intro h hh
      rcases List.mem_cons.mp hh with rfl | hh
      · exact ⟨_, (d.jobs_putOff _).mem_iff.mpr (List.mem_append_right _ List.mem_cons_self),
          rfl, rfl⟩
      · exact old h hh

/-- Somebody calls a task off. -/
theorem callOff (k : d.Kept b) {j : Job} (mem : j ∈ d.pending) :
    Kept (d.callOff j) (b.callOff j.id) := by
  refine ⟨k.noted.callOff k.wound.sorted mem, k.wound.remove j.id _ _, k.turn.callOff j, ?_, ?_⟩
  · show (History.settings (_ :: b.journal)).map _ = _
    rw [History.settings_cons]
    exact (congrArg _ (List.append_nil _)).trans k.numbers
  · intro h hh
    obtain ⟨u, hu, same⟩ := k.handles h hh
    exact ⟨u, (Docket.jobs_callOff k.wound.sorted mem).mem_iff.mpr hu, same⟩

/-- The next task begins. -/
theorem begin (k : d.Kept b) (r : Ready b) {j : Job} (mem : j ∈ d.pending) {limit : Number}
    (next : b.clock.next? limit = some j.timer) :
    Kept (d.begin (b.clock.reach j.due).now j) (b.begin j.timer j.name) := by
  have first := before_of_next? k.wound.sorted k.wound.due k.wound.pending next mem
  have isTime := k.wound.due j mem
  refine ⟨k.noted.begin k.wound.sorted mem, ?_, k.turn.begin mem first
    (Clock.le_reach r.now isTime) (Clock.now_le_reach r.now), ?_, ?_⟩
  · obtain ⟨pending, armed, sorted, due⟩ := k.wound.remove j.id (d.begin _ j).begun d.off
    exact ⟨pending, armed, sorted, due⟩
  · show (History.settings (_ :: _ :: b.journal)).map _ = _
    rw [History.settings_cons, History.settings_cons]
    exact (congrArg _ ((List.append_nil _).trans (List.append_nil _))).trans k.numbers
  · intro h hh
    obtain ⟨u, hu, same⟩ := k.handles h hh
    exact ⟨u, (Docket.jobs_begin k.wound.sorted mem _).mem_iff.mpr hu, same⟩

/-- The time passes, when no task is due. -/
theorem elapse (k : d.Kept b) {limit : Number} (later : b.clock.now ≤ limit) :
    d.Kept (b.elapse limit) := by
  obtain ⟨pending, armed, sorted, due⟩ := k.wound
  exact ⟨k.noted, ⟨pending, armed, sorted, due⟩, k.turn.elapse later, k.numbers, k.handles⟩

/-- **The books are kept whatever happens**, and nothing is taken back. -/
theorem tick (k : d.Kept b) (r : Ready b) (h : Tick b b') : ∃ d', d'.Kept b' ∧ d.Grows d' := by
  cases h with
  | @putOff name delay keepsAlive script finite calls =>
    exact ⟨_, k.putOff r name keepsAlive finite script, List.prefix_rfl, List.prefix_rfl⟩
  | @callOff id armed =>
    obtain ⟨j, mem, rfl⟩ := List.mem_map.mp (k.wound.isArmed_iff.mp armed)
    exact ⟨_, k.callOff mem, List.prefix_rfl, List.prefix_append _ _⟩
  | @begin limit t name script next task =>
    -- A timer that fires is that of a pending task.
    have found : t ∈ b.clock.pending := (List.mem_filter.mp (Clock.mem_of_earliest? next)).1
    rw [k.wound.pending] at found
    obtain ⟨j, mem, rfl⟩ := List.mem_map.mp found
    cases task
    exact ⟨_, k.begin r mem next, List.prefix_append _ _, List.prefix_rfl⟩
  | elapse _ later _ => exact ⟨d, k.elapse later, .refl d⟩

/-- The induction is on what happens. -/
theorem ticks (k : d.Kept b) (r : Ready b) (h : Ticks b b') : ∃ d', d'.Kept b' ∧ d.Grows d' := by
  induction h with
  | refl => exact ⟨d, k, .refl d⟩
  | tail path tick ih =>
    obtain ⟨d₁, k₁, grows⟩ := ih
    obtain ⟨d₂, k₂, grows'⟩ := k₁.tick (r.ticks path) tick
    exact ⟨d₂, k₂, grows.trans grows'⟩

end Docket.Kept

/-! ### Setting up -/

/-- The books of a scheduler that nobody has used yet. -/
def Docket.empty : Docket := ⟨[], [], []⟩

/-- Nothing is pending on a new bench. -/
structure Unused (b : Bench) : Prop where
  /-- Steps are aimed at timers. -/
  target : b.target = .timers
  /-- The clock has just been started. -/
  clock : b.clock = .start
  /-- Nobody has a handle. -/
  handles : b.handles = []
  /-- Nothing was noted of timers or tasks. -/
  noted : Noted .empty b.journal

/-- Whoever has not used a clock may do so. -/
theorem Unused.ready (u : Unused b) : Ready b := by
  have nothing : b.clock.pending = [] := by rw [u.clock]; rfl
  refine ⟨u.target, ?_, by rw [u.clock]; exact .zero, ?_⟩ <;> rw [nothing] <;>
    exact fun t ht => absurd ht List.not_mem_nil

theorem Unused.kept (u : Unused b) : Docket.empty.Kept b := by
  refine ⟨u.noted, ?_, ⟨nofun, .nil, nofun, nofun⟩, ?_, ?_⟩
  · rw [u.clock]
    exact ⟨rfl, rfl, .nil, nofun⟩
  · rw [u.noted.settings.eq_nil, u.clock]
    rfl
  · rw [u.handles]
    nofun

variable {s : Scenario}

/-- **A scheduler that has been set up is unused.** There cannot be a probe. -/
theorem Scenario.unused_setUp (timers : s.target = .timers) (ready : s.setUp = .ok b) :
    Unused b := by
  obtain ⟨b₀, bare, rfl⟩ := s.exists_of_setUp ready
  have unused : Unused b₀ := by
    obtain ⟨sensors, delay, patience, -, rfl⟩ := s.eq_of_bare bare
    exact ⟨congrArg TargetPlan.target timers, rfl, rfl, .refl _, rfl, rfl, rfl, rfl⟩
  have tracker : Yields (if s.startsTracker then startTracker s.telemetry else pure ()) b₀
      fun _ => Unused := by
    split
    · exact yields_startTracker _ unused
        (fun _ _ u => { u with noted := u.noted.cons rfl rfl rfl rfl })
        (fun _ _ _ _ u => { u with noted := u.noted.cons rfl rfl rfl rfl })
        fun _ u => { u with }
    · exact .pure unused
  rw [prepare]
  split
  · have failed : exec (Probe.tagAs (some probeTag)) b₀
        = (.error (.notCallable ("target." ++ "setTag")), b₀) := by
      rw [Probe.tagAs, Target.tagAs, exec_bind_of_ok (exec_get b₀), unused.target]
      show exec (Target.refuse "setTag") b₀ = _
      rw [Target.refuse, exec_bind_of_ok (exec_get b₀), unused.target]
      rfl
    rw [Act.after, exec_bind_of_error failed]
    exact unused
  · obtain ⟨_, b₁, e, unused⟩ := tracker
    rw [Act.after, e]
    exact unused

/-! ### Sessions -/

/-- **Steps are taken one after the other**, and nothing else happens. -/
structure Stepwise (b : Bench) : Prop where
  /-- Steps that call timers are taken, by whomever. -/
  calls : ∀ call script, Step.areTimerCalls script = true →
    Ticks b (after (performAll call script) b)
  /-- A timer that fires begins its task, which takes its steps then. -/
  fires : ∀ limit t, b.clock.next? limit = some t → ∃ name script,
    t.task = .scripted name script ∧ Step.areTimerCalls script = true ∧ Tick b (b.begin t name)
      ∧ ∀ depth, exec (Timer.fire (react (depth + 1)) t) b
        = exec (performAll (react depth) script) (b.begin t name)

/-- **Each step does what it says.** -/
theorem Ready.stepwise (r : Ready b) : Stepwise b := by
  refine ⟨fun call script calls => (called_performAll call r calls).ticks, fun limit t next => ?_⟩
  obtain ⟨name, script, task, calls⟩ :=
    r.tasks t (List.mem_filter.mp (Clock.mem_of_earliest? next)).1
  exact ⟨name, script, task, calls, .begin next task, fun depth => exec_fire _ b task⟩

/-- When no timer is due by a time, all that are pending are due later. -/
theorem Ready.lt_due (r : Ready b) {limit : Number} (time : limit.IsTime)
    (none : b.clock.next? limit = none) : ∀ t ∈ b.clock.pending, limit < t.due := by
  intro t ht
  refine Number.lt_of_not_le time.ne_nan (r.due t ht).ne_nan fun due => ?_
  have left := List.filter_eq_nil_iff.mp (Clock.eq_nil_of_earliest? none) t ht
  exact left (decide_eq_true due)

/-- **What comes of moving the clock on** from outside. -/
inductive Advanced (b : Bench) (millis : Number) : Outcome → Prop where
  /-- A task failed that was due by then. -/
  | failed {fault : Fault} {b' : Bench} : TaskFailed (b.clock.now + millis) fault b b' →
      Advanced b millis ⟨.error fault, b'⟩
  /-- The clock shows the time then, and whatever is pending is due later. -/
  | done {b' : Bench} : b'.clock.now = b.clock.now + millis →
      (∀ t ∈ b'.clock.pending, b'.clock.now < t.due) → Advanced b millis ⟨.ok .none, b'⟩

/-- **When the time passes, all that is due by then begins.** -/
theorem Ready.advanced (r : Ready b) {millis : Number} (finite : millis.isFinite = true)
    (positive : 0 ≤ millis) : Advanced b millis (Session.take (.advance millis) b) := by
  obtain ⟨o, b', taken, path, ends⟩ := r.take_advance finite positive
  rw [taken]
  rcases ends with ⟨fault, rfl, failed⟩ | ⟨rfl, now, none⟩
  · exact .failed failed
  · have r' := r.ticks path
    exact .done now (r'.lt_due r'.now (now ▸ none))

/-- **Handles tell the truth about their tasks.** A scheduler is used by steps that put tasks off,
call them off, ask for them, fail, and move the clock on, and by tasks that take such steps, except
that they do not move the clock. Then whatever happens is a sequence of ticks, and

* after every tick, in the middle of a task or of moving the clock on, handles tell the truth, and
  what has become of a task is never taken back;
* when the clock is moved on, a task that is due fails, or the clock shows the time then, and all
  tasks that are pending are due later than that. -/
theorem handles_truthful (timers : s.target = .timers) (ready : s.setUp = .ok b)
    {steps : List Step} (proper : ∀ step ∈ steps, step.isTimerStep = true) :
    Ticks b (Session.run steps b)
      ∧ (∀ c, Ticks b c → Stepwise c
        ∧ ∃ d, Truthful d c ∧ ∀ c', Ticks c c' → ∃ d', Truthful d' c' ∧ d.Grows d')
      ∧ ∀ before millis later, steps = before ++ .advance millis :: later →
        Advanced (Session.run before b) millis
          (Session.take (.advance millis) (Session.run before b)) := by
  have unused := s.unused_setUp timers ready
  have r := unused.ready
  refine ⟨r.run proper, fun c path => ?_, ?_⟩
  · have rc := r.ticks path
    obtain ⟨d, kept, -⟩ := unused.kept.ticks r path
    refine ⟨rc.stepwise, d, kept.truthful rc, fun c' path' => ?_⟩
    obtain ⟨d', kept', grows⟩ := kept.ticks rc path'
    exact ⟨d', kept'.truthful (rc.ticks path'), grows⟩
  · rintro before millis later rfl
    have r₁ := r.ticks (r.run fun step hs => proper step (List.mem_append_left _ hs))
    obtain ⟨finite, positive⟩ := Bool.and_eq_true_iff.mp (proper (.advance millis) (by simp))
    exact r₁.advanced finite (of_decide_eq_true positive)

/-- A scenario with timers only. -/
def timersScenario : Scenario :=
  { env := .ofList [], telemetry := Scenario.plainTelemetry, startsTracker := true
    confines := false, owner := none, thread := 0, target := .timers, probe := none, scripts := [] }

/-- Three tasks are put off. The first calls the second one off and puts off a fourth, in the past,
which fails; the third calls itself off, which is too late. -/
def timersSteps : List Step :=
  [.schedule "a" 10 (some false)
      [.active "a", .cancel "b" false, .schedule "d" (.finite (-3)) (some true) [.throwError "no"]],
    .schedule "b" 20 (some false) [], .schedule "c" 10 (some false) [.cancel "c" true],
    .advance 15, .cancel "b" true, .cancel "a" false, .advance 15]

theorem handles_truthful_session :
    (Ticks (timersScenario.after []) (timersScenario.after timersSteps)
      ∧ (∀ c, Ticks (timersScenario.after []) c → Stepwise c
        ∧ ∃ d, Truthful d c ∧ ∀ c', Ticks c c' → ∃ d', Truthful d' c' ∧ d.Grows d')
      ∧ ∀ before millis later, timersSteps = before ++ .advance millis :: later →
        Advanced (Session.run before (timersScenario.after [])) millis
          (Session.take (.advance millis) (Session.run before (timersScenario.after []))))
      ∧ History.called (timersScenario.after timersSteps).journal = ["a", "c", "d"]
      ∧ History.clearings (timersScenario.after timersSteps).journal = [2]
      ∧ (timersScenario.after timersSteps).clock.now = 25 :=
  ⟨handles_truthful rfl (Scenario.setUp_eq_after (by decide +kernel)) (by decide +kernel),
    by decide +kernel, by decide +kernel, by decide +kernel⟩

end Proximity
