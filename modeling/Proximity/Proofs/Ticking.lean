import Mathlib.Logic.Relation
import Proximity.Proofs.Exec
import Proximity.Proofs.Rounding

/-!
# What happens to timers

A bench has timers and no sensors, and steps are taken that put tasks off, call them off, ask
for them, fail, and move the clock on; and when tasks are run, they take steps like that in turn.
Whatever is done, it is one of four things at a time (`Proximity.Tick`):

| what happens | |
|---|---|
| a task is put off | `Proximity.Bench.putOff` |
| a task is called off | `Proximity.Bench.callOff` |
| the task that is due first begins | `Proximity.Bench.begin` |
| time passes, while no task is due | `Proximity.Bench.elapse` |

Between two of these, steps are taken: from outside, or by a task that has begun. That nothing
else happens in a session is `Proximity.Ready.run`; that the clock is not moved on before all
tasks that are due by then have begun, unless one of them fails (`Proximity.TaskFailed`), is
`Proximity.ticks_advance`.
-/

namespace Proximity

open Act Session

/-! ### Steps -/

namespace Step

mutual

/-- Whether a step does nothing but put a task off, call one off, ask for one, or fail. The delay
has to be finite, and the steps that the task takes have to be like that, too. -/
def isTimerCall : Step → Bool
  | .schedule _ millis _ script => millis.isFinite && areTimerCalls script
  | .cancel _ _ | .active _ | .throwError _ | .throwValue _ => true
  | _ => false

/-- Whether all steps of a script are like that. -/
def areTimerCalls : List Step → Bool
  | [] => true
  | step :: rest => isTimerCall step && areTimerCalls rest

end

/-- Whether a step calls timers or moves the clock on, and not back. -/
def isTimerStep : Step → Bool
  | .advance millis => millis.isFinite && decide (0 ≤ millis)
  | step => step.isTimerCall

end Step

/-! ### What happens -/

namespace Bench

/-- A bench on which a task has been put off. Its handle is kept, unless nobody can be asked
whether the timer keeps the program alive. -/
def putOff (b : Bench) (name : String) (delay : Number) (keepsAlive : Option Bool)
    (script : List Step) : Bench :=
  let clock := b.clock.set delay (.scripted name script)
  let noted := noted { b with clock } (.timerSet clock.lastId delay.atLeastZero
    (keepsAlive.getD true))
  if keepsAlive.isNone then noted
  else { noted with handles := (name, noted.clock.lastId) :: noted.handles }

/-- A bench on which a task has been called off. -/
def callOff (b : Bench) (id : Nat) : Bench :=
  let noted := noted { b with clock := b.clock.remove id } (.timerCleared id)
  { noted with clock := noted.clock.disarm id }

/-- A bench on which a task has begun. -/
def begin (b : Bench) (t : Timer) (name : String) : Bench :=
  let fired := noted { b with clock := (b.clock.remove t.id).reach t.due } (.timerFired t.id)
  noted { fired with clock := fired.clock.disarm t.id } (.ran name)

/-- A bench on which time has passed. -/
def elapse (b : Bench) (time : Number) : Bench := { b with clock := { b.clock with now := time } }

section

variable (b : Bench) (name : String) (delay : Number) (keepsAlive : Option Bool)
  (script : List Step)

@[simp] theorem clock_putOff :
    (b.putOff name delay keepsAlive script).clock = b.clock.set delay (.scripted name script) := by
  rw [putOff]
  split <;> rfl

@[simp] theorem target_putOff : (b.putOff name delay keepsAlive script).target = b.target := by
  rw [putOff]
  split <;> rfl

@[simp] theorem journal_putOff : (b.putOff name delay keepsAlive script).journal
    = ⟨b.clock.now, .timerSet (b.clock.lastId + 1) delay.atLeastZero (keepsAlive.getD true)⟩
      :: b.journal := by
  rw [putOff]
  split <;> rfl

end

end Bench

/-- **What may happen next** on a bench with timers. -/
inductive Tick : Bench → Bench → Prop where
  /-- A task is put off. -/
  | putOff {b : Bench} (name : String) {delay : Number} (keepsAlive : Option Bool)
      {script : List Step} : delay.isFinite = true → Step.areTimerCalls script = true →
      Tick b (b.putOff name delay keepsAlive script)
  /-- A task that is pending is called off. -/
  | callOff {b : Bench} {id : Nat} : b.clock.isArmed id = true → Tick b (b.callOff id)
  /-- The task that is due first begins. -/
  | begin {b : Bench} {limit : Number} {t : Timer} {name : String} {script : List Step} :
      b.clock.next? limit = some t → t.task = .scripted name script → Tick b (b.begin t name)
  /-- Time passes, up to a time by which no task is due. -/
  | elapse {b : Bench} {limit : Number} : b.clock.next? limit = none → b.clock.now ≤ limit →
      limit.IsTime → Tick b (b.elapse limit)

/-- **What may happen** on a bench with timers, one thing after the other. -/
abbrev Ticks : Bench → Bench → Prop := Relation.ReflTransGen Tick

/-- **A bench with timers in order**: all tasks come from outside, and the clock shows a time. -/
structure Ready (b : Bench) : Prop where
  /-- Steps are aimed at timers. -/
  target : b.target = .timers
  /-- The tasks that are pending take steps that call timers. -/
  tasks : ∀ t ∈ b.clock.pending, ∃ name script, t.task = .scripted name script
    ∧ Step.areTimerCalls script = true
  /-- The clock shows a time. -/
  now : b.clock.now.IsTime
  /-- Tasks are due at times. -/
  due : ∀ t ∈ b.clock.pending, t.due.IsTime

variable {b b' : Bench} {limit : Number}

/-! ### The later of two times -/

namespace Clock

variable {c : Clock} {time : Number}

theorem isTime_reach (now : c.now.IsTime) (later : time.IsTime) : (c.reach time).now.IsTime := by
  rw [reach]
  split
  · exact later
  · exact now

theorem le_reach (now : c.now.IsTime) (later : time.IsTime) : time ≤ (c.reach time).now := by
  rw [reach]
  split
  · exact later.le_self
  · rename_i notEarlier
    exact Number.le_of_not_lt later.ne_nan now.ne_nan notEarlier

theorem now_le_reach (now : c.now.IsTime) : c.now ≤ (c.reach time).now := by
  rw [reach]
  split
  · rename_i earlier
    exact Number.le_of_lt earlier
  · exact now.le_self

theorem reach_le (now : c.now ≤ limit) (later : time ≤ limit) : (c.reach time).now ≤ limit := by
  rw [reach]
  split
  · exact later
  · exact now

end Clock

/-! ### Keeping in order -/

namespace Ready

theorem tick (r : Ready b) (h : Tick b b') : Ready b' := by
  cases h with
  | @putOff name delay keepsAlive script finite calls =>
    obtain ⟨finite, positive⟩ := Number.atLeastZero_spec finite
    obtain ⟨due, -⟩ := r.now.add finite positive
    have all {P : Timer → Prop} (old : ∀ t ∈ b.clock.pending, P t)
        (new : P ⟨b.clock.lastId + 1, b.clock.now + delay.atLeastZero, .scripted name script⟩) :
        ∀ t ∈ (b.clock.set delay (.scripted name script)).pending, P t := by
      intro t ht
      rcases List.mem_append.mp ht with ht | ht
      · exact old t ht
      · exact List.mem_singleton.mp ht ▸ new
    refine ⟨(Bench.target_putOff ..).trans r.target, ?_, ?_, ?_⟩ <;> rw [Bench.clock_putOff]
    · exact all r.tasks ⟨name, script, rfl, calls⟩
    · exact r.now
    · exact all r.due due
  | callOff =>
    exact ⟨r.target, fun u hu => r.tasks u (List.mem_filter.mp hu).1, r.now,
      fun u hu => r.due u (List.mem_filter.mp hu).1⟩
  | @begin limit t name script next task =>
    have mem : t ∈ b.clock.pending := (List.mem_filter.mp (Clock.mem_of_earliest? next)).1
    exact ⟨r.target, fun u hu => r.tasks u (List.mem_filter.mp hu).1,
      Clock.isTime_reach r.now (r.due t mem), fun u hu => r.due u (List.mem_filter.mp hu).1⟩
  | elapse none later time => exact ⟨r.target, r.tasks, time, r.due⟩

theorem ticks (r : Ready b) (h : Ticks b b') : Ready b' := by
  induction h with
  | refl => exact r
  | tail _ tick ih => exact ih.tick tick

end Ready

/-! ### Steps are taken -/

namespace Bench

section Unrest

variable {α : Type} {unrest : α → Nat} {l : List α}

theorem unrestOf_append (l' : List α) :
    unrestOf unrest (l ++ l') = unrestOf unrest l + unrestOf unrest l' := by
  induction l with
  | nil => exact (Nat.zero_add _).symm
  | cons a l ih => rw [List.cons_append, unrestOf, unrestOf, ih, Nat.add_assoc]

theorem unrestOf_filter_le (p : α → Bool) : unrestOf unrest (l.filter p) ≤ unrestOf unrest l := by
  induction l with
  | nil => exact Nat.le_refl 0
  | cons a l ih =>
    rw [List.filter_cons, unrestOf]
    split
    · exact Nat.add_le_add_left ih _
    · exact Nat.le_trans ih (Nat.le_add_left ..)

/-- What is taken out of a list does not come to anything any more. -/
theorem unrestOf_filter_of_mem {p : α → Bool} {a : α} (mem : a ∈ l) (out : p a = false) :
    unrestOf unrest (l.filter p) + unrest a ≤ unrestOf unrest l := by
  induction l with
  | nil => cases mem
  | cons first l ih =>
    rw [List.filter_cons, unrestOf]
    rcases List.mem_cons.mp mem with rfl | mem
    · rw [out, if_neg Bool.false_ne_true, Nat.add_comm]
      exact Nat.add_le_add_left (unrestOf_filter_le p) _
    · have rest := ih mem
      split
      · rw [unrestOf]
        omega
      · omega

end Unrest

/-- How much can come of the tasks that are pending. -/
def timerUnrest (b : Bench) : Nat := unrestOf (fun t => taskUnrest t.task) b.clock.pending

end Bench

/-- **Steps that call timers have been taken**, of which no more can come than so much. -/
structure Called (cost : Nat) (b b' : Bench) : Prop where
  /-- Nothing else has happened. -/
  ticks : Ticks b b'
  /-- No time has passed. -/
  now : b'.clock.now = b.clock.now
  /-- No more comes of it. -/
  unrest : b'.timerUnrest ≤ b.timerUnrest + cost

namespace Called

variable {b'' : Bench} {cost cost' : Nat}

theorem refl (b : Bench) : Called cost b b := ⟨.refl, rfl, Nat.le_add_right ..⟩

theorem trans (h : Called cost b b') (h' : Called cost' b' b'') : Called (cost + cost') b b'' := by
  refine ⟨h.ticks.trans h'.ticks, h'.now.trans h.now, ?_⟩
  have := h.unrest
  have := h'.unrest
  omega

end Called

variable {call : Reactor} {name : String}

/-- **A task is put off**, even if the step fails. -/
theorem exec_schedule (target : b.target = .timers) (delay : Number) (keepsAlive : Option Bool)
    (script : List Step) : exec (perform call (.schedule name delay keepsAlive script)) b
      = (if keepsAlive.isNone then .error (.missing "null" "unref") else .ok .none,
        b.putOff name delay keepsAlive script) := by
  rw [perform, onTimers, exec_bind_of_ok (exec_get b), target]
  cases keepsAlive <;> rfl

/-- **A task is called off**, if its handle is armed. -/
theorem exec_cancelTimer (id : Nat) (b : Bench) :
    exec (Timer.cancel id) b = (.ok (), if b.clock.isArmed id then b.callOff id else b) := by
  rw [Timer.cancel, exec_bind_of_ok (exec_get b)]
  split <;> rfl

theorem exec_handle_of_some {id : Nat} (h : b.handles.lookup name = some id) (asked : String) :
    exec (handle name asked) b = (.ok id, b) := by
  rw [handle, exec_bind_of_ok (exec_get b), h]
  rfl

theorem exec_handle_of_none (h : b.handles.lookup name = none) (asked : String) :
    exec (handle name asked) b = (.error (.missing "undefined" asked), b) := by
  rw [handle, exec_bind_of_ok (exec_get b), h]
  rfl

/-- To call a task off by its handle or by the scheduler is the same. -/
theorem exec_cancel_eq (target : b.target = .timers) (direct : Bool) :
    exec (perform call (.cancel name direct)) b
      = exec (handle name "cancel" >>= fun id => quietly (Timer.cancel id)) b := by
  cases direct with
  | true => rfl
  | false => rw [perform, onTimers, exec_bind_of_ok (exec_get b), target]

/-- **A task is called off by its handle.** -/
theorem exec_cancel (target : b.target = .timers) {id : Nat}
    (h : b.handles.lookup name = some id) (direct : Bool) :
    exec (perform call (.cancel name direct)) b
      = (.ok .none, if b.clock.isArmed id then b.callOff id else b) := by
  rw [exec_cancel_eq target]
  exact (exec_bind_of_ok (exec_handle_of_some h _)).trans (exec_bind_of_ok (exec_cancelTimer id b))

/-- **A handle is asked whether its task is pending.** -/
theorem exec_active {id : Nat} (h : b.handles.lookup name = some id) :
    exec (perform call (.active name)) b = (.ok (.active (b.clock.isArmed id)), b) := by
  rw [perform, exec_bind_of_ok (exec_handle_of_some h _), exec_bind_of_ok (exec_get b)]
  rfl

/-- What has no handle cannot be called off. -/
theorem exec_cancel_of_none (target : b.target = .timers) (h : b.handles.lookup name = none)
    (direct : Bool) : exec (perform call (.cancel name direct)) b
      = (.error (.missing "undefined" "cancel"), b) := by
  rw [exec_cancel_eq target]
  exact exec_bind_of_error (exec_handle_of_none h _)

/-- What has no handle cannot be asked for. -/
theorem exec_active_of_none (h : b.handles.lookup name = none) :
    exec (perform call (.active name)) b = (.error (.missing "undefined" "isActive"), b) :=
  exec_bind_of_error (exec_handle_of_none h _)

/-- **A step that calls timers is taken.** -/
theorem called_perform (call : Reactor) (target : b.target = .timers) {step : Step}
    (calls : step.isTimerCall = true) :
    Called step.weight b (after (perform call step) b) := by
  cases step with
  | schedule name delay keepsAlive script =>
    obtain ⟨finite, calls⟩ := Bool.and_eq_true_iff.mp calls
    rw [after, exec_schedule target]
    refine ⟨.single (.putOff name keepsAlive finite calls), ?_, ?_⟩
    · rw [Bench.clock_putOff]
      rfl
    · rw [Bench.timerUnrest, Bench.clock_putOff, Clock.set, Bench.unrestOf_append, Step.weight]
      exact Nat.le_refl _
  | cancel name direct =>
    cases h : b.handles.lookup name with
    | none =>
      rw [after, exec_cancel_of_none target h]
      exact .refl b
    | some id =>
      rw [after, exec_cancel target h]
      cases armed : b.clock.isArmed id with
      | false => exact .refl b
      | true =>
        exact ⟨.single (.callOff armed), rfl,
          Nat.le_trans (Bench.unrestOf_filter_le _) (Nat.le_add_right ..)⟩
  | active name =>
    cases h : b.handles.lookup name with
    | none =>
      rw [after, exec_active_of_none h]
      exact .refl b
    | some id =>
      rw [after, exec_active h]
      exact .refl b
  | «throwError» | throwValue => exact .refl b
  | _ => cases calls

/-- **The steps of a script are taken**, until one fails. The induction is on the script. -/
theorem called_performAll (call : Reactor) (r : Ready b) {script : List Step}
    (calls : Step.areTimerCalls script = true) :
    Called (Step.weightAll script) b (after (performAll call script) b) := by
  induction script generalizing b with
  | nil => exact .refl b
  | cons step script ih =>
    obtain ⟨first, others⟩ := Bool.and_eq_true_iff.mp calls
    have taken := called_perform call r.target first
    rw [Step.weightAll, performAll, forM_cons]
    rcases e : exec (perform call step) b with ⟨fault | answer, b₁⟩
    all_goals
      have left : after (perform call step) b = b₁ := congrArg Prod.snd e
      rw [left] at taken
    · have failed : exec (perform call step >>= fun _ => pure ()) b = (.error fault, b₁) :=
        exec_bind_of_error e
      rw [after, exec_bind_of_error failed]
      exact taken.trans (.refl b₁)
    · have done : exec (perform call step >>= fun _ => pure ()) b = (.ok (), b₁) :=
        exec_bind_of_ok e
      rw [after, exec_bind_of_ok done]
      exact taken.trans (ih (r.ticks taken.ticks) others)

/-! ### The clock is moved on -/

/-- **A timer that fires begins its task**, which takes its steps then. -/
theorem exec_fire (call : Reactor) (b : Bench) {t : Timer} {script : List Step}
    (task : t.task = .scripted name script) :
    exec (Timer.fire call t) b = exec (call (.task script)) (b.begin t name) := by
  rw [Timer.fire, exec_bind_of_ok (show exec (Timer.strike t) b = (.ok (), _) from rfl), Timer.run,
    task]
  rfl

/-- A task that begins is not pending any more. -/
theorem timerUnrest_begin {t : Timer} {script : List Step} (mem : t ∈ b.clock.pending)
    (task : t.task = .scripted name script) :
    (b.begin t name).timerUnrest + Step.weightAll script + 1 ≤ b.timerUnrest := by
  have least : (b.begin t name).timerUnrest + Bench.taskUnrest t.task ≤ b.timerUnrest :=
    Bench.unrestOf_filter_of_mem mem (by simp)
  rwa [task] at least

/-- **A task has failed** that was due by a time: it began, and one of its steps failed. -/
def TaskFailed (limit : Number) (fault : Fault) (b b' : Bench) : Prop :=
  ∃ c t name script depth, Ticks b c ∧ c.clock.next? limit = some t
    ∧ t.task = .scripted name script
    ∧ exec (performAll (react depth) script) (c.begin t name) = (.error fault, b')

/-- What fails later fails. -/
theorem TaskFailed.head {b₁ : Bench} {fault : Fault} (h : TaskFailed limit fault b₁ b')
    (path : Ticks b b₁) : TaskFailed limit fault b b' := by
  obtain ⟨c, t, name, script, depth, path', rest⟩ := h
  exact ⟨c, t, name, script, depth, path.trans path', rest⟩

/-- **A timer fires**, and its task fails, or less may come of what is left than before. -/
theorem ticks_fire (depth : Nat) (r : Ready b) (now : b.clock.now ≤ limit) {t : Timer}
    (next : b.clock.next? limit = some t) :
    ∃ o b', exec (Timer.fire (react (depth + 1)) t) b = (o, b') ∧ Ticks b b'
      ∧ b'.clock.now ≤ limit ∧ b'.timerUnrest < b.timerUnrest
      ∧ ∀ fault, o = .error fault → TaskFailed limit fault b b' := by
  obtain ⟨mem, due⟩ := List.mem_filter.mp (Clock.mem_of_earliest? next)
  obtain ⟨name, script, task, calls⟩ := r.tasks t mem
  have tick : Tick b (b.begin t name) := .begin next task
  have ran := called_performAll (react depth) (r.tick tick) calls
  have begun : (b.begin t name).clock.now ≤ limit := Clock.reach_le now (of_decide_eq_true due)
  refine ⟨_, after (performAll (react depth) script) (b.begin t name),
    exec_fire (react (depth + 1)) b task, .head tick ran.ticks, ran.now ▸ begun, ?_, ?_⟩
  · have := ran.unrest
    have := timerUnrest_begin mem task
    omega
  · exact fun fault e => ⟨b, t, name, script, depth, .refl, next, task, Prod.ext e rfl⟩

/-- **Timers fire up to a time, each when it is due first.** If no task fails, there is none left
that is due by then, provided that enough timers may fire. The induction is on how many may. -/
theorem ticks_fireUntil (depth bound : Nat) (r : Ready b) (now : b.clock.now ≤ limit) :
    ∃ o b', exec (Timer.fireUntil (react (depth + 1)) limit bound) b = (o, b') ∧ Ticks b b'
      ∧ ((∃ fault, o = .error fault ∧ TaskFailed limit fault b b')
        ∨ (o = .ok () ∧ b'.clock.now ≤ limit
          ∧ (b.timerUnrest < bound → b'.clock.next? limit = none))) := by
  induction bound generalizing b with
  | zero =>
    exact ⟨_, b, rfl, .refl, .inr ⟨rfl, now, fun enough => absurd enough (Nat.not_lt_zero _)⟩⟩
  | succ bound ih =>
    cases next : b.clock.next? limit with
    | none =>
      exact ⟨_, b, exec_fireUntil_of_none _ bound next, .refl, .inr ⟨rfl, now, fun _ => next⟩⟩
    | some t =>
      rw [exec_fireUntil_of_some _ bound next]
      obtain ⟨o, b₁, fired, path, now', less, failed⟩ := ticks_fire depth r now next
      cases o with
      | error fault =>
        exact ⟨_, b₁, exec_bind_of_error fired, path, .inl ⟨fault, rfl, failed fault rfl⟩⟩
      | ok =>
        obtain ⟨o, b', rest, path', ends⟩ := ih (r.ticks path) now'
        refine ⟨o, b', (exec_bind_of_ok fired).trans rest, path.trans path', ?_⟩
        rcases ends with ⟨fault, e, failed⟩ | ⟨e, now'', all⟩
        · exact .inl ⟨fault, e, failed.head path⟩
        · -- Each timer that fires leaves less to be fired, whatever its task puts off.
          exact .inr ⟨e, now'', fun enough => all (by omega)⟩

/-- **The clock is moved on.** If no task fails, the clock shows the time then, and no task is
left that is due by it. -/
theorem ticks_advance (depth : Nat) (r : Ready b) {millis : Number} {bound : Nat}
    (finite : millis.isFinite = true) (positive : 0 ≤ millis) (enough : b.timerUnrest < bound) :
    ∃ o b', exec (Timer.advance (react (depth + 1)) millis bound) b = (o, b') ∧ Ticks b b'
      ∧ ((∃ fault, o = .error fault ∧ TaskFailed (b.clock.now + millis) fault b b')
        ∨ (o = .ok () ∧ b'.clock.now = b.clock.now + millis
          ∧ b'.clock.next? (b.clock.now + millis) = none)) := by
  obtain ⟨time, later⟩ := r.now.add finite positive
  have start : exec (Timer.advance (react (depth + 1)) millis bound) b
      = exec (Timer.fireUntil (react (depth + 1)) (b.clock.now + millis) bound >>= fun _ =>
        Bench.modifyClock fun c => { c with now := b.clock.now + millis }) b :=
    exec_bind_of_ok (exec_get b)
  rw [start]
  obtain ⟨o, b₁, e, path, ⟨fault, rfl, failed⟩ | ⟨rfl, now, all⟩⟩ :=
    ticks_fireUntil depth bound r later
  · exact ⟨_, b₁, exec_bind_of_error e, path, .inl ⟨fault, rfl, failed⟩⟩
  · have none := all enough
    exact ⟨_, _, exec_bind_of_ok e, path.tail (.elapse none now time), .inr ⟨rfl, rfl, none⟩⟩

/-! ### Sessions -/

/-- What a session may fire is enough. -/
theorem timerUnrest_lt_firings (b : Bench) : b.timerUnrest < firings b := by
  rw [firings, Bench.unrest, Bench.timerUnrest]
  omega

/-- **The clock is moved on from outside.** Either a task fails, or the clock shows the time and no
task is left that is due by it. -/
theorem Ready.take_advance (r : Ready b) {millis : Number} (finite : millis.isFinite = true)
    (positive : 0 ≤ millis) :
    ∃ o b', Session.take (.advance millis) b = ⟨o, b'⟩ ∧ Ticks b b'
      ∧ ((∃ fault, o = .error fault ∧ TaskFailed (b.clock.now + millis) fault b b')
        ∨ (o = .ok .none ∧ b'.clock.now = b.clock.now + millis
          ∧ b'.clock.next? (b.clock.now + millis) = none)) := by
  -- Calls may go at least one level deep, which is where tasks take their steps.
  obtain ⟨level, deep⟩ : ∃ level, depth b (.advance millis) = level + 1 := ⟨_, rfl⟩
  have start := exec_perform_advance (react (depth b (.advance millis))) millis b
  obtain ⟨o, b', e, path, ends⟩ := ticks_advance level r finite positive (timerUnrest_lt_firings b)
  rw [← deep] at e
  rcases ends with ⟨fault, rfl, failed⟩ | ⟨rfl, done⟩
  · exact ⟨_, b', take_of_exec (start.trans (exec_bind_of_error e)), path,
      .inl ⟨fault, rfl, failed⟩⟩
  · exact ⟨_, b', take_of_exec (start.trans (exec_bind_of_ok e)), path, .inr ⟨rfl, done⟩⟩

/-- **A step is taken from outside.** -/
theorem Ready.take (r : Ready b) {step : Step} (proper : step.isTimerStep = true) :
    Ticks b (Session.take step b).bench := by
  by_cases moves : ∃ millis, step = .advance millis
  · obtain ⟨millis, rfl⟩ := moves
    obtain ⟨finite, positive⟩ := Bool.and_eq_true_iff.mp proper
    obtain ⟨o, b', taken, path, -⟩ := r.take_advance finite (of_decide_eq_true positive)
    exact taken ▸ path
  · have calls : step.isTimerCall = true := by
      cases step with
      | advance millis => exact absurd ⟨millis, rfl⟩ moves
      | _ => exact proper
    exact (called_perform (react (depth b step)) r.target calls).ticks

/-- **Some steps are taken.** The induction is on them. -/
theorem Ready.run (r : Ready b) {steps : List Step}
    (proper : ∀ step ∈ steps, step.isTimerStep = true) : Ticks b (Session.run steps b) := by
  induction steps generalizing b with
  | nil => exact .refl
  | cons step steps ih =>
    have path := r.take (proper step List.mem_cons_self)
    exact path.trans (ih (r.ticks path) fun step hs => proper step (List.mem_cons_of_mem _ hs))

end Proximity
