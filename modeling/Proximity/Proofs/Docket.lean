import Proximity.Proofs.History
import Proximity.Proofs.Ticking

/-!
# The books of a scheduler

A task that is put off is in the books (`Proximity.Docket`) from then on: first it is pending, and
at some time it may begin or be called off. Three other records tell of the same tasks, and one of
them is kept by the clock, one by the handles, and one by the journal.

| record | what it has to do with the books |
|---|---|
| what was noted | `Proximity.Noted` |
| the timers, and which handles are armed | `Proximity.Wound` |
| the time | `Proximity.InTurn` |

Each of the three is kept up by whatever happens (`Proximity.Tick`); that is settled here for one
at a time.
-/

namespace Proximity

open Act Session

/-! ### The books -/

/-- A task that was put off. -/
structure Job where
  /-- The number of its timer. -/
  id : Nat
  /-- When it is due. -/
  due : Number
  /-- Its name. -/
  name : String
  /-- The steps that it takes. -/
  script : List Step

namespace Job

/-- The timer of a task. -/
def timer (j : Job) : Timer := ⟨j.id, j.due, .scripted j.name j.script⟩

/-- **One task comes before another**: it is due earlier, or at the same time and was put off
earlier. -/
def Before (j j' : Job) : Prop := j.due < j'.due ∨ (j.due ≤ j'.due ∧ j.id < j'.id)

/-- Nothing of a task is lost in its timer. -/
theorem timer_injective {j j' : Job} (h : j.timer = j'.timer) : j = j' := by
  obtain ⟨id, due, name, script⟩ := j
  cases h
  rfl

/-- Who comes before is due no later. -/
theorem Before.le {j j' : Job} (h : j.Before j') : j.due ≤ j'.due := h.elim Number.le_of_lt (·.1)

end Job

/-- **What has become of the tasks.** -/
structure Docket where
  /-- The tasks that are pending, in the order in which they were put off. -/
  pending : List Job
  /-- The tasks that have begun, with the times of that, in their order. -/
  begun : List (Number × Job)
  /-- The tasks that were called off, in the order of that. -/
  off : List Job

namespace Docket

/-- All tasks. -/
def jobs (d : Docket) : List Job := d.pending ++ d.begun.map (·.2) ++ d.off

/-- Nothing is taken back of what has become of the tasks. -/
structure Grows (d d' : Docket) : Prop where
  /-- Whatever has begun, has begun. -/
  begun : d.begun <+: d'.begun
  /-- Whatever was called off, was called off. -/
  off : d.off <+: d'.off

end Docket

/-- The timer that is set by an entry. -/
def Entry.set? : Entry → Option (Nat × Number)
  | .timerSet id delay _ => some (id, delay)
  | _ => none

/-- The timer that is cleared by an entry. -/
def Entry.cleared? : Entry → Option Nat
  | .timerCleared id => some id
  | _ => none

/-- The timer that fires by an entry. -/
def Entry.fired? : Entry → Option Nat
  | .timerFired id => some id
  | _ => none

/-- The task that is called by an entry. -/
def Entry.ran? : Entry → Option String
  | .ran name => some name
  | _ => none

namespace History

/-- The timers that were set, with the times when they were due. -/
def settings (h : History) : List (Nat × Number) :=
  h.gather fun n => n.entry.set?.map fun s => (s.1, n.time + s.2)

/-- The timers that were cleared. -/
def clearings (h : History) : List Nat := h.gather (·.entry.cleared?)

/-- The timers that have fired. -/
def firings (h : History) : List Nat := h.gather (·.entry.fired?)

/-- The tasks that were called. -/
def called (h : History) : List String := h.gather (·.entry.ran?)

/-- **The tasks that were called when a timer had just fired**, each with the time and the
timer. -/
def runs : History → List (Number × Nat × String)
  | [] => []
  | n :: earlier =>
    match n.entry.ran?, earlier.head?.bind (·.entry.fired?) with
    | some name, some id => runs earlier ++ [(n.time, id, name)]
    | _, _ => runs earlier

theorem settings_cons (n : Note) (h : History) : settings (n :: h)
    = settings h ++ (n.entry.set?.map fun s => (s.1, n.time + s.2)).toList := gather_cons ..

theorem clearings_cons (n : Note) (h : History) :
    clearings (n :: h) = clearings h ++ n.entry.cleared?.toList := gather_cons ..

theorem firings_cons (n : Note) (h : History) :
    firings (n :: h) = firings h ++ n.entry.fired?.toList := gather_cons ..

theorem called_cons (n : Note) (h : History) :
    called (n :: h) = called h ++ n.entry.ran?.toList := gather_cons ..

end History

/-- **What has been noted of timers is in the books.** -/
structure Noted (d : Docket) (h : History) : Prop where
  /-- The tasks are those that were put off, each due when its delay had passed. -/
  settings : (History.settings h).Perm (d.jobs.map fun j => (j.id, j.due))
  /-- A task was called whenever its timer had just fired. -/
  runs : History.runs h = d.begun.map fun r => (r.1, r.2.id, r.2.name)
  /-- No other timer fired. -/
  firings : History.firings h = d.begun.map (·.2.id)
  /-- No other task was called. -/
  called : History.called h = d.begun.map (·.2.name)
  /-- The timers of those that were called off were cleared. -/
  clearings : History.clearings h = d.off.map (·.id)

/-- **What is in the books is on the clock.** -/
structure Wound (d : Docket) (c : Clock) : Prop where
  /-- The pending tasks have a timer each. -/
  pending : c.pending = d.pending.map Job.timer
  /-- Their handles are armed, and no others. -/
  armed : c.armed = d.pending.map (·.id)
  /-- They are in the order of their numbers. -/
  sorted : d.pending.Pairwise (·.id < ·.id)
  /-- They are due at times. -/
  due : ∀ j ∈ d.pending, j.due.IsTime

/-- **The tasks come in turn**, up to a time. -/
structure InTurn (d : Docket) (now : Number) : Prop where
  /-- No task began before it was due. -/
  punctual : ∀ r ∈ d.begun, r.2.due ≤ r.1
  /-- The tasks began in the order in which they were due, and then in that in which they were
  put off. -/
  order : (d.begun.map (·.2)).Pairwise Job.Before
  /-- What has begun comes before what is pending. -/
  ahead : ∀ r ∈ d.begun, ∀ j ∈ d.pending, r.2.Before j
  /-- What has begun was due by now. -/
  past : ∀ r ∈ d.begun, r.2.due ≤ now

variable {d : Docket} {j : Job} {h : History} {c : Clock} {now time limit : Number}

/-! ### One task of several -/

/-- **Of tasks in the order of their numbers, one is taken out by its number.** -/
theorem filter_of_sorted {before after : List Job} {j : Job}
    (sorted : (before ++ j :: after).Pairwise (·.id < ·.id)) :
    (before ++ j :: after).filter (·.id != j.id) = before ++ after := by
  obtain ⟨-, later, earlier⟩ := List.pairwise_append.mp sorted
  have after_lt := (List.pairwise_cons.mp later).1
  rw [List.filter_append, List.filter_cons_of_neg (by simp), List.filter_eq_self.mpr,
    List.filter_eq_self.mpr]
  · exact fun u hu => bne_iff_ne.mpr (after_lt u hu).ne'
  · exact fun u hu => bne_iff_ne.mpr (earlier u hu j List.mem_cons_self).ne

/-- A task that is not pending any more is elsewhere in the books. -/
theorem perm_filter {jobs : List Job} {j : Job} (sorted : jobs.Pairwise (·.id < ·.id))
    (mem : j ∈ jobs) : jobs.Perm (j :: jobs.filter (·.id != j.id)) := by
  obtain ⟨before, after, rfl⟩ := List.append_of_mem mem
  rw [filter_of_sorted sorted]
  exact List.perm_middle

/-- It makes no difference whether tasks or their timers are sorted out. -/
theorem map_timer_filter (jobs : List Job) (id : Nat) :
    (jobs.map Job.timer).filter (·.id != id) = (jobs.filter (·.id != id)).map Job.timer := by
  rw [List.filter_map]
  rfl

/-- Nor whether tasks or their numbers are. -/
theorem map_id_filter (jobs : List Job) (id : Nat) :
    (jobs.map (·.id)).filter (· != id) = (jobs.filter (·.id != id)).map (·.id) := by
  rw [List.filter_map]
  rfl

/-- Only where there is none is no timer the earliest. -/
theorem Clock.eq_nil_of_earliest? {timers : List Timer} (h : earliest? timers = none) :
    timers = [] := by
  cases timers with
  | nil => rfl
  | cons t rest =>
    rw [earliest?] at h
    cases best : earliest? rest with
    | none =>
      rw [best] at h
      cases h
    | some u =>
      rw [best] at h
      dsimp only at h
      split at h <;> cases h

/-- **The timer that fires next comes before all others that are due.** The induction is on the
tasks. -/
theorem before_of_earliest? {jobs : List Job} {j : Job} (sorted : jobs.Pairwise (·.id < ·.id))
    (times : ∀ u ∈ jobs, u.due.IsTime)
    (first : Clock.earliest? (jobs.map Job.timer) = some j.timer) :
    ∀ u ∈ jobs, u = j ∨ j.Before u := by
  induction jobs generalizing j with
  | nil => exact fun u hu => absurd hu List.not_mem_nil
  | cons head rest ih =>
    obtain ⟨later, sorted⟩ := List.pairwise_cons.mp sorted
    have times' : ∀ u ∈ rest, u.due.IsTime := fun u hu => times u (List.mem_cons_of_mem head hu)
    rw [List.map_cons, Clock.earliest?] at first
    cases best : Clock.earliest? (rest.map Job.timer) with
    | none =>
      rw [best] at first
      obtain rfl := List.map_eq_nil_iff.mp (Clock.eq_nil_of_earliest? best)
      intro u hu
      obtain rfl := List.mem_singleton.mp hu
      exact .inl (Job.timer_injective (Option.some.inj first))
    | some t =>
      obtain ⟨v, mem, rfl⟩ := List.mem_map.mp (Clock.mem_of_earliest? best)
      rw [best] at first
      dsimp only at first
      have others := ih sorted times' best
      split at first
      · rename_i earlier
        obtain rfl := Job.timer_injective (Option.some.inj first)
        intro u hu
        rcases List.mem_cons.mp hu with rfl | hu
        · exact .inr (.inl earlier)
        · exact others u hu
      · rename_i notEarlier
        obtain rfl := Job.timer_injective (Option.some.inj first)
        have first_le : head.due ≤ v.due :=
          Number.le_of_not_lt (times head List.mem_cons_self).ne_nan (times' v mem).ne_nan
            notEarlier
        intro u hu
        rcases List.mem_cons.mp hu with rfl | hu
        · exact .inl rfl
        · -- Among those that are due at the same time, the first has the least number.
          refine .inr (.inr ⟨?_, later u hu⟩)
          rcases others u hu with rfl | after
          · exact first_le
          · exact Number.le_trans first_le after.le

/-- **The task that begins comes before all others that are pending.** -/
theorem before_of_next? {jobs : List Job} (sorted : jobs.Pairwise (·.id < ·.id))
    (times : ∀ u ∈ jobs, u.due.IsTime) (pending : c.pending = jobs.map Job.timer)
    (next : c.next? limit = some j.timer) (mem : j ∈ jobs) :
    ∀ u ∈ jobs, u ≠ j → j.Before u := by
  have due : j.due ≤ limit := by
    have found := (List.mem_filter.mp (Clock.mem_of_earliest? next)).2
    exact of_decide_eq_true found
  rw [Clock.next?, pending, List.filter_map] at next
  have first := before_of_earliest? (sorted.filter _)
    (fun u hu => times u (List.mem_filter.mp hu).1) next
  intro u hu other
  by_cases late : u.due ≤ limit
  · exact (first u (List.mem_filter.mpr ⟨hu, decide_eq_true late⟩)).resolve_left other
  · -- What is not due by the limit is due later than anything that is.
    refine .inl (Number.lt_of_not_le (times j mem).ne_nan (times u hu).ne_nan fun h => ?_)
    exact late (Number.le_trans h due)

/-! ### What is done to the books -/

namespace Docket

/-- A task is put off. -/
def putOff (d : Docket) (j : Job) : Docket := { d with pending := d.pending ++ [j] }

/-- A task is called off. -/
def callOff (d : Docket) (j : Job) : Docket :=
  { d with pending := d.pending.filter (·.id != j.id), off := d.off ++ [j] }

/-- A task begins. -/
def begin (d : Docket) (time : Number) (j : Job) : Docket :=
  { d with pending := d.pending.filter (·.id != j.id), begun := d.begun ++ [(time, j)] }

theorem mem_jobs_of_pending (mem : j ∈ d.pending) : j ∈ d.jobs :=
  List.mem_append_left _ (List.mem_append_left _ mem)

theorem mem_jobs_of_begun {r : Number × Job} (mem : r ∈ d.begun) : r.2 ∈ d.jobs :=
  List.mem_append_left _ (List.mem_append_right _ (List.mem_map_of_mem mem))

/-- There is one task more when it is put off. -/
theorem jobs_putOff (d : Docket) (j : Job) : (d.putOff j).jobs.Perm (d.jobs ++ [j]) := by
  have moved : ([j] ++ (d.begun.map (·.2) ++ d.off)).Perm (d.begun.map (·.2) ++ d.off ++ [j]) :=
    List.perm_append_comm
  simpa only [jobs, putOff, List.append_assoc] using moved.append_left d.pending

/-- No task is lost when it is called off. -/
theorem jobs_callOff (sorted : d.pending.Pairwise (·.id < ·.id)) (mem : j ∈ d.pending) :
    (d.callOff j).jobs.Perm d.jobs := by
  have moved : (d.pending.filter (·.id != j.id) ++ d.begun.map (·.2) ++ d.off ++ [j]).Perm
      (j :: d.pending.filter (·.id != j.id) ++ d.begun.map (·.2) ++ d.off) :=
    List.perm_append_comm
  have back := ((perm_filter sorted mem).symm.append_right (d.begun.map (·.2))).append_right d.off
  simpa only [jobs, callOff, List.append_assoc] using moved.trans back

/-- Nor when it begins. -/
theorem jobs_begin (sorted : d.pending.Pairwise (·.id < ·.id)) (mem : j ∈ d.pending)
    (time : Number) : (d.begin time j).jobs.Perm d.jobs := by
  have moved : (d.pending.filter (·.id != j.id) ++ (d.begun.map (·.2) ++ [j])).Perm
      (j :: d.pending.filter (·.id != j.id) ++ d.begun.map (·.2)) := by
    rw [← List.append_assoc]
    exact List.perm_append_comm
  have back := (perm_filter sorted mem).symm.append_right (d.begun.map (·.2))
  simpa only [jobs, begin, List.map_append, List.map_cons, List.map_nil] using
    (moved.trans back).append_right d.off

theorem Grows.refl (d : Docket) : d.Grows d := ⟨List.prefix_rfl, List.prefix_rfl⟩

theorem Grows.trans {d' d'' : Docket} (h : d.Grows d') (h' : d'.Grows d'') : d.Grows d'' :=
  ⟨h.begun.trans h'.begun, h.off.trans h'.off⟩

end Docket

/-! ### What is noted -/

namespace Noted

open History (settings_cons clearings_cons firings_cons called_cons)

/-- What is not about timers or tasks changes nothing. -/
theorem cons {n : Note} (k : Noted d h) (set : n.entry.set? = none)
    (cleared : n.entry.cleared? = none) (fired : n.entry.fired? = none)
    (ran : n.entry.ran? = none) : Noted d (n :: h) := by
  constructor
  · simpa [settings_cons, set] using k.settings
  · rw [History.runs, ran]
    exact k.runs
  · simpa [firings_cons, fired] using k.firings
  · simpa [called_cons, ran] using k.called
  · simpa [clearings_cons, cleared] using k.clearings

/-- That a task is put off is noted. -/
theorem putOff (k : Noted d h) {id : Nat} {delay : Number} {keepsAlive : Bool}
    (name : String) (script : List Step) :
    Noted (d.putOff ⟨id, time + delay, name, script⟩)
      (⟨time, .timerSet id delay keepsAlive⟩ :: h) := by
  constructor
  · have all := ((d.jobs_putOff ⟨id, time + delay, name, script⟩).map fun j => (j.id, j.due)).symm
    rw [List.map_append] at all
    exact settings_cons .. ▸ (k.settings.append_right _).trans all
  · exact k.runs
  · simpa [firings_cons, Entry.fired?, Docket.putOff] using k.firings
  · simpa [called_cons, Entry.ran?, Docket.putOff] using k.called
  · simpa [clearings_cons, Entry.cleared?, Docket.putOff] using k.clearings

/-- So is that it is called off. -/
theorem callOff (k : Noted d h) (sorted : d.pending.Pairwise (·.id < ·.id)) (mem : j ∈ d.pending) :
    Noted (d.callOff j) (⟨time, .timerCleared j.id⟩ :: h) := by
  constructor
  · simpa [settings_cons, Entry.set?] using
      k.settings.trans ((Docket.jobs_callOff sorted mem).map _).symm
  · exact k.runs
  · simpa [firings_cons, Entry.fired?, Docket.callOff] using k.firings
  · simpa [called_cons, Entry.ran?, Docket.callOff] using k.called
  · simp [clearings_cons, Entry.cleared?, Docket.callOff, k.clearings]

/-- A task that begins is called at once. -/
theorem begin (k : Noted d h) (sorted : d.pending.Pairwise (·.id < ·.id)) (mem : j ∈ d.pending) :
    Noted (d.begin time j) (⟨time, .ran j.name⟩ :: ⟨time, .timerFired j.id⟩ :: h) := by
  constructor
  · simpa [settings_cons, Entry.set?] using
      k.settings.trans ((Docket.jobs_begin sorted mem time).map _).symm
  · show History.runs h ++ [(time, j.id, j.name)] = _
    rw [k.runs, Docket.begin, List.map_append]
    rfl
  · simp [firings_cons, Entry.fired?, Docket.begin, k.firings]
  · simp [called_cons, Entry.ran?, Docket.begin, k.called]
  · simpa [clearings_cons, Entry.cleared?, Docket.begin] using k.clearings

end Noted

/-! ### What is on the clock -/

namespace Wound

/-- A task that is put off has a timer of its own, whose handle is armed. -/
theorem putOff (w : Wound d c) (bound : ∀ j ∈ d.pending, j.id ≤ c.lastId) {delay : Number}
    (due : (c.now + delay.atLeastZero).IsTime) (name : String) (script : List Step) :
    Wound (d.putOff ⟨c.lastId + 1, c.now + delay.atLeastZero, name, script⟩)
      (c.set delay (.scripted name script)) := by
  constructor
  · rw [Clock.set, Docket.putOff, List.map_append, w.pending]
    rfl
  · rw [Clock.set, Docket.putOff, List.map_append, w.armed]
    rfl
  · refine List.pairwise_append.mpr ⟨w.sorted, List.pairwise_singleton .., fun u hu v hv => ?_⟩
    obtain rfl := List.mem_singleton.mp hv
    exact Nat.lt_succ_of_le (bound u hu)
  · intro u hu
    rcases List.mem_append.mp hu with hu | hu
    · exact w.due u hu
    · exact List.mem_singleton.mp hu ▸ due

/-- A timer and its handle go together. -/
theorem remove (w : Wound d c) (id : Nat) (begun : List (Number × Job)) (off : List Job) :
    Wound ⟨d.pending.filter (·.id != id), begun, off⟩ ((c.remove id).disarm id) := by
  constructor
  · rw [← map_timer_filter, ← w.pending]
    rfl
  · rw [← map_id_filter, ← w.armed]
    rfl
  · exact w.sorted.filter _
  · exact fun u hu => w.due u (List.mem_filter.mp hu).1

/-- **A handle is armed just as long as its task is pending.** -/
theorem isArmed_iff (w : Wound d c) {id : Nat} :
    c.isArmed id = true ↔ id ∈ d.pending.map (·.id) := by
  rw [Clock.isArmed, decide_eq_true_iff, w.armed]

end Wound

/-! ### What comes in turn -/

namespace InTurn

/-- A task that is put off is due no earlier than now, and comes after all that have begun. -/
theorem putOff {j : Job} (t : InTurn d now) (due : now ≤ j.due)
    (last : ∀ r ∈ d.begun, r.2.id < j.id) :
    InTurn (d.putOff j) now := by
  refine ⟨t.punctual, t.order, fun r hr u hu => ?_, t.past⟩
  rcases List.mem_append.mp hu with hu | hu
  · exact t.ahead r hr u hu
  · obtain rfl := List.mem_singleton.mp hu
    exact .inr ⟨Number.le_trans (t.past r hr) due, last r hr⟩

/-- Calling a task off makes none begin too late. -/
theorem callOff (t : InTurn d now) (j : Job) : InTurn (d.callOff j) now :=
  ⟨t.punctual, t.order, fun r hr u hu => t.ahead r hr u (List.mem_filter.mp hu).1, t.past⟩

/-- **A task that begins comes after all that have begun**, as it comes before all others that are
pending. -/
theorem begin (t : InTurn d now) (mem : j ∈ d.pending)
    (first : ∀ u ∈ d.pending, u ≠ j → j.Before u)
    (due : j.due ≤ time) (later : now ≤ time) : InTurn (d.begin time j) time := by
  constructor
  · intro r hr
    rcases List.mem_append.mp hr with hr | hr
    · exact t.punctual r hr
    · exact List.mem_singleton.mp hr ▸ due
  · rw [Docket.begin, List.map_append]
    refine List.pairwise_append.mpr ⟨t.order, List.pairwise_singleton .., fun u hu v hv => ?_⟩
    obtain ⟨r, hr, rfl⟩ := List.mem_map.mp hu
    rw [List.mem_singleton.mp hv]
    exact t.ahead r hr j mem
  · intro r hr u hu
    obtain ⟨hu, other⟩ := List.mem_filter.mp hu
    rcases List.mem_append.mp hr with hr | hr
    · exact t.ahead r hr u hu
    · obtain rfl := List.mem_singleton.mp hr
      exact first u hu fun same => bne_iff_ne.mp other (congrArg Job.id same)
  · intro r hr
    rcases List.mem_append.mp hr with hr | hr
    · exact Number.le_trans (t.past r hr) later
    · exact List.mem_singleton.mp hr ▸ due

/-- The time may pass. -/
theorem elapse (t : InTurn d now) (later : now ≤ time) : InTurn d time :=
  ⟨t.punctual, t.order, t.ahead, fun r hr => Number.le_trans (t.past r hr) later⟩

end InTurn

end Proximity
