import Proximity.Proofs.Course
import Proximity.Proofs.Recheck

/-!
# The recheck is due on time

When the secondary says far against a near primary outside safe mode, it contradicts it, and the
fusion puts a recheck off. However often that happens, and whatever else is done, there is never
more than one recheck to come, and it is due when the secondary has contradicted the primary
*last* and the delay has passed (`Proximity.History.contradiction`). Somebody who stops the
fusion can rely on there being none: a teardown calls the recheck off, in the middle of a call
as well as from outside.

The main statement is `Proximity.recheck_on_time`. What it says of timers comes from an invariant
(`Proximity.Punctual`). That holds between two steps and in the middle of one alike: a bench that is
in trim (`Proximity.Trim`) stays so whatever is called and whatever steps are taken inside a call
(`Proximity.Trim.react`, `Proximity.Trim.perform`), and a step that stops its fusion leaves no
recheck to come, at whatever depth (`Proximity.Trim.rechecks_eq_nil_of_stops`). The teardowns that
the history tells of are moments on the course of the session (`Proximity.Course`).
-/

namespace Proximity

open Act Session

/-- Every handle that is armed belongs to a pending timer, and the other way round. -/
def Clock.Paired (c : Clock) : Prop := c.armed = c.pending.map (·.id)

namespace Clock

variable {c : Clock}

/-- A timer that is set has an armed handle. -/
theorem Paired.set (h : c.Paired) (delay : Number) (task : Task) : (c.set delay task).Paired := by
  rw [Paired, Clock.set, List.map_append, ← h]
  rfl

/-- A timer that goes loses its handle. -/
theorem Paired.remove (h : c.Paired) (id : Nat) : ((c.remove id).disarm id).Paired := by
  have armed : ((c.remove id).disarm id).armed = c.armed.filter (· != id) := rfl
  rw [Paired, armed, h, List.filter_map]
  rfl

/-- So does one that is called off. -/
theorem Paired.callOff (h : c.Paired) (timer : Option Nat) : (c.callOff timer).Paired := by
  cases timer with
  | none => exact h
  | some id =>
    rw [Clock.callOff]
    split
    · exact h.remove id
    · exact h

/-- Removing a timer adds no recheck. -/
theorem rechecks_remove_subset (c : Clock) (id : Nat) : (c.remove id).rechecks ⊆ c.rechecks := by
  rw [rechecks_remove]
  exact List.filter_subset_self _

/-- Nor does calling one off. -/
theorem rechecks_callOff_subset (c : Clock) (timer : Option Nat) :
    (c.callOff timer).rechecks ⊆ c.rechecks := by
  cases timer with
  | none => exact List.Subset.refl _
  | some id =>
    rw [callOff]
    split
    · exact c.rechecks_remove_subset id
    · exact List.Subset.refl _

end Clock

namespace History

/-- **When the secondary has contradicted a near primary last**, outside safe mode. -/
def contradiction : History → Option Number
  | [] => none
  | n :: earlier =>
    match n.entry with
    | .turned (.sensed .secondary r) =>
      if !safe earlier && primary earlier == some true && !r.near then some n.time
      else contradiction earlier
    | _ => contradiction earlier

/-- Whether a teardown is the latest entry. -/
def torn : History → Bool
  | [] => false
  | n :: _ => !n.entry.goesOn

variable {h h' : History} {n : Note}

/-- Routine does not tell of a contradiction. -/
theorem contradiction_cons_of_isRoutine (hn : n.entry.isRoutine = true) (h : History) :
    contradiction (n :: h) = contradiction h := by
  rcases n with ⟨time, entry⟩
  cases entry with
  | turned t =>
    cases t with
    | sensed => cases hn
    | _ => rfl
  | _ => rfl

/-- The secondary contradicts nobody. -/
theorem contradiction_cons_of_agrees {r : Reading}
    (agrees : ¬ (h.safe = false ∧ h.primary = some true ∧ r.near = false)) (time : Number) :
    contradiction (⟨time, .turned (.sensed .secondary r)⟩ :: h) = contradiction h := by
  refine if_neg ?_
  simpa [and_assoc] using agrees

/-- A far of the secondary while the primary is near does. -/
theorem contradiction_cons_of_contradicts {r : Reading} (guarded : h.safe = false)
    (near : h.primary = some true) (away : r.near = false) (time : Number) :
    contradiction (⟨time, .turned (.sensed .secondary r)⟩ :: h) = some time := by
  refine if_pos ?_
  simp [guarded, near, away]

/-- Routine is no teardown. -/
theorem torn_of_isRoutine (hn : n.entry.isRoutine = true) : torn (n :: h) = false := by
  rcases n with ⟨time, entry⟩
  cases entry with
  | turned t =>
    cases t with
    | tornDown => cases hn
    | _ => rfl
  | _ => rfl

end History

/-- **Rechecks are due on time**, and there are none after a teardown. -/
structure Punctual (delay : Number) (v : View) : Prop where
  /-- The fusion keeps track of its timer. -/
  tracked : Tracked v
  /-- No handle stays armed without a timer. -/
  paired : v.clock.Paired
  /-- A recheck is due by the delay after the last contradiction. -/
  due : ∀ t ∈ v.clock.rechecks, ∃ time, v.history.contradiction = some time
    ∧ t.due = time + delay.atLeastZero
  /-- After a teardown there is no recheck to come. -/
  fallow : v.history.torn = true → v.clock.rechecks = []

/-- **No recheck is put off.** -/
structure Ebbs (v v' : View) : Prop where
  /-- The rechecks to come were to come before. -/
  rechecks : v'.clock.rechecks ⊆ v.clock.rechecks
  /-- Every armed handle has its timer as before. -/
  paired : v.clock.Paired → v'.clock.Paired
  /-- The secondary contradicts nobody. -/
  contradiction : v'.history.contradiction = v.history.contradiction
  /-- Nothing is torn down. -/
  torn : v'.history.torn = true → v.history.torn = true

namespace Ebbs

variable {v v' v'' : View}

/-- Rechecks may go one after the other. -/
theorem trans (h : Ebbs v v') (h' : Ebbs v' v'') : Ebbs v v'' :=
  ⟨List.Subset.trans h'.rechecks h.rechecks, h'.paired ∘ h.paired,
    h'.contradiction.trans h.contradiction, h.torn ∘ h'.torn⟩

/-- Neither timers nor the history have to do with it. -/
theorem none (hc : v'.clock = v.clock) (hh : v'.history = v.history) : Ebbs v v' :=
  ⟨hc ▸ List.Subset.refl _, hc ▸ id, congrArg _ hh, hh ▸ id⟩

/-- An entry is added, and the timers are left alone. -/
theorem one {n : Note} (hc : v'.clock = v.clock) (hh : v'.history = n :: v.history)
    (hn : History.contradiction (n :: v.history) = v.history.contradiction)
    (goesOn : n.entry.goesOn = true) : Ebbs v v' := by
  refine ⟨hc ▸ List.Subset.refl _, hc ▸ id, (congrArg _ hh).trans hn, fun torn => ?_⟩
  rw [hh, History.torn, goesOn] at torn
  cases torn

/-- A timer is called off, and nothing is noted of that. -/
theorem callOff {timer : Option Nat} (hc : v'.clock = v.clock.callOff timer)
    (hh : v'.history = v.history) : Ebbs v v' where
  rechecks := hc ▸ v.clock.rechecks_callOff_subset timer
  paired h := hc ▸ h.callOff timer
  contradiction := congrArg _ hh
  torn := hh ▸ id

/-- A timer that goes off is no longer to come. -/
theorem strike (v : View) (t : Timer) : Ebbs v (v.strike t) where
  rechecks := v.clock.rechecks_remove_subset t.id
  paired h := h.remove t.id
  contradiction := rfl
  torn := id

end Ebbs

namespace Punctual

variable {delay : Number} {v v' : View}

/-- What puts no recheck off leaves them due on time. -/
theorem ebb (h : Punctual delay v) (tracked : Tracked v') (e : Ebbs v v') : Punctual delay v' where
  tracked := tracked
  paired := e.paired h.paired
  due t ht := by
    rw [e.contradiction]
    exact h.due t (e.rechecks ht)
  fallow torn := List.subset_nil.mp (h.fallow (e.torn torn) ▸ e.rechecks)

/-- A fusion that stops working calls its recheck off. -/
theorem tearDown (h : Punctual delay v) : Punctual delay v.tearDown := by
  have tracked := h.tracked.tearDown
  rw [View.tearDown] at tracked ⊢
  split
  · rename_i active
    rw [if_pos active] at tracked
    have rested : Tracked v.rest := h.tracked.none rfl rfl
    have cleared : v.rest.uncheck.clock.rechecks = [] := rested.rechecks_uncheck
    refine ⟨tracked, h.paired.callOff _, fun t ht => ?_, fun _ => cleared⟩
    exact absurd (cleared ▸ ht) List.not_mem_nil
  · exact h

/-- **Being on time is kept up.** -/
theorem upkeep : Upkeep (Punctual delay) where
  idles {v v'} idle h := by
    have clock : v'.clock = v.clock := congrArg (·.1) idle.clockwork
    obtain ⟨new, e, routine⟩ := idle.history
    refine h.ebb (Tracked.upkeep.idles idle h.tracked) ⟨clock ▸ List.Subset.refl _, clock ▸ id,
      ?_, fun torn => ?_⟩
    · exact idle.history.keeps (P := fun g => g.contradiction = v.history.contradiction) rfl
        fun n g hn same => (History.contradiction_cons_of_isRoutine hn g).trans same
    · rw [e] at torn
      cases new with
      | nil => exact torn
      | cons n new =>
        rw [List.cons_append, History.torn_of_isRoutine (routine n List.mem_cons_self)] at torn
        cases torn
  tearDown h := h.tearDown
  setTimer {v} timeout h := by
    refine h.ebb (h.tracked.setTimer timeout) ⟨?_, fun p => p.set timeout .giveUp, rfl, id⟩
    have same : (v.setTimer timeout).clock.rechecks = v.clock.rechecks :=
      (v.clock.rechecks_set timeout .giveUp).trans (List.append_nil _)
    exact same ▸ List.Subset.refl _
  stopTimer h := h.ebb h.tracked.stopTimer (.callOff rfl rfl)
  giveUp ht task h := h.ebb (h.tracked.giveUp ht task) ((Ebbs.strike _ _).trans (.none rfl rfl))

/-- **The secondary says something that counts.** When it contradicts the primary, that is the
last contradiction from now on, and the only recheck is put off from now. -/
theorem second (h : Punctual delay v) (f : Faithful v) (keeps : v.fusion.recheckDelay = delay)
    {r : Reading} (counts : v.fusion.safe = true ∨ v.primaryNear) : Punctual delay (v.second r) := by
  have tracked := h.tracked.second r
  rw [View.second] at tracked ⊢
  split
  · rename_i contradicts
    rw [if_pos contradicts] at tracked
    obtain ⟨guarded, away⟩ := Bool.and_eq_true_iff.mp contradicts
    have guarded : v.fusion.safe = false := by simpa using guarded
    have away : r.near = false := by simpa using away
    have near : v.primaryNear := counts.resolve_left (ne_true_of_eq_false guarded)
    have rested : Tracked (v.turn (.sensed .secondary r)).rest := h.tracked.one rfl rfl
    have only := rested.rechecks_recheckLater
    refine ⟨tracked, (h.paired.callOff _).set _ _, fun t ht => ⟨v.clock.now, ?_, ?_⟩,
      fun torn => absurd torn Bool.false_ne_true⟩
    · exact History.contradiction_cons_of_contradicts (f.safe.symm.trans guarded)
        (f.primary.symm.trans near) away _
    · rw [only] at ht
      rw [List.mem_singleton.mp ht, ← keeps]
      exact congrArg (· + v.fusion.recheckDelay.atLeastZero) (v.clock.now_callOff _)
  · rename_i agrees
    rw [if_neg agrees] at tracked
    refine h.ebb tracked (.one rfl rfl (History.contradiction_cons_of_agrees ?_ _) rfl)
    rintro ⟨guarded, -, away⟩
    refine agrees ?_
    rw [f.safe, guarded, away]
    rfl

/-- **Moves** leave rechecks due on time. -/
theorem move (hm : Move v v') (h : Punctual delay v) (f : Faithful v)
    (keeps : v.fusion.recheckDelay = delay) : Punctual delay v' := by
  have tracked := h.tracked.move hm
  cases hm with
  | elapse | tag | link => exact h.ebb tracked ⟨List.Subset.refl _, id, rfl, id⟩
  | refuse he => exact upkeep.fatal h he
  | sample | again | await | consult | ready => exact h.ebb tracked (.one rfl rfl rfl rfl)
  | mode on => cases on <;> exact h.ebb tracked (.one rfl rfl rfl rfl)
  | verify r =>
    have sensed : Ebbs v (v.sense r) := .one rfl rfl rfl rfl
    exact h.ebb tracked (sensed.trans (.callOff rfl rfl))
  | disown r _ away =>
    have agrees : ¬ (v.history.safe = false ∧ v.history.primary = some true ∧ r.near = false) :=
      fun ⟨_, near, _⟩ => away (f.primary.trans near)
    have sensed : Ebbs v (v.turn (.sensed .secondary r)).rest :=
      .one rfl rfl (History.contradiction_cons_of_agrees agrees _) rfl
    exact h.ebb tracked (sensed.trans (.callOff rfl rfl))
  | overhear r counts => exact h.second f keeps counts
  | pause => exact upkeep.pause h
  | leave name => exact upkeep.leave h (.named name)
  | recheck => exact h.ebb tracked ((Ebbs.strike v _).trans (.one rfl rfl rfl rfl))
  | lapse _ _ he =>
    obtain ⟨_, _, _, rfl⟩ := Entry.exists_of_isFatal he
    exact h.ebb tracked ((Ebbs.strike v _).trans (.one rfl rfl rfl rfl))
  | enqueue => exact h.ebb tracked (.one rfl rfl rfl rfl)
  | strand timeout _ _ _ he => exact upkeep.fatal (upkeep.openCheck h timeout _) he
  | abandon near he => exact upkeep.fatal (upkeep.taken h near) he
  | forsake ht task he => exact upkeep.fatal (upkeep.taken (upkeep.giveUp ht task h) none) he

/-- **What a sensor says** may put a recheck off, by the delay from now on. -/
theorem taking (ht : Taking v v') (h : Punctual delay v) (f : Faithful v)
    (keeps : v.fusion.recheckDelay = delay) : Punctual delay v' := by
  have heard : ∀ {r u}, Heard r v u → Punctual delay u := fun hh => by
    cases hh with
    | alone | gone => exact h.ebb (h.tracked.sense _) (.one rfl rfl rfl rfl)
    | counted counts => exact h.second f keeps counts
  have tracked := h.tracked.taking ht
  cases ht with
  | passOver hh => exact heard hh
  | accept hh =>
    refine (heard hh).ebb tracked ?_
    rw [View.accept]
    split <;> exact .one rfl rfl rfl rfl

end Punctual

/-! ### The delay stays -/

namespace View

variable (v : View)

/-- Whatever is done to a fusion, it keeps its delay. -/
@[simp] theorem recheckDelay_tearDown :
    v.tearDown.fusion.recheckDelay = v.fusion.recheckDelay := by
  rw [tearDown]
  split <;> rfl

@[simp] theorem recheckDelay_drop (l : Listener) :
    (v.drop l).fusion.recheckDelay = v.fusion.recheckDelay := by
  rw [drop]
  split <;> rfl

@[simp] theorem recheckDelay_leave (l : Listener) :
    (v.leave l).fusion.recheckDelay = v.fusion.recheckDelay := by
  rw [leave]
  split <;> simp

@[simp] theorem recheckDelay_join (l : Listener) :
    (v.join l).fusion.recheckDelay = v.fusion.recheckDelay := by
  rw [join]
  split <;> rfl

@[simp] theorem recheckDelay_second (r : Reading) :
    (v.second r).fusion.recheckDelay = v.fusion.recheckDelay := by
  rw [second]
  split <;> rfl

@[simp] theorem recheckDelay_close (near : Option Bool) :
    (v.close near).fusion.recheckDelay = v.fusion.recheckDelay :=
  recheckDelay_leave (v.take near).stopTimer .probe

end View

/-- **A fusion never changes the delay of its rechecks.** -/
theorem Deed.recheckDelay {v v' : View} (hd : Deed v v') :
    v'.fusion.recheckDelay = v.fusion.recheckDelay := by
  have heard : ∀ {r u}, Heard r v u → u.fusion.recheckDelay = v.fusion.recheckDelay := fun hh => by
    cases hh with
    | alone | gone => rfl
    | counted => exact v.recheckDelay_second _
  cases hd with
  | move hm =>
    cases hm with
    | overhear r => exact v.recheckDelay_second r
    | pause => exact View.recheckDelay_tearDown _
    | leave name => exact v.recheckDelay_leave (.named name)
    | mode on => cases on <;> rfl
    | _ => rfl
  | going hg =>
    cases hg with
    | rise hr =>
      cases hr with
      | join name => exact v.recheckDelay_join (.named name)
      | resume => rfl
      | begin timeout => exact View.recheckDelay_join _ .probe
    | activate => rfl
  | taking ht =>
    cases ht with
    | passOver hh => exact heard hh
    | accept hh =>
      refine Eq.trans ?_ (heard hh)
      rw [View.accept]
      split <;> rfl
  | telling ht => cases ht <;> rfl
  | giving hg =>
    cases hg with
    | reply | balk => rfl
    | close hc =>
      cases hc with
      | reading => exact v.recheckDelay_close _
      | @expiry t => exact (v.giveUp t).recheckDelay_close none
      | decline => rfl

/-- **A fusion with a delay for its rechecks, which are due on time.** -/
structure Prompting (delay : Number) (v : View) : Prop where
  /-- The memory of the fusion is faithful. -/
  faithful : Faithful v
  /-- Rechecks are put off by the delay. -/
  keeps : v.fusion.recheckDelay = delay
  /-- They are due on time. -/
  punctual : Punctual delay v

namespace Prompting

variable {delay : Number} {v v' : View}

/-- **Whatever is done, rechecks are due on time.** -/
theorem deed (hd : Deed v v') (h : Prompting delay v) : Prompting delay v' where
  faithful := h.faithful.deed hd
  keeps := hd.recheckDelay.trans h.keeps
  punctual := Punctual.upkeep.deed h.punctual hd (fun hm => h.punctual.move hm h.faithful h.keeps)
    (fun ht => h.punctual.taking ht h.faithful h.keeps)
    (h.punctual.ebb (h.punctual.tracked.one rfl rfl) (.one rfl rfl rfl rfl))

/-- The induction is on the deeds done. -/
theorem course (hc : Course v v') (h : Prompting delay v) : Prompting delay v' := by
  induction hc with
  | refl => exact h
  | tail _ hd ih => exact ih.deed hd

end Prompting

/-- A fusion that is set up has no recheck to come. -/
theorem Pristine.prompting {v : View} (p : Pristine v) : Prompting v.fusion.recheckDelay v := by
  refine ⟨p.faithful, rfl, p.tracked, ?_, fun t ht => ?_, fun torn => ?_⟩
  · rw [p.clock]
    rfl
  · rw [p.clock] at ht
    exact absurd ht List.not_mem_nil
  · rw [p.history] at torn
    cases torn

/-! ### Stopping the fusion -/

/-- Whether a step stops a fusion that is at work: it is paused, or loses its last listener. -/
def Step.stops (f : Fusion) : Step → Bool
  | .pause => true
  | .leave name => (f.listeners.erase (.named name)).isEmpty
  | _ => false

/-- A fusion that was at work notes that it stops. -/
theorem View.torn_tearDown {v : View} (active : v.fusion.active = true) :
    v.tearDown.history.torn = true := by
  rw [View.tearDown, if_pos active]
  rfl

variable {α : Type} {b : Bench}

/-- A step that stops the fusion ends with a teardown. -/
theorem ends_of_stops (call : Reactor) (w : Wired b) (h : OnThread b) {step : Step}
    (stops : step.stops b.fusion = true) (active : b.fusion.active = true) :
    ∃ v, Ends (perform call step) b .none v ∧ Deed b.view v ∧ v.history.torn = true := by
  cases step with
  | pause =>
    have ends : Ends (Target.pause call) b () b.view.pause :=
      .read (exec_get b) (by rw [w.target]; exact ends_fusionPause call h)
    refine ⟨_, ends.bind fun b' hv s => (Ends.pure _).congr hv, .move (.pause _), ?_⟩
    exact View.torn_tearDown active
  | leave name =>
    have left : b.view.leave (.named name) = (b.view.drop (.named name)).tearDown := by
      refine if_pos ?_
      rw [View.drop]
      split <;> exact stops
    refine ⟨_, (ends_targetLeave call w h (.named name)).bind fun b' hv s =>
      (Ends.pure _).congr hv, .move (.leave _ name), ?_⟩
    rw [left]
    refine View.torn_tearDown ?_
    rw [View.drop]
    split <;> exact active
  | _ => cases stops

/-- Between two steps rechecks are due on time. -/
theorem Reached.prompting (h : Reached b) : Prompting b.fusion.recheckDelay b.view := by
  obtain ⟨v, pristine, course⟩ := h.course
  have p := pristine.prompting.course course
  exact p.keeps ▸ p

/-- **A bench is in trim**: between two steps, or in the middle of one. -/
structure Trim (b : Bench) : Prop where
  /-- The bench is wired as it was set up. -/
  wired : Wired b
  /-- Rechecks are due on time. -/
  prompting : Prompting b.fusion.recheckDelay b.view

/-- Between two steps a bench is in trim. -/
theorem Reached.trim (h : Reached b) : Trim b := ⟨(Course.law.holds h).1, h.prompting⟩

namespace Trim

/-- **A bench stays in trim** along any course. -/
theorem of_leads {act : Act α} (t : Trim b) (led : Leads Course b.view act b) : Trim (after act b) := by
  have p := t.prompting.course led.related
  exact ⟨led.wired, p.keeps ▸ p⟩

/-- Whatever is called leaves a bench in trim, whether it fails or not. -/
theorem react (t : Trim b) (depth : Nat) (c : Callback) : Trim (after (react depth c) b) :=
  t.of_leads (Course.law.reacts depth c b t.wired)

/-- So does every step that is taken inside a call. -/
theorem perform (t : Trim b) (depth : Nat) (step : Step) :
    Trim (after (perform (Session.react depth) step) b) :=
  t.of_leads (Course.law.keeps_perform (Course.law.reacts depth) step b t.wired)

/-- **A step that stops the fusion leaves no recheck to come.** -/
theorem rechecks_eq_nil_of_stops (t : Trim b) (home : OnThread b) (depth : Nat) {step : Step}
    (stops : step.stops b.fusion = true) (active : b.fusion.active = true) :
    (after (Session.perform (Session.react depth) step) b).clock.rechecks = [] := by
  obtain ⟨v, ⟨b', e, hv, -⟩, deed, torn⟩ :=
    ends_of_stops (Session.react depth) t.wired home stops active
  have left : after (Session.perform (Session.react depth) step) b = b' := congrArg Prod.snd e
  have fallow : b'.view.clock.rechecks = [] := hv ▸ (t.prompting.deed deed).punctual.fallow torn
  rw [left]
  exact fallow

end Trim

/-- **The recheck is due on time.** As long as every call comes from the owner's thread:

* there is one recheck to come if the fusion tells of one, and none otherwise;
* nothing is armed but pending timers;
* the recheck is due when the secondary has contradicted the primary last and the delay has
  passed;
* whenever the fusion was torn down, be it in the middle of a call, there was none to come just
  after that;
* nor is there one after a step that stops a fusion which is at work;
* nor after such a step that is taken inside a call, at whatever depth: the bench is in trim, and
  stays so whatever is called and whatever steps are taken. -/
theorem recheck_on_time (h : Reached b) (confined : b.history.Confined) :
    b.clock.rechecks.length = (if (Fusion.snapshot b).recheckPending then 1 else 0)
      ∧ b.clock.armed = b.clock.pending.map (·.id)
      ∧ (∀ t ∈ b.clock.rechecks, ∃ time, b.history.contradiction = some time
          ∧ t.due = time + b.fusion.recheckDelay.atLeastZero)
      ∧ (∃ v, Pristine v ∧ ∀ later n earlier, b.history = later ++ n :: earlier →
          n.entry = .turned .tornDown →
            ∃ u, Course v u ∧ Course u b.view ∧ u.history = n :: earlier ∧ u.clock.rechecks = [])
      ∧ (∀ step, step.stops b.fusion = true → OnThread b → b.fusion.active = true →
          (take step b).bench.clock.rechecks = [])
      ∧ Trim b ∧ ∀ m, Trim m → ∀ depth, (∀ c, Trim (after (react depth c) m))
          ∧ ∀ step, Trim (after (perform (react depth) step) m)
            ∧ (step.stops m.fusion = true → OnThread m → m.fusion.active = true →
              (after (perform (react depth) step) m).clock.rechecks = []) := by
  have p := h.prompting
  refine ⟨?_, p.punctual.paired, p.punctual.due, ?_, fun step stops home active => ?_, h.trim,
    fun m t depth => ⟨t.react depth, fun step => ⟨t.perform depth step, fun stops home =>
      t.rechecks_eq_nil_of_stops home depth stops⟩⟩⟩
  · have told : (Fusion.snapshot b).recheckPending = b.fusion.pendingRecheck.isSome := rfl
    rw [told]
    cases waits : b.fusion.pendingRecheck with
    | none =>
      have idle : b.clock.rechecks = [] := h.tracked.rechecks_eq_nil waits
      rw [idle]
      rfl
    | some id =>
      obtain ⟨t, only, -⟩ := h.tracked.rechecks_eq_singleton confined waits
      have only : b.clock.rechecks = [t] := only
      rw [only]
      rfl
  · obtain ⟨v, pristine, course⟩ := h.course
    refine ⟨v, pristine, fun later n earlier e torn => ?_⟩
    have new : ¬ n :: earlier <:+ v.history := by
      rw [pristine.history, List.suffix_nil]
      nofun
    obtain ⟨u, before, after, latest⟩ := course.exists_of_tornDown ⟨later, e.symm⟩ new torn
    refine ⟨u, before, after, latest, (pristine.prompting.course before).punctual.fallow ?_⟩
    rw [latest, History.torn, torn]
    rfl
  · exact h.trim.rechecks_eq_nil_of_stops home (depth b step) stops active

/-- A session in which a listener pauses and resumes the fusion when it is first told something.
After that the secondary contradicts the primary, half a second from the start. -/
def postponedSession : Bench :=
  (Scenario.ofSensors (.standIn true [] []) (.standIn true [] [])
    [("a", [[.pause, .resume]])]).after
    [.join "a", .event .primary true none, .event .secondary true none,
      .event .primary true none, .advance 500, .event .secondary false none]

/-- The bench in the middle of the step after that, in which the secondary says far once more. -/
def contradictedBench : Bench :=
  after (react 2 (.listener (.fusion .secondary) ⟨false, 9⟩)) postponedSession

/-- That recheck is due five seconds after the contradiction, and there is none once the fusion is
paused, between two steps or in the middle of one. -/
theorem recheck_on_time_session :
    postponedSession.history.Confined ∧ postponedSession.history.contradiction = some 500
      ∧ postponedSession.clock.rechecks.length = 1
      ∧ (∀ t ∈ postponedSession.clock.rechecks, t.due = 5500)
      ∧ (∃ n ∈ postponedSession.history, n.entry.goesOn = false)
      ∧ (take .pause postponedSession).bench.clock.rechecks = []
      ∧ (after (perform (react 1) .pause) contradictedBench).clock.rechecks = [] := by
  have reached : Reached postponedSession := Scenario.reached_after rfl (by decide +kernel) _
  have confined : postponedSession.history.Confined := by decide +kernel
  have last : postponedSession.history.contradiction = some 500 := by decide +kernel
  obtain ⟨one, -, due, -, stopped, trim, within⟩ := recheck_on_time reached confined
  refine ⟨confined, last, ?_, fun t ht => ?_, by decide +kernel, ?_, ?_⟩
  · rw [one]
    decide +kernel
  · obtain ⟨time, e, due⟩ := due t ht
    have delay : (500 : Number) + postponedSession.fusion.recheckDelay.atLeastZero = 5500 := by
      decide +kernel
    rw [due, ← Option.some.inj (last.symm.trans e), delay]
  · exact stopped .pause rfl (by decide +kernel) (by decide +kernel)
  · have middle : Trim contradictedBench := (within _ trim 2).1 _
    exact (((within _ middle 1).2 .pause).2 rfl (by decide +kernel) (by decide +kernel))

end Proximity
