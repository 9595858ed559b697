import Proximity.Proofs.Probing
import Proximity.Proofs.Reached
import Proximity.Proofs.Upkeep

/-!
# The recheck that is waited for

A fusion that puts a recheck off sets a timer and remembers its number. It may call the
timer off, put it off again, or stop working; the timer may fire; and the probe on the
fusion sets and calls off timers, too. Through all of that the fusion keeps track of its
timer (`Proximity.Tracked`):

* a pending timer of the fusion is the one that it remembers, and the handle of that is
  armed, so that calling it off is never in vain;
* the timer that it remembers is pending – as long as every call comes from the owner's
  thread. A timer that fires while another thread calls is lost, and the fusion goes on
  remembering it.

So as long as every call comes from the owner's thread, there is one pending timer of the
fusion if it remembers one, and none otherwise (`Proximity.Tracked.rechecks_eq_nil` and
`Proximity.Tracked.rechecks_eq_singleton`).
-/

namespace Proximity

/-- Whether a task is the fusion's. -/
def Task.isRecheck : Task → Bool
  | recheck => true
  | giveUp | scripted _ _ => false

/-- The pending timers of the fusion. -/
def Clock.rechecks (c : Clock) : List Timer := c.pending.filter (·.task.isRecheck)

/-- **Every call comes from the owner's thread.** -/
def History.Confined (h : History) : Prop := ∀ n ∈ h, n.entry.isFatal = false

instance (h : History) : Decidable h.Confined :=
  inferInstanceAs (Decidable (∀ n ∈ h, n.entry.isFatal = false))

/-- What is confined has always been so. -/
theorem History.Confined.of_suffix {h h' : History} (c : h'.Confined) (s : h <:+ h') :
    h.Confined := fun n hn => c n (s.subset hn)

/-- After a call from another thread nothing is confined. -/
theorem History.not_confined_cons {h : History} {n : Note} (hn : n.entry.isFatal = true) :
    ¬ Confined (n :: h) := fun c =>
  Bool.false_ne_true ((c n List.mem_cons_self).symm.trans hn)

namespace Clock

variable {c : Clock} {t : Timer} {id : Nat}

theorem mem_rechecks : t ∈ c.rechecks ↔ t ∈ c.pending ∧ t.task = .recheck := by
  rw [rechecks, List.mem_filter]
  refine and_congr_right fun _ => ?_
  cases t.task <;> simp [Task.isRecheck]

/-- Removing a timer removes it from the rechecks, if it is one. -/
theorem rechecks_remove (c : Clock) (id : Nat) :
    (c.remove id).rechecks = c.rechecks.filter (·.id != id) :=
  c.filter_remove _ id

/-- A timer that is set is a recheck, or none of them is touched. -/
theorem rechecks_set (c : Clock) (delay : Number) (task : Task) :
    (c.set delay task).rechecks = c.rechecks
      ++ if task.isRecheck then [⟨c.lastId + 1, c.now + delay.atLeastZero, task⟩] else [] := by
  rw [rechecks, rechecks, set, List.filter_append, List.filter_cons, List.filter_nil]

/-- Calling off a timer that is none of the fusion's leaves those of the fusion pending. -/
theorem rechecks_callOff {timer : Option Nat}
    (h : ∀ id, timer = some id → ∀ t ∈ c.rechecks, t.id ≠ id) :
    (c.callOff timer).rechecks = c.rechecks := by
  cases timer with
  | none => rfl
  | some id =>
    rw [callOff]
    split
    · refine (c.rechecks_remove id).trans ?_
      exact List.filter_eq_self.mpr fun t ht => bne_iff_ne.mpr (h id rfl t ht)
    · rfl

theorem lastId_callOff (c : Clock) (timer : Option Nat) : (c.callOff timer).lastId = c.lastId := by
  cases timer with
  | none => rfl
  | some id =>
    rw [callOff]
    split <;> rfl

theorem now_callOff (c : Clock) (timer : Option Nat) : (c.callOff timer).now = c.now := by
  cases timer with
  | none => rfl
  | some id =>
    rw [callOff]
    split <;> rfl

/-- Calling off a timer leaves the handles of the others armed. -/
theorem mem_armed_callOff {timer : Option Nat} (ha : id ∈ c.armed) (h : timer ≠ some id) :
    id ∈ (c.callOff timer).armed := by
  cases timer with
  | none => exact ha
  | some other =>
    rw [callOff]
    split
    · exact mem_armed_disarm (fun e => h (congrArg some e.symm)) ha
    · exact ha

end Clock

/-- **The fusion keeps track of its timer.** -/
structure Tracked (v : View) : Prop where
  /-- Timers have numbers of their own. -/
  clocked : Clocked v.clock none
  /-- The handles of the fusion's timers are armed. -/
  armed : ∀ t ∈ v.clock.rechecks, t.id ∈ v.clock.armed
  /-- The fusion remembers every pending timer of its own. -/
  known : ∀ t ∈ v.clock.rechecks, v.fusion.pendingRecheck = some t.id
  /-- The timer of the probe is none of the fusion's. -/
  apart : ∀ id, v.timer = some id → id ≤ v.clock.lastId ∧ ∀ t ∈ v.clock.rechecks, t.id ≠ id
  /-- On the owner's thread, the timer that the fusion remembers is pending. -/
  awaited : v.history.Confined → ∀ id, v.fusion.pendingRecheck = some id →
    ∃ t ∈ v.clock.rechecks, t.id = id

namespace Tracked

variable {v v' : View}

/-! ### Nothing is done about timers -/

/-- As long as nothing is done about timers, the fusion keeps track of its own. -/
theorem grown (h : Tracked v) (hc : v'.clockwork = v.clockwork) (hh : v.history <:+ v'.history) :
    Tracked v' := by
  obtain ⟨clock, recheck, timer⟩ : v'.clock = v.clock
      ∧ v'.fusion.pendingRecheck = v.fusion.pendingRecheck ∧ v'.timer = v.timer := by
    simpa only [View.clockwork, Prod.mk.injEq] using hc
  constructor <;> rw [clock]
  · exact h.clocked
  · exact h.armed
  · exact recheck ▸ h.known
  · exact timer ▸ h.apart
  · exact fun confined => recheck ▸ h.awaited (confined.of_suffix hh)

/-- Nothing may be added to the history. -/
theorem none (h : Tracked v) (hh : v'.history = v.history) (hc : v'.clockwork = v.clockwork) :
    Tracked v' :=
  h.grown hc (hh ▸ List.suffix_rfl)

/-- An entry may be added to the history. -/
theorem one (h : Tracked v) {n : Note} (hh : v'.history = n :: v.history)
    (hc : v'.clockwork = v.clockwork) : Tracked v' :=
  h.grown hc (hh ▸ List.suffix_cons n _)

/-- Time passes. -/
theorem elapse (h : Tracked v) (time : Number) : Tracked (v.elapse time) :=
  { h with clocked := { h.clocked with } }

/-! ### Timers are set and called off -/

/-- When a recheck is called off, no timer of the fusion is pending any longer. -/
theorem rechecks_uncheck (h : Tracked v) : v.uncheck.clock.rechecks = [] := by
  refine List.eq_nil_iff_forall_not_mem.mpr fun t ht => ?_
  have clock : v.uncheck.clock = v.clock.callOff v.fusion.pendingRecheck := rfl
  rw [clock] at ht
  cases waits : v.fusion.pendingRecheck with
  | none =>
    rw [waits] at ht
    have known := h.known t ht
    rw [waits] at known
    cases known
  | some id =>
    rw [waits, Clock.callOff] at ht
    -- If there is such a timer, its handle is armed, and calling it off removes it.
    split at ht
    · obtain ⟨ht, other⟩ := List.mem_filter.mp ((Clock.rechecks_remove v.clock id) ▸ ht)
      have known := h.known t ht
      rw [waits] at known
      exact bne_iff_ne.mp other (Option.some.inj known).symm
    · rename_i lost
      have known := h.known t ht
      rw [waits] at known
      exact lost (decide_eq_true (Option.some.inj known ▸ h.armed t ht))

/-- A fusion that calls its timer off keeps track of it. -/
theorem uncheck (h : Tracked v) : Tracked v.uncheck := by
  have cleared := h.rechecks_uncheck
  refine ⟨h.clocked.callOff _, ?_, ?_, fun id set => ⟨?_, ?_⟩, fun _ _ => nofun⟩
  · rw [cleared]
    exact fun t ht => absurd ht List.not_mem_nil
  · rw [cleared]
    exact fun t ht => absurd ht List.not_mem_nil
  · exact Nat.le_trans (h.apart id set).1 (Nat.le_of_eq (v.clock.lastId_callOff _).symm)
  · rw [cleared]
    exact fun t ht => absurd ht List.not_mem_nil

/-- When a recheck is put off, the new timer of the fusion is its only one. -/
theorem rechecks_recheckLater (h : Tracked v) :
    v.recheckLater.clock.rechecks = [⟨v.uncheck.clock.lastId + 1,
      v.uncheck.clock.now + v.fusion.recheckDelay.atLeastZero, .recheck⟩] := by
  refine (v.uncheck.clock.rechecks_set v.fusion.recheckDelay .recheck).trans ?_
  rw [h.rechecks_uncheck]
  rfl

/-- So does one that sets another timer in its place. -/
theorem recheckLater (h : Tracked v) : Tracked v.recheckLater := by
  have one := h.rechecks_recheckLater
  refine ⟨h.uncheck.clocked.set _ _, ?_, ?_, fun id set => ⟨?_, ?_⟩, fun _ id waits => ?_⟩
  · rw [one]
    intro t ht
    rw [List.mem_singleton.mp ht]
    exact List.mem_append_right _ (List.mem_singleton_self _)
  · rw [one]
    intro t ht
    rw [List.mem_singleton.mp ht]
    rfl
  · exact Nat.le_succ_of_le (h.uncheck.apart id set).1
  · rw [one]
    intro t ht
    rw [List.mem_singleton.mp ht]
    exact Nat.ne_of_gt (Nat.lt_succ_of_le (h.uncheck.apart id set).1)
  · rw [one]
    exact ⟨_, List.mem_singleton_self _, Option.some.inj waits⟩

/-- The timer of the probe is called off. -/
theorem stopTimer (h : Tracked v) : Tracked v.stopTimer := by
  have same : v.stopTimer.clock.rechecks = v.clock.rechecks :=
    Clock.rechecks_callOff fun id set => (h.apart id set).2
  refine ⟨h.clocked.callOff _, ?_, ?_, fun _ => nofun, ?_⟩ <;> rw [same]
  · exact fun t ht => Clock.mem_armed_callOff (h.armed t ht) fun e => (h.apart _ e).2 t ht rfl
  · exact h.known
  · exact h.awaited

/-- The timer of the probe is set. -/
theorem setTimer (h : Tracked v) (timeout : Number) : Tracked (v.setTimer timeout) := by
  have same : (v.setTimer timeout).clock.rechecks = v.clock.rechecks :=
    (v.clock.rechecks_set timeout .giveUp).trans (List.append_nil _)
  refine ⟨h.clocked.set _ _, ?_, ?_, fun id set => ⟨?_, ?_⟩, ?_⟩
  · rw [same]
    exact fun t ht => List.mem_append_left _ (h.armed t ht)
  · rw [same]
    exact h.known
  · exact Nat.le_of_eq (Option.some.inj set).symm
  · rw [same]
    intro t ht e
    have bound := h.clocked.bound t (Clock.mem_rechecks.mp ht).1
    have new : v.clock.lastId + 1 = id := Option.some.inj set
    omega
  · rw [same]
    exact h.awaited

/-! ### Timers fire -/

/-- A timer that goes off is no recheck any longer. -/
theorem rechecks_strike (v : View) (t : Timer) :
    (v.strike t).clock.rechecks = v.clock.rechecks.filter (·.id != t.id) :=
  v.clock.rechecks_remove t.id

/-- What is always true of the fusion's timers remains so when one fires. -/
theorem mem_strike (h : Tracked v) {t u : Timer} (hu : u ∈ (v.strike t).clock.rechecks) :
    u ∈ v.clock.rechecks ∧ u.id ∈ (v.strike t).clock.armed := by
  rw [rechecks_strike] at hu
  obtain ⟨hu, other⟩ := List.mem_filter.mp hu
  exact ⟨hu, Clock.mem_armed_disarm (bne_iff_ne.mp other) (h.armed u hu)⟩

/-- A timer of the probe fires. -/
theorem strike (h : Tracked v) {t : Timer} (ht : t ∈ v.clock.pending) (task : t.task = .giveUp) :
    Tracked (v.strike t) := by
  have same : (v.strike t).clock.rechecks = v.clock.rechecks := by
    rw [rechecks_strike]
    refine List.filter_eq_self.mpr fun u hu => bne_iff_ne.mpr fun e => ?_
    -- Two pending timers with one number are the same, and this one is the probe's.
    obtain ⟨pending, mine⟩ := Clock.mem_rechecks.mp hu
    have eq : u = t := List.inj_on_of_nodup_map h.clocked.distinct pending ht e
    rw [eq, task] at mine
    cases mine
  refine ⟨{ h.clocked.remove t.id with }, fun u hu => (h.mem_strike hu).2, ?_, ?_, ?_⟩
  · exact fun u hu => h.known u (h.mem_strike hu).1
  · exact fun id set => ⟨(h.apart id set).1, fun u hu => (h.apart id set).2 u (h.mem_strike hu).1⟩
  · rw [same]
    exact h.awaited

/-- When the timer of the fusion fires, no other one is pending. -/
theorem rechecks_strike_eq_nil (h : Tracked v) {t : Timer} (ht : t ∈ v.clock.pending)
    (task : t.task = .recheck) : (v.strike t).clock.rechecks = [] := by
  have mine : t ∈ v.clock.rechecks := Clock.mem_rechecks.mpr ⟨ht, task⟩
  rw [rechecks_strike]
  refine List.filter_eq_nil_iff.mpr fun u hu => ?_
  have same : u.id = t.id := Option.some.inj ((h.known u hu).symm.trans (h.known t mine))
  simp [same]

/-- A fusion keeps track of its timer when that goes off. -/
theorem recheck (h : Tracked v) {t : Timer} (ht : t ∈ v.clock.pending) (task : t.task = .recheck) :
    Tracked ((v.strike t).recheck t.id) := by
  have none : ∀ u, u ∉ (v.strike t).clock.rechecks := by
    rw [h.rechecks_strike_eq_nil ht task]
    exact fun _ => List.not_mem_nil
  have waits : v.fusion.pendingRecheck = some t.id :=
    h.known t (Clock.mem_rechecks.mpr ⟨ht, task⟩)
  have forgets : ((v.strike t).recheck t.id).fusion.pendingRecheck = .none := if_pos waits
  refine ⟨{ h.clocked.remove t.id with }, fun u hu => absurd hu (none u),
    fun u hu => absurd hu (none u), fun id set => ⟨(h.apart id set).1, ?_⟩, fun _ id e => ?_⟩
  · exact fun u hu => absurd hu (none u)
  · rw [forgets] at e
    cases e

/-- A timer of the fusion fires while another thread calls, and is lost. -/
theorem lapse (h : Tracked v) {t : Timer} {entry : Entry} (he : entry.isFatal = true) :
    Tracked ((v.strike t).note entry) where
  clocked := { h.clocked.remove t.id with }
  armed _ hu := (h.mem_strike hu).2
  known u hu := h.known u (h.mem_strike hu).1
  apart id set := ⟨(h.apart id set).1, fun u hu => (h.apart id set).2 u (h.mem_strike hu).1⟩
  awaited confined := absurd confined (History.not_confined_cons he)

/-! ### What is done on a bench -/

theorem sense (h : Tracked v) (r : Reading) : Tracked (v.sense r) := h.one rfl rfl

theorem tearDown (h : Tracked v) : Tracked v.tearDown := by
  rw [View.tearDown]
  split
  · have rested : Tracked v.rest := h.none rfl rfl
    exact rested.uncheck.one rfl rfl
  · exact h

theorem second (h : Tracked v) (r : Reading) : Tracked (v.second r) := by
  rw [View.second]
  split
  · have rested : Tracked (v.turn (.sensed .secondary r)).rest := h.one rfl rfl
    exact rested.recheckLater
  · exact h.one rfl rfl

/-- A timer of the probe that goes off is none of the fusion. -/
theorem giveUp (h : Tracked v) {t : Timer} (ht : t ∈ v.clock.pending) (task : t.task = .giveUp) :
    Tracked (v.giveUp t) := by
  have struck := h.strike ht task
  exact { struck with apart := fun _ => nofun }

/-- **Keeping track is kept up.** -/
theorem upkeep : Upkeep Tracked where
  idles idle h := h.grown idle.clockwork idle.history.suffix
  tearDown h := h.tearDown
  setTimer timeout h := h.setTimer timeout
  stopTimer h := h.stopTimer
  giveUp ht task h := h.giveUp ht task

/-- **Moves** keep track of the timer. -/
theorem move (hm : Move v v') (h : Tracked v) : Tracked v' := by
  cases hm with
  | refuse | sample | again | ready | consult | await | enqueue => exact h.one rfl rfl
  | tag | link => exact h.none rfl rfl
  | elapse time => exact h.elapse time
  | verify r => exact (h.sense r).uncheck.none rfl rfl
  | disown r =>
    have rested : Tracked (v.turn (.sensed .secondary r)).rest := h.one rfl rfl
    exact rested.uncheck
  | overhear r => exact h.second r
  | pause => exact upkeep.pause h
  | leave name => exact upkeep.leave h (.named name)
  | mode on => cases on <;> exact h.one rfl rfl
  | recheck ht task => exact h.recheck ht task
  | lapse _ _ he => exact h.lapse he
  | strand timeout => exact (upkeep.openCheck h timeout _).one rfl rfl
  | abandon near => exact (upkeep.taken h near).one rfl rfl
  | forsake ht task => exact (upkeep.taken (h.giveUp ht task) .none).one rfl rfl

theorem taking (ht : Taking v v') (h : Tracked v) : Tracked v' := by
  have heard : ∀ {r u}, Heard r v u → Tracked u := fun hh => by
    cases hh with
    | alone | gone => exact h.sense _
    | counted => exact h.second _
  cases ht with
  | passOver hh => exact heard hh
  | accept hh =>
    rw [View.accept]
    split <;> exact (heard hh).one rfl rfl

theorem deed (hd : Deed v v') (h : Tracked v) : Tracked v' :=
  upkeep.deed h hd (h.move ·) (h.taking ·) (h.one rfl rfl)

/-! ### How many timers there are -/

/-- **A fusion that waits for no recheck has none to come.** -/
theorem rechecks_eq_nil (h : Tracked v) (idle : v.fusion.pendingRecheck = .none) :
    v.clock.rechecks = [] := by
  refine List.eq_nil_iff_forall_not_mem.mpr fun t ht => ?_
  have known := h.known t ht
  rw [idle] at known
  cases known

/-- On the owner's thread, the timer that the fusion remembers is its only one. -/
theorem rechecks_eq_singleton (h : Tracked v) (confined : v.history.Confined) {id : Nat}
    (waits : v.fusion.pendingRecheck = some id) : ∃ t, v.clock.rechecks = [t] ∧ t.id = id := by
  obtain ⟨t, ht, number⟩ := h.awaited confined id waits
  refine ⟨t, ?_, number⟩
  have only : ∀ u ∈ v.clock.rechecks, u = t := fun u hu => by
    have same : u.id = t.id := Option.some.inj ((h.known u hu).symm.trans (h.known t ht))
    exact List.inj_on_of_nodup_map h.clocked.distinct (Clock.mem_rechecks.mp hu).1
      (Clock.mem_rechecks.mp ht).1 same
  have distinct : v.clock.rechecks.Nodup := (h.clocked.distinct.of_map _).filter _
  have all : v.clock.rechecks = List.replicate v.clock.rechecks.length t :=
    List.eq_replicate_of_mem only
  have length : v.clock.rechecks.length ≤ 1 := List.nodup_replicate.mp (all ▸ distinct)
  have pos : 0 < v.clock.rechecks.length := List.length_pos_of_mem ht
  rw [all, show v.clock.rechecks.length = 1 by omega]
  rfl

end Tracked

variable {b : Bench}

/-- A fusion that is set up has no timer to keep track of. -/
theorem Pristine.tracked {v : View} (p : Pristine v) : Tracked v := by
  obtain ⟨delay, fusion⟩ := p.fusion
  refine ⟨?_, ?_, ?_, fun id set => ?_, fun _ id waits => ?_⟩
  · rw [p.clock]
    exact ⟨List.nodup_nil, fun t ht => absurd ht List.not_mem_nil, fun _ => nofun⟩
  · rw [p.clock]
    exact fun t ht => absurd ht List.not_mem_nil
  · rw [p.clock]
    exact fun t ht => absurd ht List.not_mem_nil
  · rw [p.timer] at set
    cases set
  · rw [fusion] at waits
    cases waits

/-- **The fusion keeps track of its timer wherever one gets.** -/
theorem Reached.tracked (h : Reached b) : Tracked b.view :=
  (Law.ofInvariant Tracked.deed).invariant (fun _ p => p.tracked) h

end Proximity
