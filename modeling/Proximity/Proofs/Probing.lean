import Mathlib.Data.List.Nodup
import Proximity.Proofs.Audience
import Proximity.Proofs.Ledger

/-!
# A probe in order

A probe keeps four things that have to agree: who waits, whether it has asked its
fusion, its timer, and its place among the listeners. Whenever a call goes out they do
agree (`Proximity.Stance`), since a check is opened and closed between two calls.

Most deeds are no concern of the probe. Some of them set timers and call them off,
however, and the probe's timer must not be among those. What such deeds leave as it was
is said by `Proximity.Spared`, which rests on timers having numbers of their own
(`Proximity.Clocked`). When the probe leaves its fusion, its place among the listeners is
lost and nothing else (`Proximity.Vacated`). The deeds that do concern the probe are in
`Proximity.Proofs.Answers`.
-/

namespace Proximity

/-! ### The timers of the probe -/

/-- Whether a task is the probe's. -/
def Task.isGiveUp : Task → Bool
  | giveUp => true
  | recheck | scripted _ _ => false

/-- The pending timers of the probe. -/
def Clock.expiries (c : Clock) : List Timer := c.pending.filter (·.task.isGiveUp)

/-- **Timers have numbers of their own**, and the timer that the fusion waits for is none of
the probe's. -/
structure Clocked (c : Clock) (recheck : Option Nat) : Prop where
  /-- No two pending timers have the same number. -/
  distinct : (c.pending.map (·.id)).Nodup
  /-- The next number has not been given out yet. -/
  bound : ∀ t ∈ c.pending, t.id ≤ c.lastId
  /-- The fusion waits for a timer of its own. -/
  recheck : ∀ id, recheck = some id → id ≤ c.lastId ∧ ∀ t ∈ c.expiries, t.id ≠ id

/-- The timers of the probe are left alone. -/
structure Undisturbed (c c' : Clock) : Prop where
  /-- The same timers are pending. -/
  expiries : c'.expiries = c.expiries
  /-- Their handles are armed as before. -/
  armed : ∀ t ∈ c.expiries, t.id ∈ c.armed → t.id ∈ c'.armed

namespace Clock

variable {c : Clock} {id : Nat}

/-- Of the timers of a kind, only the one that is removed is not pending any longer. -/
theorem filter_remove (c : Clock) (kind : Timer → Bool) (id : Nat) :
    (c.remove id).pending.filter kind = (c.pending.filter kind).filter (·.id != id) := by
  rw [remove, List.filter_filter, List.filter_filter]
  exact List.filter_congr fun t _ => Bool.and_comm _ _

/-- Removing a timer removes it from those of the probe, if it is one. -/
theorem expiries_remove (c : Clock) (id : Nat) :
    (c.remove id).expiries = c.expiries.filter (·.id != id) :=
  c.filter_remove _ id

/-- A timer that is set is one of the probe's, or none of them is touched. -/
theorem expiries_set (c : Clock) (delay : Number) (task : Task) :
    (c.set delay task).expiries = c.expiries
      ++ if task.isGiveUp then [⟨c.lastId + 1, c.now + delay.atLeastZero, task⟩] else [] := by
  rw [expiries, expiries, set, List.filter_append, List.filter_cons, List.filter_nil]

theorem mem_pending_of_mem_expiries {t : Timer} (h : t ∈ c.expiries) : t ∈ c.pending :=
  (List.mem_filter.mp h).1

theorem mem_armed_disarm {other : Nat} (h : other ≠ id) (ha : other ∈ c.armed) :
    other ∈ (c.disarm id).armed :=
  List.mem_filter.mpr ⟨ha, bne_iff_ne.mpr h⟩

end Clock

namespace Undisturbed

variable {c c' c'' : Clock}

theorem refl (c : Clock) : Undisturbed c c := ⟨rfl, fun _ _ => id⟩

theorem trans (h : Undisturbed c c') (h' : Undisturbed c' c'') : Undisturbed c c'' :=
  ⟨h'.expiries.trans h.expiries, fun t ht ha =>
    h'.armed t (h.expiries.symm ▸ ht) (h.armed t ht ha)⟩

/-- A timer that is none of the probe's may be taken off. -/
theorem remove {id : Nat} (h : ∀ t ∈ c.expiries, t.id ≠ id) : Undisturbed c (c.remove id) where
  expiries := by
    rw [Clock.expiries_remove]
    exact List.filter_eq_self.mpr fun t ht => bne_iff_ne.mpr (h t ht)
  armed _ _ armed := armed

/-- Disarming a handle that is none of the probe leaves its timers alone. -/
theorem disarm {id : Nat} (h : ∀ t ∈ c.expiries, t.id ≠ id) : Undisturbed c (c.disarm id) :=
  ⟨rfl, fun t ht => Clock.mem_armed_disarm (h t ht)⟩

/-- So does calling off the timer that the fusion waits for. -/
theorem callOff {recheck : Option Nat}
    (h : ∀ id, recheck = some id → ∀ t ∈ c.expiries, t.id ≠ id) :
    Undisturbed c (c.callOff recheck) := by
  cases recheck with
  | none => exact refl c
  | some id =>
    rw [Clock.callOff]
    split
    · have removed := remove (h id rfl)
      exact removed.trans (disarm (removed.expiries ▸ h id rfl))
    · exact refl c

/-- A timer that is none of the probe's may be set. -/
theorem set (delay : Number) {task : Task} (h : task.isGiveUp = false) :
    Undisturbed c (c.set delay task) where
  expiries := by rw [Clock.expiries_set, h, if_neg Bool.false_ne_true, List.append_nil]
  armed _ _ := List.mem_append_left _

end Undisturbed

namespace Clocked

variable {c : Clock} {recheck : Option Nat}

/-- The fusion may cease to wait. -/
theorem forget (h : Clocked c recheck) : Clocked c none :=
  ⟨h.distinct, h.bound, fun _ => nofun⟩

/-- Timers that are left have numbers of their own. -/
theorem remove (h : Clocked c recheck) (id : Nat) : Clocked (c.remove id) recheck where
  distinct := h.distinct.sublist (List.filter_sublist.map _)
  bound t ht := h.bound t (Clock.mem_pending_remove.mp ht).1
  recheck id' e := by
    obtain ⟨hb, hn⟩ := h.recheck id' e
    refine ⟨hb, fun t ht => hn t ?_⟩
    rw [Clock.expiries_remove] at ht
    exact (List.mem_filter.mp ht).1

/-- A timer may be called off, whosever it is. -/
theorem callOff (h : Clocked c recheck) (x : Option Nat) : Clocked (c.callOff x) recheck := by
  cases x with
  | none => exact h
  | some id =>
    rw [Clock.callOff]
    split
    · exact { h.remove id with }
    · exact h

/-- A new timer has a new number. -/
theorem set (h : Clocked c recheck) (delay : Number) (task : Task) :
    Clocked (c.set delay task) recheck := by
  have fresh : ∀ t ∈ c.pending, t.id ≠ c.lastId + 1 := fun t ht e => by
    have := h.bound t ht
    omega
  refine ⟨?_, fun t ht => ?_, fun id e => ?_⟩
  · rw [Clock.set, List.map_append]
    refine List.nodup_append.mpr ⟨h.distinct, List.pairwise_singleton _ _, ?_⟩
    intro id hid id' hid' e
    obtain ⟨t, ht, rfl⟩ := List.mem_map.mp hid
    exact fresh t ht (e.trans (List.mem_singleton.mp hid'))
  · rcases List.mem_append.mp ht with ht | ht
    · exact Nat.le_succ_of_le (h.bound t ht)
    · rw [List.mem_singleton.mp ht]
      exact Nat.le_refl _
  · obtain ⟨hb, hn⟩ := h.recheck id e
    refine ⟨Nat.le_succ_of_le hb, fun t ht => ?_⟩
    rw [Clock.expiries_set] at ht
    rcases List.mem_append.mp ht with ht | ht
    · exact hn t ht
    · split at ht
      · rw [List.mem_singleton.mp ht]
        exact Nat.ne_of_gt (Nat.lt_succ_of_le hb)
      · exact absurd ht List.not_mem_nil

/-- The fusion may wait for a new timer. -/
theorem setRecheck (h : Clocked c recheck) (delay : Number) :
    Clocked (c.set delay .recheck) (some (c.lastId + 1)) where
  distinct := (h.set delay .recheck).distinct
  bound := (h.set delay .recheck).bound
  recheck id e := by
    cases e
    refine ⟨Nat.le_refl _, fun t ht e => ?_⟩
    rw [(Undisturbed.set delay rfl).expiries] at ht
    have := h.bound t (Clock.mem_pending_of_mem_expiries ht)
    omega

end Clocked

/-! ### What is no concern of the probe -/

/-- What the probe remembers, and whether there is anybody to ask. -/
def View.desk (v : View) : List Caller × Bool × Option Nat × Nat × Bool :=
  (v.waiting, v.checking, v.timer, v.lastTicket, v.primaryThere)

/-- What a deed that has nothing to do with listeners and timers leaves as it is. -/
def View.office (v : View) :
    (List Caller × Bool × Option Nat × Nat × Bool) × List Listener × Clock × Option Nat :=
  (v.desk, v.fusion.listeners, v.clock, v.fusion.pendingRecheck)

/-- The desk, item by item. -/
theorem View.desk_eq {v v' : View} (h : v'.desk = v.desk) :
    v'.waiting = v.waiting ∧ v'.checking = v.checking ∧ v'.timer = v.timer
      ∧ v'.lastTicket = v.lastTicket ∧ v'.primaryThere = v.primaryThere := by
  simpa only [desk, Prod.mk.injEq] using h

/-- **The probe is spared**: nothing that concerns it is done. -/
structure Spared (v v' : View) : Prop where
  /-- Nobody has asked or been answered. -/
  history : v.history.Since Entry.isSpare v'.history
  /-- The probe remembers the same. -/
  desk : v'.desk = v.desk
  /-- It listens if it listened. -/
  probe : .probe ∈ v'.fusion.listeners ↔ .probe ∈ v.fusion.listeners
  /-- Its timers are left alone, as long as timers have numbers of their own. -/
  clock : Clocked v.clock v.fusion.pendingRecheck →
    Clocked v'.clock v'.fusion.pendingRecheck ∧ Undisturbed v.clock v'.clock

variable {v v' v'' : View}

namespace Spared

theorem refl (v : View) : Spared v v := ⟨.refl _ _, rfl, Iff.rfl, fun h => ⟨h, .refl _⟩⟩

theorem trans (h : Spared v v') (h' : Spared v' v'') : Spared v v'' where
  history := h.history.trans h'.history
  desk := h'.desk.trans h.desk
  probe := h'.probe.trans h.probe
  clock hc := by
    obtain ⟨hc', hu⟩ := h.clock hc
    obtain ⟨hc'', hu'⟩ := h'.clock hc'
    exact ⟨hc'', hu.trans hu'⟩

/-- Nothing may be added to the history. -/
theorem none (hh : v'.history = v.history) (ho : v'.office = v.office) : Spared v v' := by
  obtain ⟨desk, listeners, clock, recheck⟩ : v'.desk = v.desk
      ∧ v'.fusion.listeners = v.fusion.listeners ∧ v'.clock = v.clock
      ∧ v'.fusion.pendingRecheck = v.fusion.pendingRecheck := by
    simpa only [View.office, Prod.mk.injEq] using ho
  refine ⟨hh ▸ .refl _ _, desk, by rw [listeners], fun hc => ?_⟩
  rw [clock, recheck]
  exact ⟨hc, .refl _⟩

/-- A spare entry may be added to the history. -/
theorem one {n : Note} (hn : n.entry.isSpare = true) (hh : v'.history = n :: v.history)
    (ho : v'.office = v.office) : Spared v v' :=
  have same : Spared v { v' with history := v.history } := none rfl ho
  ⟨hh ▸ .cons (.refl _ _) hn, same.desk, same.probe, same.clock⟩

/-- The timer of the fusion is none of the probe. -/
theorem uncheck (v : View) : Spared v v.uncheck where
  history := .refl _ _
  desk := rfl
  probe := Iff.rfl
  clock hc := ⟨(hc.callOff _).forget, .callOff fun id e => (hc.recheck id e).2⟩

/-- Neither is the one that takes its place. -/
theorem recheckLater (v : View) : Spared v v.recheckLater where
  history := .refl _ _
  desk := rfl
  probe := Iff.rfl
  clock hc := by
    refine ⟨(hc.callOff _).setRecheck _, ?_⟩
    exact (Undisturbed.callOff fun id e => (hc.recheck id e).2).trans (.set _ rfl)

/-- The time may pass. -/
theorem elapse (v : View) (time : Number) : Spared v (v.elapse time) where
  history := .refl _ _
  desk := rfl
  probe := Iff.rfl
  clock hc := ⟨{ hc with }, rfl, fun _ _ armed => armed⟩

/-- **A fusion that stops working keeps its listeners**, the probe among them. -/
theorem tearDown (v : View) : Spared v v.tearDown := by
  rw [View.tearDown]
  split
  · have rested : Spared v v.rest := none rfl rfl
    exact (rested.trans (uncheck _)).trans (.one rfl rfl rfl)
  · exact refl v

/-- Pausing does not concern the probe. -/
theorem pause (v : View) : Spared v v.pause := by
  have stops : Spared v ((v.turn .paused).change fun f => { f with paused := true }) :=
    .one rfl rfl rfl
  exact stops.trans (tearDown _)

/-- Whoever leaves, the probe stays if it is somebody else. -/
theorem drop (v : View) {l : Listener} (hl : l ≠ .probe) : Spared v (v.drop l) := by
  have kept : Listener.probe ∈ v.fusion.listeners.erase l ↔ Listener.probe ∈ v.fusion.listeners :=
    List.mem_erase_of_ne hl.symm
  rw [View.drop]
  split
  · exact ⟨.cons (.refl _ _) rfl, rfl, kept, fun hc => ⟨hc, .refl _⟩⟩
  · exact ⟨.refl _ _, rfl, kept, fun hc => ⟨hc, .refl _⟩⟩

/-- So it does when that was the last one. -/
theorem leave (v : View) {l : Listener} (hl : l ≠ .probe) : Spared v (v.leave l) := by
  rw [View.leave]
  split
  · exact (drop v hl).trans (tearDown _)
  · exact drop v hl

/-- The probe does not come to listen when somebody else does. -/
theorem join (v : View) {l : Listener} (hl : l ≠ .probe) : Spared v (v.join l) := by
  rw [View.join]
  split
  · exact refl v
  · refine ⟨.cons (.refl _ _) rfl, rfl, ?_, fun hc => ⟨hc, .refl _⟩⟩
    exact List.mem_append.trans (or_iff_left fun h => hl (List.mem_singleton.mp h).symm)

/-- What the secondary says concerns the fusion alone. -/
theorem second (v : View) (r : Reading) : Spared v (v.second r) := by
  rw [View.second]
  split
  · have heard : Spared v (v.turn (.sensed .secondary r)).rest := .one rfl rfl rfl
    exact heard.trans (recheckLater _)
  · exact .one rfl rfl rfl

/-- A timer of the fusion goes off. -/
theorem recheck (v : View) {t : Timer} (ht : t ∈ v.clock.pending) (task : t.task = .recheck) :
    Spared v ((v.strike t).recheck t.id) where
  history := .cons (.refl _ _) rfl
  desk := rfl
  probe := Iff.rfl
  clock hc := by
    -- The timer that goes off is the fusion's, and numbers tell it from those of the probe.
    have other : ∀ u ∈ v.clock.expiries, u.id ≠ t.id := by
      intro u hu e
      have same : u = t :=
        List.inj_on_of_nodup_map hc.distinct (Clock.mem_pending_of_mem_expiries hu) ht e
      have mine := (List.mem_filter.mp hu).2
      rw [same, task] at mine
      exact absurd mine Bool.false_ne_true
    have removed : Undisturbed v.clock ((v.clock.remove t.id).reach t.due) :=
      (Undisturbed.remove other).trans ⟨rfl, fun _ _ armed => armed⟩
    refine ⟨?_, removed.trans (.disarm (removed.expiries ▸ other))⟩
    have struck : Clocked (v.strike t).clock v.fusion.pendingRecheck :=
      { hc.remove t.id with }
    rw [View.recheck]
    by_cases waits : (v.strike t).fusion.pendingRecheck = some t.id
    · rw [if_pos waits]
      exact struck.forget
    · rw [if_neg waits]
      exact struck

/-- So does what a sensor says altogether. -/
theorem heard {r : Reading} (h : Heard r v v') : Spared v v' := by
  cases h with
  | alone | gone => exact .one rfl rfl rfl
  | counted => exact second v r

/-- Whatever is taken notice of, the probe is spared. -/
theorem taking (h : Taking v v') : Spared v v' := by
  cases h with
  | passOver hh => exact heard hh
  | @accept r _ u hh =>
    refine (heard hh).trans ?_
    rw [View.accept]
    split <;> exact .one rfl rfl rfl

/-- A broadcast spares the probe until it is told something itself. -/
theorem telling (h : Telling v v') : Spared v v' := by
  cases h <;> exact .one rfl rfl rfl

end Spared

/-- **The probe has left**, and nothing else that concerns it is done. -/
structure Vacated (v v' : View) : Prop where
  /-- Nobody has asked or been answered. -/
  history : v.history.Since Entry.isSpare v'.history
  /-- The probe remembers the same. -/
  desk : v'.desk = v.desk
  /-- It does not listen any longer. -/
  absent : .probe ∉ v'.fusion.listeners
  /-- Timers still have numbers of their own. -/
  clocked : Clocked v'.clock v'.fusion.pendingRecheck
  /-- Its timers are left alone. -/
  undisturbed : Undisturbed v.clock v'.clock

namespace Vacated

/-- What is done when nobody is left spares the probe. -/
theorem spared (h : Vacated v v') (hs : Spared v' v'') : Vacated v v'' := by
  obtain ⟨clocked, undisturbed⟩ := hs.clock h.clocked
  exact ⟨h.history.trans hs.history, hs.desk.trans h.desk, mt hs.probe.mp h.absent, clocked,
    h.undisturbed.trans undisturbed⟩

/-- The probe leaves. -/
theorem drop (distinct : v.fusion.listeners.Nodup) (hc : Clocked v.clock v.fusion.pendingRecheck) :
    Vacated v (v.drop .probe) := by
  have absent : Listener.probe ∉ v.fusion.listeners.erase .probe := distinct.not_mem_erase
  rw [View.drop]
  split
  · exact ⟨.cons (.refl _ _) rfl, rfl, absent, hc, .refl _⟩
  · exact ⟨.refl _ _, rfl, absent, hc, .refl _⟩

/-- The probe leaves, and the fusion stops working if it was the last one. -/
theorem leave (distinct : v.fusion.listeners.Nodup)
    (hc : Clocked v.clock v.fusion.pendingRecheck) : Vacated v (v.leave .probe) := by
  have dropped := drop distinct hc
  rw [View.leave]
  split
  · exact dropped.spared (.tearDown _)
  · exact dropped

end Vacated

/-- Whether a history tells of a failure of a callback, or of anything that nothing can go on
after. -/
def Entry.isAlarm : Entry → Bool
  | .turned (.balked _) | .logged .fatal _ _ _ => true
  | _ => false

/-- A call from another thread is an alarm. -/
theorem Entry.isAlarm_of_isFatal {entry : Entry} (h : entry.isFatal = true) :
    entry.isAlarm = true := by
  obtain ⟨_, _, _, rfl⟩ := exists_of_isFatal h
  rfl

/-- **No callback has failed, and no call has come from another thread.** -/
def History.Calm (h : History) : Prop := ∀ n ∈ h, n.entry.isAlarm = false

instance (h : History) : Decidable h.Calm :=
  inferInstanceAs (Decidable (∀ n ∈ h, n.entry.isAlarm = false))

/-- What is calm has always been calm. -/
theorem History.Calm.of_suffix {h h' : History} (c : h'.Calm) (s : h <:+ h') : h.Calm :=
  fun n hn => c n (s.subset hn)

/-- After an alarm nothing is calm. -/
theorem History.not_calm_cons {h : History} {n : Note} (hn : n.entry.isAlarm = true) :
    ¬ Calm (n :: h) := fun c =>
  Bool.false_ne_true ((c n List.mem_cons_self).symm.trans hn)

/-- **What is done before a call from another thread is refused.** -/
inductive Begun (v : View) : View → Prop where
  /-- Nothing. -/
  | nothing : Begun v v
  /-- A timer has gone off. -/
  | struck (t : Timer) : Begun v (v.strike t)
  /-- Somebody has asked, and waits with a timer. -/
  | opened (timeout : Number) {c : Caller} : v.primaryThere = true → v.checking = false →
      c.ticket = v.lastTicket + 1 → Begun v (v.openCheck timeout c)
  /-- Nobody waits any longer, since there is an answer. -/
  | taken (near : Option Bool) : Begun v (v.take near).stopTimer
  /-- Nobody waits any longer, since the timer has gone off. -/
  | gaveUp (t : Timer) : Begun v ((v.giveUp t).take none).stopTimer

/-- **A move spares the probe**, unless another thread calls, or somebody asks while others
wait. -/
theorem Move.spared_or_refused (h : Move v v') :
    Spared v v' ∨ (∃ u entry, Begun v u ∧ entry.isFatal = true ∧ v' = u.note entry)
      ∨ ∃ timeout c, v.checking = true ∧ v.primaryThere = true
        ∧ c.ticket = v.lastTicket + 1 ∧ v' = (v.ask timeout).queue c := by
  cases h with
  | refuse he => exact .inr (.inl ⟨_, _, .nothing, he, rfl⟩)
  | lapse _ _ he => exact .inr (.inl ⟨_, _, .struck _, he, rfl⟩)
  | strand timeout there idle ticket he =>
    exact .inr (.inl ⟨_, _, .opened timeout there idle ticket, he, rfl⟩)
  | abandon near he => exact .inr (.inl ⟨_, _, .taken near, he, rfl⟩)
  | forsake _ _ he => exact .inr (.inl ⟨_, _, .gaveUp _, he, rfl⟩)
  | @enqueue timeout c there checking ticket =>
    exact .inr (.inr ⟨timeout, c, checking, there, ticket, rfl⟩)
  | elapse time => exact .inl (.elapse v time)
  | tag | link => exact .inl (.none rfl rfl)
  | ready | sample | again | consult | await => exact .inl (.one rfl rfl rfl)
  | verify r =>
    have sensed : Spared v (v.sense r) := .one rfl rfl rfl
    exact .inl ((sensed.trans (.uncheck _)).trans (.none rfl rfl))
  | disown r =>
    have rested : Spared v (v.turn (.sensed .secondary r)).rest := .one rfl rfl rfl
    exact .inl (rested.trans (.uncheck _))
  | overhear r => exact .inl (.second v r)
  | pause => exact .inl (.pause v)
  | leave name => exact .inl (.leave v nofun)
  | mode on => cases on <;> exact .inl (.one rfl rfl rfl)
  | recheck ht task => exact .inl (.recheck v ht task)

/-- A call from another thread is an alarm. -/
theorem Move.spared_or (h : Move v v') :
    Spared v v' ∨ ¬ v'.history.Calm ∨ ∃ timeout c, v.checking = true ∧ v.primaryThere = true
      ∧ c.ticket = v.lastTicket + 1 ∧ v' = (v.ask timeout).queue c := by
  refine h.spared_or_refused.imp_right (.imp_left ?_)
  rintro ⟨u, entry, -, he, rfl⟩
  exact History.not_calm_cons (Entry.isAlarm_of_isFatal he)

end Proximity
