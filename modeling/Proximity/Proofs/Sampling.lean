import Proximity.Proofs.Reached
import Proximity.Proofs.Subscription

/-!
# Sampling on a bench

What is done with a single hysteresis sensor on a bench (`Proximity.Alone`): it is joined and
left, paused and resumed, given a delay, and its source delivers samples, all from outside or
from inside the calls of its listeners, which may be called from inside any of that, to any
depth.

All of it succeeds, and keeps the subscriptions accounted for (`Proximity.Accounted`). The
calls that subscribe to the source and have not come back are those in which the call at hand
is nested; whatever is called from inside another one leaves them in flight, and the call that
takes off in between comes back before (`Proximity.Calls.yields_begin`).
-/

namespace Proximity

open Act Session

variable {b : Bench}

/-! ### A bench with one sensor -/

/-- Whether a step is a call of a sensor, or delivers it a sample. -/
def Step.isSensorCall : Step → Bool
  | join _ | leave _ | pause | resume | delay _ | sample _ _ _ => true
  | _ => false

/-- A bench that has a hysteresis sensor and no other. -/
def Bench.equip (b : Bench) (h : Hysteresis) : Bench :=
  { b with sensors := ⟨.unplanned, .unplanned, .hysteresis h⟩ }

/-- **A bench on which a hysteresis sensor is alone**, with listeners from outside that only
call the sensor. It is used from its owner's thread, at a finite time. -/
structure Alone (h : Hysteresis) (b : Bench) : Prop where
  /-- The steps from outside are aimed at the sensor. -/
  target : b.target = .sensor
  /-- It is the only one. -/
  sensors : b.sensors = ⟨.unplanned, .unplanned, .hysteresis h⟩
  /-- Those who listen are from outside. -/
  named : ∀ l ∈ h.listeners, ∃ name, l = .named name
  /-- They only call the sensor. -/
  scripts : ∀ entry ∈ b.scripts, ∀ script ∈ entry.2, ∀ step ∈ script, step.isSensorCall = true
  /-- The owner's thread calls. -/
  thread : OnThread b
  /-- The clock shows a finite time. -/
  timely : ∃ nanos, nanosOf b.clock.now = .ok nanos

/-- Only the journal has grown, and by nothing that has to do with subscriptions. -/
structure Logged (b b' : Bench) : Prop where
  /-- A sensor that was alone still is. -/
  alone : ∀ {h}, Alone h b → Alone h b'
  /-- No subscription was made. -/
  made : b'.made = b.made
  /-- No subscription was stopped. -/
  stopped : b'.stopped = b.stopped

namespace Logged

theorem refl (b : Bench) : Logged b b := ⟨id, rfl, rfl⟩

theorem trans {b' b'' : Bench} (l : Logged b b') (l' : Logged b' b'') : Logged b b'' :=
  ⟨fun a => l'.alone (l.alone a), l'.made.trans l.made, l'.stopped.trans l.stopped⟩

/-- Anything may be noted but that a subscription is made or stopped. -/
theorem note (b : Bench) {entry : Entry} (hm : entry.made? = none) (hs : entry.stopped? = none) :
    Logged b (noted b entry) where
  alone a := { a with }
  made := by simp [Bench.made, noted, hm]
  stopped := by simp [Bench.stopped, noted, hs]

variable {flights : List Flight} {h : Hysteresis} {b' : Bench}

/-- What is logged is not in the ledger. -/
theorem ledger (l : Logged b b') (x : Ledger flights h b.made b.stopped) :
    Ledger flights h b'.made b'.stopped := by
  rwa [l.made, l.stopped]

theorem sound (l : Logged b b') (s : Sound flights h b.made b.stopped) :
    Sound flights h b'.made b'.stopped := by
  rwa [l.made, l.stopped]

end Logged

namespace Alone

variable {h h' : Hysteresis}

/-- The one sensor of a bench can be read. -/
theorem get (a : Alone h b) : exec (Hysteresis.get .sole) b = (.ok h, b) := by
  rw [exec_hysteresisGet, a.sensors]
  rfl

/-- It can be changed. -/
theorem modify (a : Alone h b) (f : Hysteresis → Hysteresis) :
    exec (Hysteresis.modify .sole f) b = (.ok (), b.equip (f h)) := by
  refine (exec_modifySensor .sole _ b).trans ?_
  rw [a.sensors]
  rfl

/-- The sensor changes, and so may its listeners. -/
theorem change (a : Alone h b)
    (named : ∀ l ∈ h'.listeners, l ∈ h.listeners ∨ ∃ name, l = .named name) :
    Alone h' (b.equip h') :=
  { a with
    sensors := rfl
    named := fun _ hl => (named _ hl).elim (a.named _) id }

/-- The sensor changes, and its listeners stay. -/
theorem equip (a : Alone h b) (same : h'.listeners = h.listeners) : Alone h' (b.equip h') :=
  a.change fun _ hl => .inl (same ▸ hl)

theorem log (a : Alone h b) (severity : Severity) (message : String)
    (metadata : List (String × Tree)) :
    ∃ b', exec (Hysteresis.logAbout .sole severity message metadata) b = (.ok (), b')
      ∧ Logged b b' := by
  refine ⟨_, (exec_bind_of_ok a.get).trans (exec_log _ _ _ _ b), ?_⟩
  split
  · exact .note b rfl rfl
  · exact .refl b

/-- Stamps can be resolved, as the time is finite. -/
theorem resolveStamp (a : Alone h b) (stamp : Stamp) :
    ∃ nanos, exec (Bench.resolveStamp stamp) b = (.ok nanos, b) := by
  obtain ⟨now, timely⟩ := a.timely
  have resolves : ∃ nanos, stamp.resolve b.clock.now = .ok nanos := by
    rw [Stamp.resolve]
    split
    · exact ⟨_, rfl⟩
    · exact ⟨now, timely⟩
  obtain ⟨nanos, e⟩ := resolves
  refine ⟨nanos, (exec_bind_of_ok (exec_get b)).trans ?_⟩
  rw [e]
  rfl

/-- A subscription is stopped. Of the sensor, only its source changes, which falls silent. -/
theorem stop (a : Alone h b) (n : Nat) : ∃ h' b', exec (Hysteresis.stop .sole n) b = (.ok (), b')
    ∧ Alone h' b' ∧ b'.made = b.made ∧ b'.stopped = n :: b.stopped
    ∧ ∃ silence : Source → Source, (∀ s, (silence s).subscriptions = s.subscriptions)
        ∧ h' = { h with source := h.source.map silence } := by
  have a₁ : Alone h (noted b (.stopped .sole n)) := { a with }
  refine ⟨_, _, (exec_bind_of_ok (exec_note _ b)).trans (a₁.modify _), a₁.equip rfl, rfl, rfl,
    fun s => { s with live := s.live && s.subscriptions != n }, fun _ => rfl, rfl⟩

end Alone

namespace Hysteresis

/-- The source has been subscribed to once more. -/
def subscribed (h : Hysteresis) : Hysteresis :=
  { h with source := h.source.map fun s =>
      { s with subscriptions := s.subscriptions + 1, live := true } }

/-- The source has given the samples that it takes from inside a call that subscribes. -/
def drained (h : Hysteresis) : Hysteresis :=
  { h with source := h.source.map fun s => { s with onSubscribe := s.onSubscribe.tail } }

variable (h : Hysteresis)

/-- A source may change in what does not count its subscriptions. -/
theorem subscriptions_map {f : Source → Source}
    (hf : ∀ s, (f s).subscriptions = s.subscriptions) :
    subscriptions { h with source := h.source.map f } = h.subscriptions := by
  cases e : h.source <;> simp [subscriptions, e, hf]

theorem wantsSamples_map (f : Source → Source) :
    wantsSamples { h with source := h.source.map f } = h.wantsSamples := by
  simp [wantsSamples, available]

/-- A source that is subscribed to counts that. -/
theorem subscriptions_subscribed {h : Hysteresis} (there : h.source.isSome = true) :
    h.subscribed.subscriptions = h.subscriptions + 1 := by
  obtain ⟨s, e⟩ := Option.isSome_iff_exists.mp there
  simp [subscriptions, subscribed, e]

theorem wantsSamples_subscribed : h.subscribed.wantsSamples = h.wantsSamples :=
  h.wantsSamples_map _

theorem subscriptions_drained : h.drained.subscriptions = h.subscriptions :=
  h.subscriptions_map fun _ => rfl

theorem wantsSamples_drained : h.drained.wantsSamples = h.wantsSamples := h.wantsSamples_map _

end Hysteresis

/-- **The subscriptions are accounted for**, and the sensor samples if it should. -/
def Accounted (flights : List Flight) (b : Bench) : Prop :=
  ∃ h, Alone h b ∧ Sound flights h b.made b.stopped ∧ h.sampling = h.wantsSamples

/-- What is logged changes no account. -/
theorem Accounted.logged {flights : List Flight} {b' : Bench} (s : Accounted flights b)
    (l : Logged b b') : Accounted flights b' := by
  obtain ⟨h, a, s, wants⟩ := s
  exact ⟨h, l.alone a, l.sound s, wants⟩

namespace Alone

variable {h : Hysteresis} {flights : List Flight}

/-- **What is held is stopped.** -/
theorem drop (a : Alone h b)
    (l : Ledger flights h b.made b.stopped) :
    ∃ h' b', exec (Hysteresis.dropSubscription .sole) b = (.ok (), b') ∧ Alone h' b'
      ∧ Ledger flights h' b'.made b'.stopped ∧ Idle flights h' ∧ h'.sampling = h.sampling
      ∧ h'.wantsSamples = h.wantsSamples ∧ h'.last = h.last := by
  have a₁ : Alone { h with generation := h.generation + 1, subscription := none } _ := a.equip rfl
  obtain ⟨l₁, idle⟩ : Ledger flights { h with generation := h.generation + 1, subscription := none }
      b.made (h.subscription.toList ++ b.stopped) ∧ Idle flights _ := l.release rfl rfl rfl
  cases held : h.subscription with
  | none =>
    rw [held] at l₁
    refine ⟨_, _, ?_, a₁, l₁, idle, rfl, rfl, rfl⟩
    refine (exec_bind_of_ok a.get).trans ((exec_bind_of_ok (a.modify _)).trans ?_)
    rw [held]
    rfl
  | some n =>
    rw [held] at l₁
    obtain ⟨h₂, b₂, e₂, a₂, made, stopped, silence, subs, rfl⟩ := a₁.stop n
    refine ⟨_, b₂, ?_, a₂, ?_, idle, rfl, Hysteresis.wantsSamples_map _ silence, rfl⟩
    · refine (exec_bind_of_ok a.get).trans ((exec_bind_of_ok (a.modify _)).trans ?_)
      rw [held]
      exact e₂
    · rw [made, stopped]
      exact l₁.congr (Hysteresis.subscriptions_map _ subs) rfl rfl

end Alone

/-! ### Nested calls -/

/-- **Listeners that are called succeed**, whatever is in flight, and keep the subscriptions
accounted for. -/
def Calls (call : Reactor) : Prop := ∀ flights name r b, Accounted flights b →
  Yields (call (.listener (.named name) r)) b fun _ => Accounted flights

namespace Calls

variable {call : Reactor} {flights : List Flight} {h h' : Hysteresis}

/-- Whoever is told something leaves the accounts balanced. -/
theorem yields_tellAll (C : Calls call) {listeners : List Listener}
    (named : ∀ l ∈ listeners, ∃ name, l = .named name) (r : Reading) (s : Accounted flights b) :
    Yields (Bench.tellAll call listeners r) b fun _ => Accounted flights := by
  refine .forM listeners (fun l hl b s => ?_) s
  obtain ⟨name, rfl⟩ := named l hl
  exact .step (exec_note _ b) (C flights name r _ (s.logged (.note b rfl rfl)))

/-- **A sample is taken.** -/
theorem yields_take (C : Calls call) (sample : Sample) (s : Accounted flights b) :
    Yields (Hysteresis.take call .sole sample) b fun _ => Accounted flights := by
  obtain ⟨h, a, s, wants⟩ := s
  have sampled : Accounted flights (noted b (.turned (.sampled .sole sample))) :=
    Accounted.logged ⟨h, a, s, wants⟩ (.note b rfl rfl)
  have a₁ : Alone h (noted b (.turned (.sampled .sole sample))) :=
    (Logged.note b rfl rfl).alone a
  refine .step (open_of_onThread a.thread .sole) (.step (exec_note _ b) (.step a₁.get ?_))
  split
  · rename_i on
    split
    · exact .pure sampled
    · rename_i near _
      split
      · -- The sensor is sampling, so it may remember what it reports.
        have a₂ : Alone { h with last := some near } _ := a₁.equip rfl
        have s₂ : Sound flights { h with last := some near } b.made b.stopped :=
          ⟨{ s.toLedger with }, s.on, fun off => by cases on.symm.trans off⟩
        obtain ⟨nanos, e⟩ := a₂.resolveStamp sample.stamp
        refine .step (a₁.modify _) (.step e (.step (exec_note _ _) ?_))
        refine C.yields_tellAll a.named _ (Accounted.logged ⟨_, a₂, s₂, wants⟩ (.note _ rfl rfl))
      · exact .pure sampled
  · exact .pure sampled

/-! ### Starting and stopping -/

/-- **The source is subscribed to**, for a new generation of sampling. The call is in flight
while the source delivers its samples, and still when it comes back. -/
theorem yields_subscribe (C : Calls call) (l : Ledger flights h b.made b.stopped)
    (idle : Idle flights h) (a : Alone h' b) (subs : h'.subscriptions = h.subscriptions)
    (gen : h'.generation = h.generation + 1) (same : h'.subscription = h.subscription)
    (on : h'.sampling = true) (wants : h'.wantsSamples = true) {delay : Number}
    (asked : h'.delay = delay) : Yields (Hysteresis.subscribe call .sole delay) b fun n =>
      Accounted (⟨n, h'.generation⟩ :: flights) := by
  subst asked
  have there : h'.source.isSome = true := (Hysteresis.wantsSamples_iff.mp wants).1
  have a₁ : Alone h'.subscribed (b.equip _) := a.equip rfl
  have s₁ := l.depart idle ((Hysteresis.subscriptions_subscribed there).trans (congrArg (· + 1) subs))
    gen same on
  -- The subscription is noted first, and then the source has its samples taken.
  refine .step (a.modify _) (.step a₁.get (.step (exec_note _ _) ?_))
  have a₂ : Alone h'.subscribed
      (noted (b.equip _) (.subscribed .sole h'.subscribed.subscriptions h'.delay)) := { a₁ with }
  refine .step a₂.get (.step (a₂.modify _) ?_)
  have a₃ : Alone h'.subscribed.drained (Bench.equip _ _) := a₂.equip rfl
  have s₃ := s₁.congr (Hysteresis.subscriptions_drained _) ⟨rfl, rfl, rfl, rfl, rfl⟩
  have wants₃ : h'.subscribed.drained.sampling = h'.subscribed.drained.wantsSamples := by
    rw [Hysteresis.wantsSamples_drained, Hysteresis.wantsSamples_subscribed, wants]
    exact on
  refine .bind (.forM _ (fun sample _ b s => C.yields_take sample s) ⟨_, a₃, s₃, wants₃⟩) ?_
  exact fun _ b' accounted => .pure accounted

/-- **Sampling starts.** When the call that subscribes comes back, what became of the sensor
meanwhile decides whether the subscription is held or stopped. -/
theorem yields_begin (C : Calls call) (a : Alone h b) (l : Ledger flights h b.made b.stopped)
    (idle : Idle flights h) (wants : h.wantsSamples = true) :
    Yields (Hysteresis.beginSampling call .sole) b fun _ => Accounted flights := by
  obtain ⟨b₁, e₁, logged⟩ := a.log .debug "Starting sensor sampling" [("samplingDelay", .number h.delay)]
  have a₁ : Alone h b₁ := logged.alone a
  refine .step a.get (.step e₁ (.step (a₁.modify _) ?_))
  have l₁ := logged.ledger l
  have a₂ : Alone { h with sampling := true, generation := h.generation + 1 } _ := a₁.equip rfl
  refine .bind (C.yields_subscribe (b := b₁.equip _) l₁ idle a₂ rfl rfl rfl rfl wants rfl)
    fun n b₃ ⟨h₃, a₃, s₃, wants₃⟩ => .step a₃.get ?_
  split
  · rename_i current
    exact ⟨_, _, a₃.modify _, _, a₃.equip rfl, s₃.land current, wants₃⟩
  · rename_i overtaken
    obtain ⟨h₄, b₄, e₄, a₄, made, stopped, silence, subs, rfl⟩ := a₃.stop n
    refine ⟨(), b₄, e₄, _, a₄, ?_, wants₃.trans (h₃.wantsSamples_map silence).symm⟩
    rw [made, stopped]
    exact (s₃.divert overtaken).congr (h₃.subscriptions_map subs) ⟨rfl, rfl, rfl, rfl, rfl⟩

/-- **Sampling is adjusted** to whether the sensor should sample. -/
theorem yields_adjust (C : Calls call) (a : Alone h b) (s : Sound flights h b.made b.stopped) :
    Yields (Hysteresis.adjust call .sole) b fun _ => Accounted flights := by
  refine .step a.get ?_
  cases wants : h.wantsSamples with
  | true =>
    cases on : h.sampling with
    | true => exact .pure ⟨h, a, s, on.trans wants.symm⟩
    | false =>
      have turned : Logged b (noted b (.turned (.sampling .sole true))) := .note b rfl rfl
      exact .step (exec_note _ b)
        (C.yields_begin (turned.alone a) (turned.ledger s.toLedger) (s.off on).1 wants)
  | false =>
    cases on : h.sampling with
    | false => exact .pure ⟨h, a, s, on.trans wants.symm⟩
    | true =>
      obtain ⟨b₁, e₁, logged⟩ := a.log .debug "Stopping sensor sampling" []
      have turned : Logged b (noted b₁ (.turned (.sampling .sole false))) :=
        logged.trans (.note b₁ rfl rfl)
      have a₁ := turned.alone a
      have a₂ : Alone { h with sampling := false, last := none } (Bench.equip _ _) := a₁.equip rfl
      have l₁ := turned.ledger s.toLedger
      obtain ⟨h₃, b₃, e₃, a₃, l₃, idle, off, wants₃, last⟩ := a₂.drop (l₁.congr rfl rfl rfl)
      refine .step e₁ (.step (exec_note _ b₁) (.step (a₁.modify _) ?_))
      refine ⟨(), b₃, e₃, h₃, a₃, ⟨l₃, fun on => ?_, fun _ => ⟨idle, last⟩⟩, ?_⟩
      · cases off.symm.trans on
      · exact off.trans (wants₃.trans wants).symm

/-! ### The calls of a sensor -/

/-- A sensor that is paused stops sampling. -/
theorem yields_pause (C : Calls call) (s : Accounted flights b) :
    Yields (Hysteresis.pause call .sole) b fun _ => Accounted flights := by
  obtain ⟨h, a, s, -⟩ := s
  refine .step (open_of_onThread a.thread .sole) (.step (a.modify _) ?_)
  exact C.yields_adjust (a.equip rfl) (s.congr rfl ⟨rfl, rfl, rfl, rfl, rfl⟩)

/-- A sensor that is resumed starts sampling, if somebody listens. -/
theorem yields_resume (C : Calls call) (s : Accounted flights b) :
    Yields (Hysteresis.resume call .sole) b fun _ => Accounted flights := by
  obtain ⟨h, a, s, -⟩ := s
  refine .step (open_of_onThread a.thread .sole) (.step (a.modify _) ?_)
  exact C.yields_adjust (a.equip rfl) (s.congr rfl ⟨rfl, rfl, rfl, rfl, rfl⟩)

/-- A sensor that the last listener leaves stops sampling. -/
theorem yields_leave (C : Calls call) (l : Listener) (s : Accounted flights b) :
    Yields (Hysteresis.leave call .sole l) b fun _ => Accounted flights := by
  obtain ⟨h, a, s, -⟩ := s
  refine .step (open_of_onThread a.thread .sole) (.step (a.modify _) ?_)
  exact C.yields_adjust (a.change fun _ hl => .inl (List.mem_of_mem_erase hl))
    (s.congr rfl ⟨rfl, rfl, rfl, rfl, rfl⟩)

/-- A sensor that the first listener joins starts sampling, unless it is paused. -/
theorem yields_join (C : Calls call) (name : String) (s : Accounted flights b) :
    Yields (Hysteresis.join call .sole (.named name)) b fun _ => Accounted flights := by
  obtain ⟨h, a, s, wants⟩ := s
  refine .step (open_of_onThread a.thread .sole) (.step a.get ?_)
  split
  · split
    · obtain ⟨b₁, e₁, logged⟩ := a.log .warn "Listener registered multiple times" []
      exact .step e₁ (C.yields_adjust (logged.alone a) (logged.sound s))
    · refine .step (a.modify _) (C.yields_adjust (a.change fun l hl => ?_) ?_)
      · exact (List.mem_append.mp hl).imp_right fun new => ⟨name, List.mem_singleton.mp new⟩
      · exact s.congr rfl ⟨rfl, rfl, rfl, rfl, rfl⟩
  · exact .pure ⟨h, a, s, wants⟩

/-- A delay is given. While the sensor is sampling, it subscribes anew. -/
theorem yields_retime (C : Calls call) (delay : Number) (s : Accounted flights b) :
    Yields (Hysteresis.retime call .sole delay) b fun _ => Accounted flights := by
  obtain ⟨h, a, s, wants⟩ := s
  refine .step (open_of_onThread a.thread .sole) (.step a.get ?_)
  split
  · have a₁ : Alone { h with delay } (b.equip _) := a.equip rfl
    refine .step (a.modify _) (.step a₁.get ?_)
    split
    · rename_i on
      have l₁ : Ledger flights { h with delay } b.made b.stopped := s.toLedger.congr rfl rfl rfl
      obtain ⟨h₂, b₂, e₂, a₂, l₂, idle, -, wants₂, -⟩ := a₁.drop l₁
      exact .step e₂ (C.yields_begin a₂ l₂ idle (wants₂.trans (wants.symm.trans on)))
    · rename_i off
      have s₁ : Sound flights { h with delay } b.made b.stopped :=
        ⟨s.toLedger.congr rfl rfl rfl, fun on => absurd on off, s.off⟩
      exact .pure ⟨_, a₁, s₁, wants⟩
  · exact .pure ⟨h, a, s, wants⟩

/-- A source may have a sample, in time or late. -/
theorem yields_deliver (C : Calls call) (sample : Sample) (late : Bool)
    (s : Accounted flights b) :
    Yields (Hysteresis.deliver call .sole sample late) b fun _ => Accounted flights := by
  obtain ⟨h, a, s, wants⟩ := s
  have accounted : Accounted flights b := ⟨h, a, s, wants⟩
  refine .step a.get ?_
  split
  · exact .pure accounted
  · split
    · exact C.yields_take sample accounted
    · exact .pure accounted

end Calls

end Proximity
