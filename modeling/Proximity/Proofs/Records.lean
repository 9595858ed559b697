import Proximity.Proofs.Custom

/-!
# Nothing goes unnoted

Histories are told by notes that the program takes of itself, and what is said of a history would say
little if something could be left out of it. It cannot. Nothing that has been noted is ever lost
(`Proximity.Grows`), and whatever reaches the fusion, its sensors and its probe on the owner's thread
is noted before anything comes of it (`Proximity.Records`):

| what happens | what is noted | |
|---|---|---|
| a source delivers a sample | that it reached the sensor | `Proximity.Records.sample` |
| a sensor tells the fusion a reading | that, and that the reading came in | `Proximity.Records.tell` |
| a stand-in is made to report | the same, of its report | `Proximity.Records.event` |
| somebody asks the probe | the question, under the next number | `Proximity.Records.check`, `Proximity.Records.query` |

A sample that no subscription waits for leaves everything as it was
(`Proximity.exec_deliver_of_deaf`).
-/

namespace Proximity

open Act Session

variable {α β : Type} {b b' : Bench} {call : Reactor} {entry : Entry} {entries : List Entry}

/-- **A journal has grown**, and nothing in it is lost. -/
def Grows (b b' : Bench) : Prop := b.journal <:+ b'.journal

namespace Grows

instance : Tolerant Grows where
  refl _ := List.suffix_rfl
  trans h h' := h.trans h'
  aside s := s.journal.suffix

instance : Custom Grows where
  broadcast C fresh := Observed.broadcast_of_free C fresh (fun _ _ => List.suffix_rfl)
    fun _ _ _ _ => List.suffix_cons _ _

instance : Careless Grows where
  note _ _ := List.suffix_cons _ _
  modifyProbe _ _ := List.suffix_rfl

end Grows

/-- **Some entries are noted before anything else**, the latest first, and they are not lost. -/
def Records (entries : List Entry) (act : Act α) (b : Bench) : Prop :=
  entries.map (⟨b.clock.now, ·⟩) ++ b.journal <:+ (after act b).journal

namespace Records

/-- Where nothing needs to be noted first, nothing may be lost. -/
theorem nil {act : Act α} (rest : Observed Grows act) : Records [] act b := rest b

/-- What is noted first comes before what is noted then. -/
theorem note (entries : List Entry) {f : Unit → Act β}
    (rest : Records entries (f ()) (noted b entry)) :
    Records (entries ++ [entry]) (Bench.note entry >>= f) b := by
  rw [Records, after, exec_bind_of_ok (exec_note entry b), List.map_append, List.append_assoc]
  exact rest

/-- An action may come first that leaves the journal and the clock as they are. -/
theorem step {x : Act α} {f : α → Act β} {a : α} (e : exec x b = (.ok a, b'))
    (journal : b'.journal = b.journal) (clock : b'.clock = b.clock)
    (rest : Records entries (f a) b') : Records entries (x >>= f) b := by
  rw [Records, after, exec_bind_of_ok e, ← journal, ← clock]
  exact rest

/-- An action may come first that only reads. -/
theorem read {x : Act α} {f : α → Act β} {a : α} (e : exec x b = (.ok a, b))
    (rest : Records entries (f a) b) : Records entries (x >>= f) b := step e rfl rfl rest

/-- Something may come afterwards that loses nothing. -/
theorem bind {x : Act α} {f : α → Act β} (h : Records entries x b)
    (rest : ∀ a, Observed Grows (f a)) : Records entries (x >>= f) b := by
  rcases e : exec x b with ⟨fault | a, b'⟩
  all_goals
    rw [Records, after, e] at h
    rw [Records, after]
  · rw [exec_bind_of_error e]
    exact h
  · rw [exec_bind_of_ok e]
    exact h.trans (rest a b')

/-! ### Samples -/

/-- **A sample that reaches a sensor is noted.** -/
theorem take (C : call.Observes Grows) (home : OnThread b) (role : Role) (sample : Sample) :
    Records [.turned (.sampled role sample)] (Hysteresis.take call role sample) b := by
  obtain ⟨rest, grows, e⟩ := Observed.exists_take C role sample
  rw [e]
  exact read (open_of_onThread home role) (note [] (nil grows))

end Records

/-- Whether a sample of its source reaches a sensor, in time or late: there is a subscription that
waits for it, or has been one. -/
def Hysteresis.hears (h : Hysteresis) (late : Bool) : Bool :=
  h.source.any fun source => source.live || (late && source.subscriptions != 0)

/-- What comes of a sample is decided by whether it reaches the sensor. -/
theorem exec_deliver {role : Role} {h : Hysteresis} (there : b.sensors.get role = .hysteresis h)
    (call : Reactor) (sample : Sample) (late : Bool) :
    exec (Sensor.deliver call role sample late) b
      = if h.hears late then exec (Hysteresis.take call role sample) b else (.ok (), b) := by
  rw [Sensor.deliver, exec_bind_of_ok (exec_getSensor role b), there]
  refine (exec_bind_of_ok (exec_hysteresisGet role b)).trans ?_
  rw [there, show (Sensor.hysteresis h).asHysteresis.source = h.source from rfl, Hysteresis.hears]
  cases h.source with
  | none => rfl
  | some source => exact apply_ite (fun act => exec act b) _ (Hysteresis.take call role sample) _

/-- **A sample that a source delivers is noted**, if it reaches the sensor. -/
theorem Records.sample {role : Role} {h : Hysteresis} (there : b.sensors.get role = .hysteresis h)
    {sample : Sample} {late : Bool} (hears : h.hears late = true) (home : OnThread b) (depth : Nat) :
    Records [.turned (.sampled role sample)] (perform (react depth) (.sample role sample late)) b := by
  refine bind ?_ fun _ => .pure _
  rw [Records, after, exec_deliver there, if_pos hears]
  exact take (Observed.react depth) home role sample

/-- **A sample that does not reach the sensor leaves everything as it was.** -/
theorem exec_deliver_of_deaf {role : Role} {h : Hysteresis}
    (there : b.sensors.get role = .hysteresis h) {late : Bool} (deaf : h.hears late = false)
    (call : Reactor) (sample : Sample) :
    exec (Sensor.deliver call role sample late) b = (.ok (), b) := by
  rw [exec_deliver there, deaf, if_neg Bool.false_ne_true]

namespace Records

variable {role : Role}

/-! ### Readings -/

/-- **A reading that a sensor tells the fusion is noted**, at whatever depth. -/
theorem tell (home : OnThread b) (own : role ≠ .sole) (r : Reading) (depth : Nat) :
    Records [.turned (.sensed role r), .told (.fusion role) r]
      (Bench.tell (react (depth + 1)) (.fusion role) r) b := by
  refine note [.turned (.sensed role r)] ?_
  have asserted : exec Bench.assertOwner (noted b (.told (.fusion role) r)) = (.ok (), _) :=
    exec_assertOwner home
  have C : (react depth).Observes Grows := Observed.react depth
  cases role with
  | sole => exact absurd rfl own
  | primary =>
    obtain ⟨rest, grows, e⟩ := Observed.exists_onPrimary C r
    show Records _ (Fusion.onPrimary (react depth) r) _
    rw [e]
    exact read asserted (note [] (nil grows))
  | secondary =>
    obtain ⟨rest, grows, e⟩ := Observed.exists_onSecondary C r
    show Records _ (Fusion.onSecondary (react depth) r) _
    rw [e]
    exact read asserted (note [] (nil grows))

/-- All who listen to a sensor of a fusion are told a reading, and that is the fusion. -/
theorem tellAll (home : OnThread b) (own : role ≠ .sole) {listeners : List Listener}
    (some : listeners ≠ []) (wired : ∀ l ∈ listeners, l = .fusion role) (r : Reading) (depth : Nat) :
    Records [.turned (.sensed role r), .told (.fusion role) r]
      (Bench.tellAll (react (depth + 1)) listeners r) b := by
  cases listeners with
  | nil => exact absurd rfl some
  | cons l listeners =>
    rw [wired l List.mem_cons_self]
    exact bind (tell home own r depth) fun _ => .tellAll (Observed.react _) listeners r

/-- **What a stand-in is made to report is noted**, if the fusion listens to it. -/
theorem event (w : Wired b) (home : OnThread b)
    (listens : (b.sensors.get role).asStandIn.listeners ≠ []) (near : Bool) (stamp : Option Int)
    (depth : Nat) :
    ∃ r, r.near = near ∧ Records [.turned (.sensed role r), .told (.fusion role) r]
      (perform (react (depth + 1)) (.event role near stamp)) b := by
  obtain ⟨s, there, listens⟩ : ∃ s, b.sensors.get role = .standIn s ∧ s.listeners ≠ [] := by
    cases e : b.sensors.get role with
    | standIn s =>
      rw [e] at listens
      exact ⟨s, rfl, listens⟩
    | hysteresis | absent | unplanned =>
      rw [e] at listens
      exact absurd rfl listens
  have own : role ≠ .sole := by
    rintro rfl
    cases w.sole.symm.trans there
  have wired : ∀ l ∈ s.listeners, l = .fusion role := by
    have listeners : (b.sensors.get role).listeners = s.listeners := by rw [there]; rfl
    exact listeners ▸ w.listeners role
  cases stamp with
  | some stamp =>
    refine ⟨⟨near, stamp⟩, rfl, bind (read (exec_getSensor role b) ?_) fun _ => .pure _⟩
    rw [there]
    refine read (exec_standInGet role b) ?_
    rw [there]
    exact tellAll home own listens wired _ depth
  | none =>
    refine ⟨⟨near, ↑(s.reports + 1)⟩, rfl, bind (read (exec_getSensor role b) ?_) fun _ => .pure _⟩
    rw [there]
    refine step (exec_modifySensor role _ b) rfl rfl (read (exec_standInGet role _) ?_)
    rw [Sensors.get_modify_self, there]
    exact tellAll (b := { b with sensors := b.sensors.modify role _ }) home own listens wired _ depth

/-! ### Questions -/

variable (C : call.Observes Grows)
include C

/-- **A question is noted under the next number**, if a callback takes the answer. -/
theorem check (name : String) (timeout : Number) (script : List Step) :
    Records [.turned (.asked (b.probe.lastTicket + 1) timeout)]
      (Probe.check call name timeout script) b := by
  refine bind (step (exec_modifyProbe _ b) rfl rfl (read (exec_getProbe _) ?_)) fun _ =>
    Careless.ask C timeout _
  exact note [] (nil (.pure _))

/-- So it is if a promise takes the answer. -/
theorem query (name : String) (patience : Option Number) :
    Records [.turned (.asked (b.probe.lastTicket + 1) (patience.getD b.probe.timeout))]
      (Probe.query call name patience) b := by
  refine read (exec_getProbe b) (bind (step (exec_modifyProbe _ b) rfl rfl
    (read (exec_getProbe _) ?_)) fun _ => ?_)
  · exact note [] (nil (.pure _))
  · exact .bind (Careless.modifyProbe _) fun _ => .bind (.tryCatch (Careless.ask C _ _) fun _ =>
      Careless.settle _ _) fun _ => Careless.watch _

end Records

end Proximity
