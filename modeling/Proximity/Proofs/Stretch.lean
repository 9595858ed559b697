import Proximity.Proofs.View

/-!
# Stretches that call nobody

What is done on a bench between two calls that go out. Such a stretch cannot fail on
the owner's thread, and what it does to the view of the bench is the function of that
name in `Proximity.View`. The statements have one form, `Proximity.Ends act b a v`:
on the bench `b` the action `act` succeeds with the answer `a`, and the bench it
leaves has the view `v`.

Whoever proves something about a longer program takes it apart with
`Proximity.Ends.bind`, and never opens one of the stretches again.
-/

namespace Proximity

open Act

variable {α β : Type} {b : Bench}

/-- **An action succeeds with an answer and shows a view.** -/
def Ends (act : Act α) (b : Bench) (a : α) (v : View) : Prop :=
  ∃ b', exec act b = (.ok a, b') ∧ b'.view = v ∧ Beside b b'

namespace Ends

theorem pure (a : α) : Ends (pure a : Act α) b a b.view := ⟨b, rfl, rfl, .refl b⟩

/-- **One stretch after another is a stretch.** -/
theorem bind {x : Act α} {f : α → Act β} {a : α} {c : β} {v w : View} (hx : Ends x b a v)
    (hf : ∀ b', b'.view = v → Beside b b' → Ends (f a) b' c w) : Ends (x >>= f) b c w := by
  obtain ⟨b₁, e₁, v₁, s₁⟩ := hx
  obtain ⟨b₂, e₂, v₂, s₂⟩ := hf b₁ v₁ s₁
  exact ⟨b₂, (exec_bind_of_ok e₁).trans e₂, v₂, s₁.trans s₂⟩

/-- An action whose end is known to the last detail leaves that bench to the next
one. -/
theorem step {x : Act α} {f : α → Act β} {a : α} {b' : Bench} {c : β} {w : View}
    (hx : exec x b = (.ok a, b')) (s : Beside b b') (hf : Ends (f a) b' c w) :
    Ends (x >>= f) b c w := by
  obtain ⟨b₂, e, hv, s₂⟩ := hf
  exact ⟨b₂, (exec_bind_of_ok hx).trans e, hv, s.trans s₂⟩

/-- The view may be written in another way. -/
theorem congr {act : Act α} {a : α} {v w : View} (h : Ends act b a v) (e : v = w) :
    Ends act b a w := e ▸ h

/-- An action that only reads leaves its bench to the next one. -/
theorem read {x : Act α} {f : α → Act β} {a : α} {c : β} {w : View}
    (hx : exec x b = (.ok a, b)) (hf : Ends (f a) b c w) : Ends (x >>= f) b c w :=
  step hx (.refl b) hf

end Ends

/-! ### Notes and fields -/

/-- What is noted is in the history if it is of the kind that is. -/
theorem history_noted (b : Bench) (entry : Entry) :
    (noted b entry).history
      = if entry.isHistoric then ⟨b.clock.now, entry⟩ :: b.history else b.history := by
  simp only [Bench.history, noted, List.filter_cons]

theorem beside_noted (b : Bench) (entry : Entry) : Beside b (noted b entry) where
  grows := by
    rw [history_noted]
    split
    · exact List.suffix_cons _ _
    · exact List.suffix_rfl
  wired h := ⟨h.target, h.sole, h.handles, h.listeners, h.tasks⟩
  thread := rfl
  owner := rfl

/-- What belongs to the history shows. -/
theorem view_noted {entry : Entry} (h : entry.isHistoric = true) :
    (noted b entry).view = b.view.note entry := by
  have hh := history_noted b entry
  rw [if_pos h] at hh
  simp only [Bench.view, View.note, hh]
  rfl

/-- What does not belong to the history does not show. -/
theorem view_noted_of_not {entry : Entry} (h : entry.isHistoric = false) :
    (noted b entry).view = b.view := by
  have hh := history_noted b entry
  rw [h] at hh
  simp only [Bench.view, hh]
  rfl

/-- A turn is seen. -/
theorem ends_turn {t : Turn} (h : (Entry.turned t).isHistoric = true) :
    Ends (Bench.turn t) b () (b.view.turn t) :=
  ⟨noted b (.turned t), rfl, view_noted h, beside_noted b _⟩

/-- Anything else is not, unless it is a fatal record or a call that matters. -/
theorem ends_note {entry : Entry} (h : entry.isHistoric = false) :
    Ends (Bench.note entry) b () b.view :=
  ⟨noted b entry, rfl, view_noted_of_not h, beside_noted b _⟩

/-- All of the fusion is in the view. -/
theorem ends_modifyFusion (g : Fusion → Fusion) :
    Ends (Bench.modifyFusion g) b () (b.view.change g) :=
  ⟨_, rfl, rfl, ⟨List.suffix_rfl, fun h => ⟨h.target, h.sole, h.handles, h.listeners, h.tasks⟩,
    rfl, rfl⟩⟩

/-- A change of the probe shows as far as it is seen. -/
theorem ends_modifyProbe {g : Probe → Probe} (w : View → View)
    (h : ∀ b : Bench, ({ b with probe := g b.probe } : Bench).view = w b.view) :
    Ends (Bench.modifyProbe g) b () (w b.view) :=
  ⟨_, rfl, h b, ⟨List.suffix_rfl, fun h => ⟨h.target, h.sole, h.handles, h.listeners, h.tasks⟩,
    rfl, rfl⟩⟩

/-- A change of the clock shows. It puts off no task from outside. -/
theorem ends_modifyClock {g : Clock → Clock}
    (h : Wired b → ∀ t ∈ (g b.clock).pending, t.task.isOwn = true) :
    Ends (Bench.modifyClock g) b () { b.view with clock := g b.clock } :=
  ⟨_, rfl, rfl, ⟨List.suffix_rfl, fun w => ⟨w.target, w.sole, w.handles, w.listeners, h w⟩,
    rfl, rfl⟩⟩

/-- Log records do not show, except those that nothing can go on after. -/
theorem ends_log {severity : Severity} (h : severity ≠ .fatal) (origin message : String)
    (metadata : List (String × Tree)) :
    Ends (Bench.log severity origin message metadata) b () b.view := by
  refine ⟨_, exec_log .., ?_⟩
  split
  · refine ⟨view_noted_of_not ?_, beside_noted b _⟩
    cases severity <;> first | rfl | exact absurd rfl h
  · exact ⟨rfl, .refl b⟩

/-- A report to the error tracker is not seen. -/
theorem ends_report (fault : Fault) (extra : List (String × Tree)) :
    Ends (Bench.report fault extra) b () b.view := by
  refine ⟨_, exec_report .., ?_⟩
  split
  · exact ⟨view_noted_of_not rfl, beside_noted b _⟩
  · exact ⟨rfl, .refl b⟩

theorem ends_logAbout (message : String) : Ends (Fusion.logAbout message) b () b.view :=
  .read (exec_getFusion b) (ends_log (by decide) _ _ _)

/-- On the owner's thread nothing is refused. -/
theorem ends_assertOwner (h : OnThread b) : Ends Bench.assertOwner b () b.view :=
  ⟨b, exec_assertOwner h, rfl, .refl b⟩

/-- **An action is refused** on a view, since another thread calls: it fails, and only
a note of that is added. -/
def Refused (act : Act α) (b : Bench) (v : View) : Prop :=
  ∃ fault entry b', exec act b = (.error fault, b') ∧ entry.isFatal = true
    ∧ b'.view = v.note entry ∧ Beside b b'

namespace Refused

/-- What is refused at the start is refused altogether. -/
theorem bind {x : Act α} {v : View} (h : Refused x b v) (f : α → Act β) :
    Refused (x >>= f) b v := by
  obtain ⟨fault, entry, b', e, he, hv, s⟩ := h
  exact ⟨fault, entry, b', exec_bind_of_error e, he, hv, s⟩

/-- What is refused after a stretch is refused. -/
theorem after {x : Act α} {f : α → Act β} {a : α} {v w : View} (hx : Ends x b a v)
    (hf : ∀ b', b'.view = v → Beside b b' → Refused (f a) b' w) : Refused (x >>= f) b w := by
  obtain ⟨b₁, e₁, v₁, s₁⟩ := hx
  obtain ⟨fault, entry, b₂, e₂, he, v₂, s₂⟩ := hf b₁ v₁ s₁
  exact ⟨fault, entry, b₂, (exec_bind_of_ok e₁).trans e₂, he, v₂, s₁.trans s₂⟩

/-- Reading something first makes no difference to that. -/
theorem read {x : Act α} {f : α → Act β} {a : α} {w : View} (hx : exec x b = (.ok a, b))
    (hf : Refused (f a) b w) : Refused (x >>= f) b w := by
  obtain ⟨fault, entry, b', e, h⟩ := hf
  exact ⟨fault, entry, b', (exec_bind_of_ok hx).trans e, h⟩

theorem congr {act : Act α} {v w : View} (h : Refused act b v) (e : v = w) :
    Refused act b w := e ▸ h

end Refused

/-- **A call from another thread is refused**, which is seen by its fatal record. -/
theorem refused_assertOwner (h : ¬ OnThread b) : Refused Bench.assertOwner b b.view := by
  obtain ⟨owner, e⟩ := exec_assertOwner_of_not h
  obtain ⟨b', e', hv, s⟩ :=
    ends_report (b := noted b (refusal owner b.thread)) (.offThread owner b.thread) []
  rw [e'] at e
  exact ⟨_, refusal owner b.thread, b', e, rfl, hv.trans (view_noted rfl),
    (beside_noted b _).trans s⟩

/-! ### Sensors -/

/-- A sensor changes in a way that nobody sees: it stays as much there and as much
switched off as it was, and only the fusion may come to listen. -/
structure Unseen (role : Role) (g : Sensor → Sensor) (s : Sensor) : Prop where
  /-- It stays as much there as it was. -/
  available : (g s).available = s.available
  /-- Only the fusion comes to listen. -/
  listeners : ∀ l ∈ (g s).listeners, l ∈ s.listeners ∨ l = .fusion role
  /-- Where no sensor is planned, none comes to be. -/
  unplanned : s = .unplanned → g s = .unplanned

/-- Nobody else comes to listen, and no sensor comes or goes. -/
theorem beside_modifySensor {role : Role} {g : Sensor → Sensor}
    (h : Unseen role g (b.sensors.get role)) :
    Beside b { b with sensors := b.sensors.modify role g } where
  grows := List.suffix_rfl
  wired w := by
    refine ⟨w.target, ?_, w.handles, fun other l hl => ?_, w.tasks⟩
    · rcases role with _ | _ | _
      · exact w.sole
      · exact w.sole
      · exact h.unplanned w.sole
    · by_cases e : other = role
      · subst e
        rw [Sensors.get_modify_self] at hl
        rcases h.listeners l hl with hl | hl
        · exact w.listeners other l hl
        · exact hl
      · rw [Sensors.get_modify_of_ne _ _ e] at hl
        exact w.listeners other l hl
  thread := rfl
  owner := rfl

/-- Of a sensor that changes unseen, only whether the secondary is switched off
shows. -/
theorem view_modifySensor {role : Role} {g : Sensor → Sensor}
    (h : Unseen role g (b.sensors.get role)) :
    ({ b with sensors := b.sensors.modify role g } : Bench).view
      = { b.view with
          secondaryRests :=
            if role = .secondary then (g b.sensors.secondary).rests?
            else b.sensors.secondary.rests? } := by
  have ha := h.available
  cases role <;> simp_all [Bench.view, Bench.history, Sensors.modify, Sensors.get]

/-- A sensor may change in what is not seen of it. -/
theorem ends_modifySensor {role : Role} {g : Sensor → Sensor}
    (h : Unseen role g (b.sensors.get role))
    (hr : (g (b.sensors.get role)).rests? = (b.sensors.get role).rests?) :
    Ends (Bench.modifySensor role g) b () b.view := by
  refine ⟨_, rfl, ?_, beside_modifySensor h⟩
  rw [view_modifySensor h]
  cases role <;> simp_all [Bench.view, Sensors.get]

/-- The view of a bench whose sensor at a place has been switched off. -/
theorem view_restAt {role : Role} {g : Sensor → Sensor} (h : Unseen role g (b.sensors.get role))
    (hr : (g (b.sensors.get role)).rests? = (b.sensors.get role).rests?.map fun _ => true) :
    ({ b with sensors := b.sensors.modify role g } : Bench).view = b.view.restAt role := by
  rw [view_modifySensor h]
  cases role <;> simp_all [Bench.view, View.restAt, View.rest, Sensors.get]

/-- The view of a bench whose sensor at a place has been switched on. -/
theorem view_wakeAt {role : Role} {g : Sensor → Sensor} (h : Unseen role g (b.sensors.get role))
    (hr : (g (b.sensors.get role)).rests? = (b.sensors.get role).rests?.map fun _ => false) :
    ({ b with sensors := b.sensors.modify role g } : Bench).view = b.view.wakeAt role := by
  rw [view_modifySensor h]
  cases role <;> simp_all [Bench.view, View.wakeAt, View.wake, Sensors.get]

/-- A stand-in may change in all but whether it is there, whether it rests and who listens. -/
theorem unseen_mapStandIn {role : Role} {f : StandIn → StandIn}
    (ha : ∀ s, (f s).available = s.available)
    (hl : ∀ s, ∀ l ∈ (f s).listeners, l ∈ s.listeners ∨ l = .fusion role) (s : Sensor) :
    Unseen role (·.mapStandIn f) s where
  available := by cases s <;> simp [Sensor.mapStandIn, Sensor.available, ha]
  listeners l h := by
    cases s with
    | standIn s => exact hl s l h
    | hysteresis _ | absent | unplanned => exact .inl h
  unplanned e := by rw [e]; rfl

/-- So may a hysteresis sensor. -/
theorem unseen_mapHysteresis {role : Role} {f : Hysteresis → Hysteresis}
    (ha : ∀ h, (f h).available = h.available)
    (hl : ∀ h, ∀ l ∈ (f h).listeners, l ∈ h.listeners ∨ l = .fusion role) (s : Sensor) :
    Unseen role (·.mapHysteresis f) s where
  available := by cases s <;> simp [Sensor.mapHysteresis, Sensor.available, ha]
  listeners l h := by
    cases s with
    | hysteresis s => exact hl s l h
    | standIn _ | absent | unplanned => exact .inl h
  unplanned e := by rw [e]; rfl

/-- A stand-in changes unseen. -/
theorem ends_modifyStandIn {role : Role} {f : StandIn → StandIn}
    (ha : ∀ s, (f s).available = s.available)
    (hl : ∀ s, ∀ l ∈ (f s).listeners, l ∈ s.listeners ∨ l = .fusion role)
    (hp : ∀ s, (f s).paused = s.paused) : Ends (StandIn.modify role f) b () b.view :=
  ends_modifySensor (unseen_mapStandIn ha hl _) (by
    cases b.sensors.get role <;> simp [Sensor.mapStandIn, Sensor.rests?, hp])

/-- A hysteresis sensor changes unseen. -/
theorem ends_modifyHysteresis {role : Role} {f : Hysteresis → Hysteresis}
    (ha : ∀ h, (f h).available = h.available)
    (hl : ∀ h, ∀ l ∈ (f h).listeners, l ∈ h.listeners ∨ l = .fusion role)
    (hp : ∀ h, (f h).paused = h.paused) : Ends (Hysteresis.modify role f) b () b.view :=
  ends_modifySensor (unseen_mapHysteresis ha hl _) (by
    cases b.sensors.get role <;> simp [Sensor.mapHysteresis, Sensor.rests?, hp])

/-- Sources are not seen. -/
theorem ends_modifySource (role : Role) (f : Source → Source) :
    Ends (Hysteresis.modifySource role f) b () b.view :=
  ends_modifyHysteresis (fun h => by simp [Hysteresis.available]) (fun _ _ => .inl) fun _ => rfl

theorem exec_hysteresisGet (role : Role) (b : Bench) :
    exec (Hysteresis.get role) b = (.ok (b.sensors.get role).asHysteresis, b) := rfl

theorem exec_standInGet (role : Role) (b : Bench) :
    exec (StandIn.get role) b = (.ok (b.sensors.get role).asStandIn, b) := rfl

/-- The sensor at a place may be called: it is not confined, or the owner's thread
calls. -/
def Open (role : Role) (b : Bench) : Prop :=
  exec (Hysteresis.assertConfined role) b = (.ok (), b)

/-- On the owner's thread every sensor can be called. -/
theorem open_of_onThread (h : OnThread b) (role : Role) : Open role b := by
  rw [Open, Hysteresis.assertConfined, exec_bind_of_ok (exec_hysteresisGet role b),
    Bench.assertOwnerIf]
  split
  · exact exec_assertOwner h
  · rfl

/-- A sensor that may not be called refuses the call. -/
theorem refused_assertConfined {role : Role} (h : ¬ Open role b) :
    Refused (Hysteresis.assertConfined role) b b.view := by
  rw [Open, Hysteresis.assertConfined, exec_bind_of_ok (exec_hysteresisGet role b)] at h
  refine .read (exec_hysteresisGet role b) ?_
  rw [Bench.assertOwnerIf] at h ⊢
  split at h
  · rename_i confined
    rw [if_pos confined]
    exact refused_assertOwner fun ht => h (exec_assertOwner ht)
  · exact absurd rfl h

theorem ends_hysteresisLog (role : Role) {severity : Severity} (h : severity ≠ .fatal)
    (message : String) (metadata : List (String × Tree)) :
    Ends (Hysteresis.logAbout role severity message metadata) b () b.view :=
  .read (exec_hysteresisGet role b) (ends_log h _ _ _)

/-- Subscriptions are not seen. -/
theorem ends_stop (role : Role) (n : Nat) : Ends (Hysteresis.stop role n) b () b.view :=
  (ends_note rfl).bind fun _ hv _ => hv ▸ ends_modifySource role _

/-- It makes no difference whether there is one. -/
theorem ends_dropSubscription (role : Role) :
    Ends (Hysteresis.dropSubscription role) b () b.view := by
  refine .read (exec_hysteresisGet role b) ?_
  refine .bind (ends_modifyHysteresis ?_ ?_ ?_) fun b₁ hv _ => ?_
  · exact fun _ => rfl
  · exact fun _ _ => .inl
  · exact fun _ => rfl
  rw [← hv]
  cases (b.sensors.get role).asHysteresis.subscription with
  | none => exact .pure ()
  | some n => exact ends_stop role n

/-- A hysteresis sensor that should not sample stops, if it does, and calls
nobody. -/
theorem ends_adjust (call : Reactor) {role : Role}
    (h : (b.sensors.get role).asHysteresis.wantsSamples = false) :
    Ends (Hysteresis.adjust call role) b () b.view := by
  refine .read (exec_hysteresisGet role b) ?_
  simp only [h, Bool.false_and, Bool.not_false, Bool.true_and, Bool.false_eq_true, if_false]
  split
  · refine (ends_hysteresisLog role (by decide) _ _).bind fun b₁ hv _ => ?_
    refine (ends_note rfl).bind fun b₂ hv₂ _ => ?_
    refine .bind (ends_modifyHysteresis ?_ ?_ ?_) fun b₃ hv₃ _ => ?_
    · exact fun _ => rfl
    · exact fun _ _ => .inl
    · exact fun _ => rfl
    rw [← hv, ← hv₂, ← hv₃]
    exact ends_dropSubscription role
  · exact .pure ()

/-- Where a sensor cannot be switched off, nothing shows of an attempt. -/
theorem view_restAt_of_none {role : Role} (h : (b.sensors.get role).rests? = none) :
    b.view.restAt role = b.view := by
  cases role <;> simp_all [Bench.view, View.restAt, View.rest, Sensors.get]

/-- A sensor that cannot rest cannot be woken either. -/
theorem view_wakeAt_of_none {role : Role} (h : (b.sensors.get role).rests? = none) :
    b.view.wakeAt role = b.view := by
  cases role <;> simp_all [Bench.view, View.wakeAt, View.wake, Sensors.get]

/-- A sensor is put to rest, if it can be. -/
theorem ends_rest {role : Role} {g : Sensor → Sensor} (h : Unseen role g (b.sensors.get role))
    (hr : (g (b.sensors.get role)).rests? = (b.sensors.get role).rests?.map fun _ => true) :
    Ends (Bench.modifySensor role g) b () (b.view.restAt role) :=
  ⟨_, rfl, view_restAt h hr, beside_modifySensor h⟩

/-- A sensor is woken, if it can be. -/
theorem ends_wake {role : Role} {g : Sensor → Sensor} (h : Unseen role g (b.sensors.get role))
    (hr : (g (b.sensors.get role)).rests? = (b.sensors.get role).rests?.map fun _ => false) :
    Ends (Bench.modifySensor role g) b () (b.view.wakeAt role) :=
  ⟨_, rfl, view_wakeAt h hr, beside_modifySensor h⟩

/-- **Switching a sensor off** calls nobody. -/
theorem ends_sensorPause (call : Reactor) {role : Role} (h : Open role b) :
    Ends (Sensor.pause call role) b () (b.view.restAt role) := by
  refine .read (exec_getSensor role b) ?_
  cases hs : b.sensors.get role with
  | standIn s =>
    refine .step (exec_note _ b) (beside_noted b _) ?_
    -- The command is noted first, which does not show; the view changes with the sensor.
    have same : (noted b (.commanded role .pause)).view = b.view := view_noted_of_not rfl
    rw [← same]
    refine ends_rest (unseen_mapStandIn ?_ ?_ _) ?_
    · exact fun _ => rfl
    · exact fun _ _ => .inl
    · simp [noted, hs, Sensor.mapStandIn, Sensor.rests?]
  | hysteresis s =>
    refine .read h ?_
    have unseen : Unseen role (·.mapHysteresis fun h => { h with paused := true })
        (b.sensors.get role) := by
      refine unseen_mapHysteresis ?_ ?_ _
      · exact fun _ => rfl
      · exact fun _ _ => .inl
    refine .step (exec_modifySensor role _ b) (beside_modifySensor unseen) ?_
    rw [← view_restAt unseen (by simp [hs, Sensor.mapHysteresis, Sensor.rests?])]
    refine ends_adjust call ?_
    simp [hs, Sensor.mapHysteresis, Sensor.asHysteresis, Hysteresis.wantsSamples]
  | absent =>
    rw [view_restAt_of_none (by rw [hs]; rfl)]
    exact .pure ()
  | unplanned =>
    rw [view_restAt_of_none (by rw [hs]; rfl)]
    exact .pure ()

/-- A sensor that may not be called refuses to be switched off. -/
theorem refused_sensorPause (call : Reactor) {role : Role} (h : ¬ Open role b) :
    Refused (Sensor.pause call role) b b.view := by
  refine .read (exec_getSensor role b) ?_
  cases hs : b.sensors.get role with
  | hysteresis s => exact (refused_assertConfined h).bind _
  | standIn s | absent | unplanned =>
    refine absurd ?_ h
    rw [Open, Hysteresis.assertConfined, exec_bind_of_ok (exec_hysteresisGet role b), hs]
    rfl

/-- The secondary can be readied, unless it has to be switched off and refuses that. -/
theorem ready_cases (call : Reactor) :
    Ends (Fusion.ready call) b () b.view.ready ∨ Refused (Fusion.ready call) b b.view := by
  have view : b.view.ready = (if b.fusion.safe then b.view else b.view.rest).turn .readied := by
    rw [View.ready, show b.view.fusion = b.fusion from rfl]
    split <;> rfl
  cases safe : b.fusion.safe with
  | true =>
    rw [safe, if_pos rfl] at view
    refine .inl (.read (exec_getFusion b) ?_)
    rw [safe, view]
    exact ends_turn rfl
  | false =>
    rw [safe, if_neg Bool.false_ne_true] at view
    by_cases opens : Open .secondary b
    · refine .inl (.read (exec_getFusion b) ?_)
      rw [safe, view]
      exact (ends_sensorPause call opens).bind fun b₁ hv₁ _ => (ends_turn rfl).congr (by rw [hv₁]; rfl)
    · refine .inr (.read (exec_getFusion b) ?_)
      rw [safe]
      exact (refused_sensorPause call opens).bind _

/-! ### Timers -/

/-- A timer of the fusion or of the probe is seen; those of scripts are not. -/
theorem ends_schedule {task : Task} (h : task.isOwn = true) (delay : Number) (keepsAlive : Bool) :
    Ends (Timer.schedule delay task keepsAlive) b (b.clock.lastId + 1)
      { b.view with clock := b.clock.set delay task } := by
  refine .step (exec_modifyClock _ b) ⟨List.suffix_rfl, fun w => ?_, rfl, rfl⟩ ?_
  · refine ⟨w.target, w.sole, w.handles, w.listeners, fun t ht => ?_⟩
    rcases List.mem_append.mp ht with ht | ht
    · exact w.tasks t ht
    · rw [List.mem_singleton.mp ht]
      exact h
  · refine .read (exec_get _) ((ends_note rfl).bind fun b₁ hv _ => ?_)
    exact ⟨b₁, rfl, hv, .refl b₁⟩

/-- A timer is called off, whether it is still armed or not. -/
theorem ends_cancel (id : Nat) :
    Ends (Timer.cancel id) b () { b.view with clock := b.clock.callOff (some id) } := by
  refine .read (exec_get b) ?_
  rw [Clock.callOff]
  split
  · refine (ends_modifyClock fun w t ht => ?_).bind fun b₁ hv _ => ?_
    · exact w.tasks t (Clock.mem_pending_remove.mp ht).1
    refine (ends_note rfl).bind fun b₂ hv₂ _ => ?_
    have e : b₂.clock = b.clock.remove id := congrArg View.clock (hv₂.trans hv)
    exact (ends_modifyClock fun w => w.tasks).congr (by rw [hv₂, hv, e])
  · exact .pure ()

/-- A timer that is pending goes off. -/
theorem ends_strike (t : Timer) : Ends (Timer.strike t) b () (b.view.strike t) := by
  refine (ends_modifyClock fun w u hu => ?_).bind fun b₁ hv _ => ?_
  · exact w.tasks u (Clock.mem_pending_remove.mp hu).1
  refine (ends_note rfl).bind fun b₂ hv₂ _ => ?_
  have e : b₂.clock = (b.clock.remove t.id).reach t.due := congrArg View.clock (hv₂.trans hv)
  exact (ends_modifyClock fun w => w.tasks).congr (by rw [hv₂, hv, e]; rfl)

/-- No recheck is waited for any longer. -/
theorem ends_cancelRecheck : Ends Fusion.cancelRecheck b () b.view.uncheck := by
  refine .read (exec_getFusion b) ?_
  cases hp : b.fusion.pendingRecheck with
  | none => exact (Ends.pure ()).congr (View.uncheck_of_none hp).symm
  | some id =>
    rw [View.uncheck_of_some (v := b.view) hp]
    exact (ends_cancel id).bind fun b₁ hv _ => (ends_modifyFusion _).congr (by rw [hv]; rfl)

/-- A recheck is waited for, and the one before it is called off. -/
theorem ends_scheduleRecheck : Ends Fusion.scheduleRecheck b () b.view.recheckLater := by
  refine ends_cancelRecheck.bind fun b₁ hv _ => ?_
  refine .read (exec_getFusion b₁) ((ends_schedule rfl _ _).bind fun b₂ hv₂ _ => ?_)
  have clock : b₁.clock = b.view.uncheck.clock := congrArg View.clock hv
  have fusion : b₁.fusion = b.view.uncheck.fusion := congrArg View.fusion hv
  exact (ends_modifyFusion _).congr (by rw [hv₂, hv, clock, fusion]; rfl)

/-- The probe has no timer any longer. -/
theorem ends_stopTimer : Ends Probe.stopTimer b () b.view.stopTimer := by
  refine .read (exec_getProbe b) ?_
  cases ht : b.probe.timer with
  | none => exact (Ends.pure ()).congr (View.stopTimer_of_none ht).symm
  | some id =>
    rw [View.stopTimer_of_some (v := b.view) ht]
    exact (ends_cancel id).bind fun b₁ hv _ =>
      (ends_modifyProbe ({ · with timer := none }) fun _ => rfl).congr (by rw [hv]; rfl)

/-! ### Stopping -/

/-- **A fusion stops working.** Nobody is called by that. -/
theorem ends_tearDown (call : Reactor) (h : OnThread b) :
    Ends (Fusion.tearDown call) b () b.view.tearDown := by
  refine .read (exec_assertOwner h) (.read (exec_getFusion b) ?_)
  have active : b.view.fusion.active = b.fusion.active := rfl
  rw [View.tearDown, active]
  split
  · refine (ends_logAbout _).bind fun b₁ hv₁ s₁ => ?_
    refine (ends_sensorPause call (open_of_onThread (s₁.onThread h) .primary)).bind fun b₂ hv₂ s₂ => ?_
    have h₂ : OnThread b₂ := (s₁.trans s₂).onThread h
    refine (ends_sensorPause call (open_of_onThread h₂ .secondary)).bind fun b₃ hv₃ _ => ?_
    refine ends_cancelRecheck.bind fun b₄ hv₄ _ => ?_
    refine (ends_modifyFusion _).bind fun b₅ hv₅ _ => ?_
    exact (ends_turn rfl).congr (by rw [hv₅, hv₄, hv₃, hv₂, hv₁]; rfl)
  · exact .pure ()

/-- **A fusion is paused.** -/
theorem ends_fusionPause (call : Reactor) (h : OnThread b) :
    Ends (Fusion.pause call) b () b.view.pause := by
  refine .read (exec_assertOwner h) ?_
  refine (ends_turn rfl).bind fun b₁ hv₁ s₁ => ?_
  refine (ends_modifyFusion _).bind fun b₂ hv₂ s₂ => ?_
  exact (ends_tearDown call (s₂.onThread (s₁.onThread h))).congr (by rw [hv₂, hv₁]; rfl)

/-- Whoever leaves need not have been a listener. -/
theorem ends_drop (call : Reactor) (h : OnThread b) (l : Listener) {u : View}
    (hv : b.view = if l ∈ u.fusion.listeners then u.turn (.left l) else u) :
    Ends (Fusion.leave.drop call l) b () (u.leave l) := by
  refine (ends_modifyFusion _).bind fun b₁ hv₁ s₁ => .read (exec_getFusion b₁) ?_
  have e : b₁.view = u.drop l := by rw [hv₁, hv]; rfl
  rw [View.leave, ← e]
  have listeners : b₁.view.fusion.listeners = b₁.fusion.listeners := rfl
  rw [listeners]
  split
  · exact ends_tearDown call (s₁.onThread h)
  · exact .pure ()

/-- **Somebody leaves a fusion.** -/
theorem ends_fusionLeave (call : Reactor) (h : OnThread b) (l : Listener) :
    Ends (Fusion.leave call l) b () (b.view.leave l) := by
  refine .read (exec_assertOwner h) (.read (exec_getFusion b) ?_)
  split
  · rename_i there
    exact (ends_turn rfl).bind fun b₁ hv₁ s₁ =>
      ends_drop call (s₁.onThread h) l (hv₁.trans (if_pos there).symm)
  · rename_i there
    exact ends_drop call h l (if_neg there).symm

/-- The bench is aimed at its fusion. -/
theorem ends_targetLeave (call : Reactor) (w : Wired b) (h : OnThread b) (l : Listener) :
    Ends (Target.leave call l) b () (b.view.leave l) := by
  refine .read (exec_get b) ?_
  rw [w.target]
  exact ends_fusionLeave call h l

/-- From another thread nobody leaves. -/
theorem refused_targetLeave (call : Reactor) (w : Wired b) (h : ¬ OnThread b) (l : Listener) :
    Refused (Target.leave call l) b b.view := by
  refine .read (exec_get b) ?_
  rw [w.target]
  exact (refused_assertOwner h).bind _

end Proximity
