import Proximity.Proofs.Law

/-!
# Everything is lawful

Whatever can be done on a bench respects every law (`Proximity.Law`). The proof
follows the program: sensors first, which need the relation to be steady and no more;
then timers, fusion and probe, which need a law; then single steps, and by induction
on the depth of the calls all reactions. What follows for whole sessions is
`Proximity.Law.holds`.
-/

namespace Proximity

open Act Session

variable {α β : Type} {R : View → View → Prop} {b : Bench} {u : View} {call : Reactor}

/-! ### Stand-ins -/

namespace Steady

/-- That a sensor tells the fusion something cannot be seen in its view; what comes of it can. -/
theorem keeps_tell (S : Steady R) (C : Reacts R call) (role : Role) (r : Reading) :
    Keeps R (Bench.tell call (.fusion role) r) :=
  S.bind (S.unseen fun _ => ⟨(), ends_note rfl⟩) fun _ => C _

/-- Only the fusion is told what a sensor reports. -/
theorem keeps_tellAll (S : Steady R) (C : Reacts R call) {role : Role} {l : List Listener}
    (h : ∀ x ∈ l, x = .fusion role) (r : Reading) : Keeps R (Bench.tellAll call l r) :=
  S.forM l fun x hx => h x hx ▸ S.keeps_tell C role r

/-- Nobody but the fusion listens to a stand-in of a wired bench. -/
theorem standIn_listeners (w : Wired b) (role : Role) :
    ∀ l ∈ (b.sensors.get role).asStandIn.listeners, l = .fusion role := by
  have h := w.listeners role
  cases hs : b.sensors.get role with
  | standIn s => rwa [hs] at h
  | hysteresis _ | absent | unplanned => exact fun l hl => absurd hl List.not_mem_nil

/-- Nor does anybody else listen to a hysteresis sensor. -/
theorem hysteresis_listeners (w : Wired b) (role : Role) :
    ∀ l ∈ (b.sensors.get role).asHysteresis.listeners, l = .fusion role := by
  have h := w.listeners role
  cases hs : b.sensors.get role with
  | hysteresis s => rwa [hs] at h
  | standIn _ | absent | unplanned => exact fun l hl => absurd hl List.not_mem_nil

/-- A stand-in numbers its reports unseen. -/
theorem keeps_standInModify (S : Steady R) {role : Role} {f : StandIn → StandIn}
    (ha : ∀ s, (f s).available = s.available)
    (hl : ∀ s, ∀ l ∈ (f s).listeners, l ∈ s.listeners ∨ l = .fusion role)
    (hp : ∀ s, (f s).paused = s.paused) : Keeps R (StandIn.modify role f) :=
  S.unseen fun _ => ⟨(), ends_modifyStandIn ha hl hp⟩

theorem keeps_standInGet (S : Steady R) (role : Role) : Keeps R (StandIn.get role) :=
  S.unseen fun b => ⟨_, b, exec_standInGet role b, rfl, .refl b⟩

/-- A stand-in reports, at its own time or at another one. -/
theorem keeps_emit (S : Steady R) (C : Reacts R call) (role : Role) (near : Bool)
    (stamp : Option Int) : Keeps R (StandIn.emit call role near stamp) := by
  cases stamp with
  | some stamp =>
    exact fun b w => .read (exec_standInGet role b)
      (S.keeps_tellAll C (standIn_listeners w role) _ b w)
  | none =>
    refine S.bind (S.keeps_standInModify ?_ ?_ ?_) fun _ b w => ?_
    · exact fun _ => rfl
    · exact fun _ _ => .inl
    · exact fun _ => rfl
    · exact .read (exec_standInGet role b) (S.keeps_tellAll C (standIn_listeners w role) _ b w)

/-- A stand-in that is switched on may have something to report. -/
theorem keeps_emitNext (S : Steady R) (C : Reacts R call) (role : Role)
    (next : Option (Option Bool)) : Keeps R (StandIn.emitNext call role next) := by
  rcases next with _ | _ | near
  · exact S.pure ()
  · exact S.pure ()
  · exact S.keeps_emit C role near none

/-! ### Hysteresis sensors -/

/-- Bands and subscriptions are not in the view. -/
theorem keeps_hysteresisModify (S : Steady R) {role : Role} {f : Hysteresis → Hysteresis}
    (ha : ∀ h, (f h).available = h.available)
    (hl : ∀ h, ∀ l ∈ (f h).listeners, l ∈ h.listeners ∨ l = .fusion role)
    (hp : ∀ h, (f h).paused = h.paused) : Keeps R (Hysteresis.modify role f) :=
  S.unseen fun _ => ⟨(), ends_modifyHysteresis ha hl hp⟩

theorem keeps_hysteresisGet (S : Steady R) (role : Role) : Keeps R (Hysteresis.get role) :=
  S.unseen fun b => ⟨_, b, exec_hysteresisGet role b, rfl, .refl b⟩

/-- A sensor that is confined refuses a call from another thread, and then nothing else happens. -/
theorem keeps_assertConfined (S : Steady R) (role : Role) :
    Keeps R (Hysteresis.assertConfined role) := by
  refine S.bind (S.keeps_hysteresisGet role) fun h => ?_
  rw [Bench.assertOwnerIf]
  split
  · exact S.keeps_assertOwner
  · exact S.pure ()

theorem keeps_resolveStamp (S : Steady R) (stamp : Stamp) : Keeps R (Bench.resolveStamp stamp) := by
  refine S.bind S.get fun b => ?_
  split
  · exact S.pure _
  · exact S.throw _

/-- **A sample is taken**: nothing of it is in the view but what the fusion is told. -/
theorem keeps_take (S : Steady R) (C : Reacts R call) (role : Role) (sample : Sample) :
    Keeps R (Hysteresis.take call role sample) := by
  refine S.bind (S.keeps_assertConfined role) fun _ b w => ?_
  refine .after (ends_turn rfl) w fun b₁ hv₁ _ w₁ => .read (exec_hysteresisGet role b₁) ?_
  have sampled : R b.view b₁.view := hv₁ ▸ S.move (.sample _ role sample)
  split
  · split
    · exact .pure w₁ sampled ()
    · split
      · refine S.leads (S.bind (S.keeps_hysteresisModify ?_ ?_ ?_) fun _ => ?_) w₁ sampled
        · exact fun _ => rfl
        · exact fun _ _ => .inl
        · exact fun _ => rfl
        · refine S.bind (S.keeps_resolveStamp _) fun stamp => ?_
          exact S.bind (S.unseen fun _ => ⟨(), ends_note rfl⟩) fun _ =>
            S.keeps_tellAll C (hysteresis_listeners w₁ role) _
      · exact .pure w₁ sampled ()
  · exact .pure w₁ sampled ()

/-- A source may have samples at once. -/
theorem keeps_subscribe (S : Steady R) (C : Reacts R call) (role : Role) (delay : Number) :
    Keeps R (Hysteresis.subscribe call role delay) := by
  refine S.bind (S.unseen fun _ => ⟨(), ends_modifySource role _⟩) fun _ => ?_
  refine S.bind (S.keeps_hysteresisGet role) fun h => ?_
  refine S.bind (S.unseen fun _ => ⟨(), ends_note rfl⟩) fun _ => ?_
  refine S.bind (S.keeps_hysteresisGet role) fun h' => ?_
  refine S.bind (S.unseen fun _ => ⟨(), ends_modifySource role _⟩) fun _ => ?_
  exact S.bind (S.forM _ fun sample _ => S.keeps_take C role sample) fun _ => S.pure _

/-- A subscription that came too late is stopped. -/
theorem keeps_beginSampling (S : Steady R) (C : Reacts R call) (role : Role) :
    Keeps R (Hysteresis.beginSampling call role) := by
  refine S.bind (S.keeps_hysteresisGet role) fun h => ?_
  refine S.bind (S.unseen fun _ => ⟨(), ends_hysteresisLog role (by decide) _ _⟩) fun _ => ?_
  refine S.bind (S.keeps_hysteresisModify ?_ ?_ ?_) fun _ => ?_
  · exact fun _ => rfl
  · exact fun _ _ => .inl
  · exact fun _ => rfl
  refine S.bind (S.keeps_subscribe C role _) fun n => ?_
  refine S.bind (S.keeps_hysteresisGet role) fun h' => ?_
  split
  · refine S.keeps_hysteresisModify ?_ ?_ ?_
    · exact fun _ => rfl
    · exact fun _ _ => .inl
    · exact fun _ => rfl
  · exact S.unseen fun _ => ⟨(), ends_stop role n⟩

/-- A hysteresis sensor samples just while it is wanted to. -/
theorem keeps_adjust (S : Steady R) (C : Reacts R call) (role : Role) :
    Keeps R (Hysteresis.adjust call role) := by
  intro b w
  -- A sensor calls out only when it subscribes to its source, which may have samples at once.
  by_cases wants : (b.sensors.get role).asHysteresis.wantsSamples = true
  · refine .read (exec_hysteresisGet role b) ?_
    rw [wants]
    split
    · exact S.bind (S.unseen fun _ => ⟨(), ends_note rfl⟩)
        (fun _ => S.keeps_beginSampling C role) b w
    · exact S.pure () b w
  · exact .ends (ends_adjust call (by simpa using wants)) w (S.refl _)

/-! ### Calls of sensors -/

/-- Switching a sensor on shows at once; what the sensor then reports respects the
relation. -/
theorem leads_resume (S : Steady R) (C : Reacts R call) (w : Wired b) {role : Role}
    (h : Open role b ∨ R u b.view) (r : R u (b.view.wakeAt role)) :
    Leads R u (Sensor.resume call role) b := by
  rcases resume_cases (b := b) call role with ⟨closed, e⟩ | ⟨rest, e, hrest⟩
  · exact .refused e w fun entry he => S.trans (h.resolve_left closed) (S.move (.refuse _ he))
  · refine .passes e w fun b₁ hv₁ _ w₁ => S.leads ?_ w₁ (hv₁ ▸ r)
    rcases hrest with rfl | rfl | ⟨next, rfl⟩
    · exact S.pure ()
    · exact S.keeps_adjust C role
    · exact S.keeps_emitNext C role next

/-- Joining adds nobody else. -/
theorem mem_addTo {l x : Listener} {listeners : List Listener} (h : x ∈ l.addTo listeners) :
    x ∈ listeners ∨ x = l := by
  rw [Listener.addTo] at h
  split at h
  · exact .inl h
  · exact (List.mem_append.mp h).imp_right List.mem_singleton.mp

/-- The fusion joins a sensor, which may report from inside that call. -/
theorem keeps_join (S : Steady R) (C : Reacts R call) (role : Role) :
    Keeps R (Sensor.join call role (.fusion role)) := by
  intro b w
  refine .read (exec_getSensor role b) ?_
  cases b.sensors.get role with
  | standIn s =>
    refine S.bind (S.unseen fun _ => ⟨(), ends_note rfl⟩) (fun _ => ?_) b w
    refine S.bind (S.keeps_standInGet role) fun s => ?_
    refine S.bind (S.keeps_standInModify ?_ ?_ ?_) fun _ => S.keeps_emitNext C role _
    · exact fun _ => rfl
    · exact fun _ _ => mem_addTo
    · exact fun _ => rfl
  | hysteresis s =>
    refine S.bind (S.keeps_assertConfined role) (fun _ => ?_) b w
    refine S.bind (S.keeps_hysteresisGet role) fun h => ?_
    split
    · split
      · exact S.bind (S.unseen fun _ => ⟨(), ends_hysteresisLog role (by decide) _ _⟩) fun _ =>
          S.keeps_adjust C role
      · refine S.bind (S.keeps_hysteresisModify ?_ ?_ ?_) fun _ => S.keeps_adjust C role
        · exact fun _ => rfl
        · exact fun h l hl => (List.mem_append.mp hl).imp_right List.mem_singleton.mp
        · exact fun _ => rfl
    · exact S.pure ()
  | absent => exact S.pure () b w
  | unplanned => exact S.pure () b w

/-- Tags are not in the view. -/
theorem keeps_sensorTag (S : Steady R) (role : Role) (text : Option String) :
    Keeps R (Sensor.tagAs role text) := by
  intro b w
  refine .read (exec_getSensor role b) ?_
  cases b.sensors.get role with
  | standIn s => exact S.unseen (fun _ => ⟨(), ends_note rfl⟩) b w
  | hysteresis s =>
    refine S.keeps_hysteresisModify ?_ ?_ ?_ b w
    · exact fun _ => rfl
    · exact fun _ _ => .inl
    · exact fun _ => rfl
  | absent => exact S.pure () b w
  | unplanned => exact S.pure () b w

/-- Nor are delays, but a new one may bring samples. -/
theorem keeps_sensorRetime (S : Steady R) (C : Reacts R call) (role : Role) (delay : Number) :
    Keeps R (Sensor.retime call role delay) := by
  intro b w
  refine .read (exec_getSensor role b) ?_
  cases b.sensors.get role with
  | standIn s => exact S.unseen (fun _ => ⟨(), ends_note rfl⟩) b w
  | hysteresis s =>
    refine S.bind (S.keeps_assertConfined role) (fun _ => ?_) b w
    refine S.bind (S.keeps_hysteresisGet role) fun h => ?_
    split
    · refine S.bind (S.keeps_hysteresisModify ?_ ?_ ?_) fun _ => ?_
      · exact fun _ => rfl
      · exact fun _ _ => .inl
      · exact fun _ => rfl
      refine S.bind (S.keeps_hysteresisGet role) fun h' => ?_
      split
      · exact S.bind (S.unseen fun _ => ⟨(), ends_dropSubscription role⟩) fun _ =>
          S.keeps_beginSampling C role
      · exact S.pure ()
    · exact S.pure ()
  | absent => exact S.pure () b w
  | unplanned => exact S.pure () b w

/-- A stand-in may be told from outside to report. -/
theorem keeps_sensorEmit (S : Steady R) (C : Reacts R call) (role : Role) (near : Bool)
    (stamp : Option Int) : Keeps R (Sensor.emit call role near stamp) := by
  intro b w
  refine .read (exec_getSensor role b) ?_
  cases b.sensors.get role with
  | standIn s => exact S.keeps_emit C role near stamp b w
  | hysteresis s => exact S.throw _ b w
  | absent => exact S.throw _ b w
  | unplanned => exact S.throw _ b w

/-- A source may have a sample that comes late. -/
theorem keeps_deliver (S : Steady R) (C : Reacts R call) (role : Role) (sample : Sample)
    (late : Bool) : Keeps R (Sensor.deliver call role sample late) := by
  intro b w
  refine .read (exec_getSensor role b) ?_
  cases b.sensors.get role with
  | hysteresis s =>
    refine S.bind (S.keeps_hysteresisGet role) (fun h => ?_) b w
    split
    · exact S.pure ()
    · split
      · exact S.keeps_take C role sample
      · exact S.pure ()
  | standIn s => exact S.pure () b w
  | absent => exact S.pure () b w
  | unplanned => exact S.pure () b w

end Steady

/-! ### The fusion -/

namespace Law

variable {depth : Nat}

/-- **The primary reports**: the fusion takes note of it, and then heeds it. -/
theorem keeps_onPrimary (L : Law R) (C : Reacts R (react depth)) (r : Reading) :
    Keeps R (Fusion.onPrimary (react depth) r) := by
  intro b w
  by_cases h : OnThread b
  · rcases onPrimary_cases (react depth) h r with ⟨v, hm, -, e⟩ | ⟨v, hm, -, e⟩ | ⟨v, hm, -, e⟩
    · exact .ends e w (L.move hm)
    · exact .passes e w fun b₁ hv₁ s₁ w₁ =>
        L.leads_resume C w₁ (.inl (open_of_onThread (s₁.onThread h) _))
          (by rw [hv₁]; exact L.move hm)
    · exact .passes e w fun b₁ hv₁ s₁ w₁ => L.accept C w₁ (s₁.onThread h) (hv₁ ▸ hm)
  · exact .refused ((refused_assertOwner h).bind _) w fun entry he => L.move (.refuse _ he)

/-- **The secondary reports.** Nobody is called meanwhile but those who are told the fused reading.
-/
theorem keeps_onSecondary (L : Law R) (C : Reacts R (react depth)) (r : Reading) :
    Keeps R (Fusion.onSecondary (react depth) r) := by
  intro b w
  by_cases h : OnThread b
  · rcases onSecondary_cases (react depth) h r with ⟨v, hm, -, e⟩ | ⟨v, hm, -, e⟩
    · exact .ends e w (L.move hm)
    · exact .passes e w fun b₁ hv₁ s₁ w₁ => L.accept C w₁ (s₁.onThread h) (hv₁ ▸ hm)
  · exact .refused ((refused_assertOwner h).bind _) w fun entry he => L.move (.refuse _ he)

/-- Whoever pauses a fusion makes it stop working. -/
theorem keeps_pause (L : Law R) (call : Reactor) : Keeps R (Fusion.pause call) := by
  intro b w
  by_cases h : OnThread b
  · exact .ends (ends_fusionPause call h) w (L.move (.pause _))
  · exact .refused ((refused_assertOwner h).bind _) w fun entry he => L.move (.refuse _ he)

/-- Whoever resumes a fusion may make it go to work. -/
theorem keeps_resume (L : Law R) (C : Reacts R (react depth)) :
    Keeps R (Fusion.resume (react depth)) := by
  intro b w
  refine L.confined w (L.refl _) fun h => ?_
  refine .after (ends_turn rfl) w fun b₁ hv₁ s₁ w₁ => ?_
  refine .after (ends_modifyFusion _) w₁ fun b₂ hv₂ s₂ w₂ => ?_
  refine L.rise C w₂ ((s₁.trans s₂).onThread h) ?_
  rw [hv₂, hv₁]
  exact .resume b.view

/-- Entering safe mode may bring a reading of the secondary. -/
theorem keeps_setSafe (L : Law R) (C : Reacts R (react depth)) (on : Bool) :
    Keeps R (Fusion.setSafe (react depth) on) := by
  intro b w
  refine L.confined w (L.refl _) fun h => ?_
  refine .after (ends_turn rfl) w fun b₁ hv₁ s₁ w₁ => ?_
  refine .after (ends_modifyFusion _) w₁ fun b₂ hv₂ s₂ w₂ => ?_
  have h₂ : OnThread b₂ := (s₁.trans s₂).onThread h
  have mode : R b.view (b.view.mode on) := L.move (.mode _ on)
  cases on with
  | true =>
    exact L.leads_resume C w₂ (.inl (open_of_onThread h₂ _)) (by rw [hv₂, hv₁]; exact mode)
  | false =>
    exact .ends (ends_sensorPause _ (open_of_onThread h₂ _)) w₂ (by rw [hv₂, hv₁]; exact mode)

/-- Both sensors get the tag of the fusion. -/
theorem keeps_fusionTag (L : Law R) (text : Option String) : Keeps R (Fusion.tagAs text) := by
  refine L.bind (fun b w => .ends (ends_modifyFusion _) w (L.move (.tag _ text))) fun _ => ?_
  exact L.bind (L.keeps_sensorTag .primary _) fun _ => L.keeps_sensorTag .secondary _

theorem keeps_fusionRetime (L : Law R) (C : Reacts R (react depth)) (delay : Number) :
    Keeps R (Fusion.retime (react depth) delay) :=
  L.bind L.keeps_assertOwner fun _ => L.bind (L.keeps_sensorRetime C .primary delay) fun _ =>
    L.keeps_sensorRetime C .secondary delay

/-- A listener from outside joins the fusion, as the bench is aimed at it. -/
theorem keeps_targetJoin (L : Law R) (C : Reacts R (react depth)) (name : String) :
    Keeps R (Target.join (react depth) (.named name)) := by
  intro b w
  by_cases h : OnThread b
  · cases there : b.view.primaryThere with
    | true =>
      exact .passes (passes_join _ w h _ there) w fun b₁ hv₁ s₁ w₁ =>
        L.rise C w₁ (s₁.onThread h) (hv₁ ▸ .join b.view name there)
    | false => exact .ends (ends_join_of_absent _ w h _ there) w (L.refl _)
  · exact .refused (refused_targetJoin _ w h _) w fun entry he => L.move (.refuse _ he)

/-- A listener from outside leaves the fusion. -/
theorem keeps_targetLeave (L : Law R) (call : Reactor) (name : String) :
    Keeps R (Target.leave call (.named name)) := by
  intro b w
  by_cases h : OnThread b
  · exact .ends (ends_targetLeave call w h _) w (L.move (.leave _ name))
  · exact .refused (refused_targetLeave call w h _) w fun entry he => L.move (.refuse _ he)

/-! ### The probe -/

/-- **All who wait are answered**, by a probe that has left the fusion before. -/
theorem keeps_answerAll (L : Law R) (C : Reacts R (react depth)) (near : Option Bool) :
    Keeps R (Probe.answerAll (react depth) near) := by
  intro b w
  by_cases h : OnThread b
  · exact .passes (passes_answerAll _ w h near) w fun b₁ hv₁ _ w₁ =>
      L.answer C w₁ (hv₁ ▸ .reading b.view)
  · exact .refused (refused_answerAll _ w h near) w fun entry he => L.move (.abandon _ near he)

/-- The timer of a check fires. -/
theorem leads_giveUp (L : Law R) (C : Reacts R (react depth)) (w : Wired b) {t : Timer}
    {v : View} (hv : b.view = v.strike t) (ht : t ∈ v.clock.pending) (task : t.task = .giveUp) :
    Leads R v (Probe.giveUp (react depth)) b := by
  refine .after (ends_modifyProbe View.forgetTimer fun _ => rfl) w fun b₁ hv₁ s₁ w₁ => ?_
  refine .read (exec_getProbe b₁) (.after (ends_log (by decide) _ _ _) w₁ fun b₂ hv₂ _ w₂ => ?_)
  have giving : b₂.view = v.giveUp t := by rw [hv₂, hv₁, hv]; rfl
  by_cases h : OnThread b₂
  · refine .passes (passes_answerAll _ w₂ h none) w₂ fun b₃ hv₃ _ w₃ => L.answer C w₃ ?_
    have waiting : b₂.probe.waiting = v.waiting := congrArg View.waiting giving
    rw [waiting, hv₃, giving]
    exact .expiry v ht task rfl
  · exact .refused (refused_answerAll _ w₂ h none) w₂ fun entry he =>
      giving ▸ L.move (.forsake v ht task he)

/-- Somebody asks, having been given a ticket. -/
theorem leads_ask (L : Law R) (C : Reacts R (react depth)) (w : Wired b) {v : View}
    (timeout : Number) {c : Caller} (hv : b.view = v.ask timeout)
    (hc : c.ticket = v.lastTicket + 1) : Leads R v (Probe.ask (react depth) timeout c) b := by
  have there : b.view.primaryThere = v.primaryThere := by rw [hv]; rfl
  have checking : b.view.checking = v.checking := by rw [hv]; rfl
  cases ht : v.primaryThere with
  | false =>
    refine .read (exec_targetIsAvailable w) ?_
    rw [there, ht]
    refine .after (ends_turn rfl) w fun b₁ hv₁ _ w₁ => ?_
    -- Whoever asks in vain is answered like a list of one who waits.
    refine .of_beside (exec_forM_singleton (Probe.answer (react depth) none) c b₁).symm (.refl b₁) ?_
    refine L.answer C w₁ ?_
    rw [hv₁, hv]
    exact .decline v timeout ht hc rfl
  | true =>
    cases hk : v.checking with
    | true =>
      refine .ends (ends_ask_of_checking _ w timeout c (there.trans ht) (checking.trans hk)) w ?_
      rw [hv]
      exact L.move (.enqueue v timeout ht hk hc)
    | false =>
      refine .passes (passes_ask _ w timeout c (there.trans ht) (checking.trans hk)) w
        fun b₁ hv₁ _ w₁ => ?_
      have opened : b₁.view = v.openCheck timeout c := by rw [hv₁, hv]; rfl
      -- The timer is set by now. It stays set if the probe is refused when it wants to join.
      by_cases h : OnThread b₁
      · have there₁ : b₁.view.primaryThere = true := by rw [opened]; exact ht
        refine .passes (passes_join _ w₁ h .probe there₁) w₁ fun b₂ hv₂ s₂ w₂ => ?_
        refine L.rise C w₂ (s₂.onThread h) ?_
        rw [hv₂, opened]
        exact .begin v timeout ht hk hc
      · exact .refused (refused_targetJoin _ w₁ h .probe) w₁ fun entry he =>
          opened ▸ L.move (.strand v timeout ht hk hc he)

theorem keeps_getProbe (S : Steady R) : Keeps R Bench.getProbe :=
  S.unseen fun b => ⟨_, b, exec_getProbe b, rfl, .refl b⟩

/-- Promises are not in the view. -/
theorem keeps_settle (S : Steady R) (c : Caller) (outcome : Except Fault (Option Bool)) :
    Keeps R (Probe.settle c outcome) :=
  S.unseen fun _ => ⟨(), ends_settle c outcome⟩

theorem keeps_watch (S : Steady R) (c : Caller) : Keeps R (Probe.watch c) := by
  refine S.bind (keeps_getProbe S) fun p => ?_
  refine S.bind (S.unseen fun _ => ⟨(), ends_modifyProbe id fun _ => rfl⟩) fun _ => ?_
  split
  · exact S.unseen fun _ => ⟨(), ends_note rfl⟩
  · exact S.pure ()

/-- **Somebody asks with a callback.** -/
theorem keeps_check (L : Law R) (C : Reacts R (react depth)) (name : String) (timeout : Number)
    (script : List Step) : Keeps R (Probe.check (react depth) name timeout script) :=
  fun _ w => .after (ends_newTicket timeout) w fun _ hv₁ _ w₁ =>
    L.leads_ask C w₁ timeout hv₁ rfl

/-- **Somebody asks with a promise**, which takes the fault if asking fails. -/
theorem keeps_query (L : Law R) (C : Reacts R (react depth)) (name : String)
    (timeout : Option Number) : Keeps R (Probe.query (react depth) name timeout) := by
  intro b w
  refine .read (exec_getProbe b) (.after (ends_newTicket _) w fun b₁ hv₁ _ w₁ => ?_)
  refine .after (ends_modifyProbe id fun _ => rfl) w₁ fun b₂ hv₂ _ w₂ => ?_
  -- What becomes of the promise is not seen, so only the question itself has to be looked at.
  refine Leads.bind (Leads.tryCatch (L.leads_ask C w₂ _ (hv₂.trans hv₁) rfl) ?_) ?_
  · exact fun e b₃ w₃ r₃ => L.leads (keeps_settle L.toSteady _ _) w₃ r₃
  · exact fun _ b₃ w₃ _ r₃ => L.leads (keeps_watch L.toSteady _) w₃ r₃

/-! ### Timers -/

/-- The task of a timer that has gone off is run. -/
theorem leads_run (L : Law R) (C : Reacts R (react depth)) (w : Wired b) {t : Timer} {v : View}
    (hv : b.view = v.strike t) (ht : t ∈ v.clock.pending) (own : t.task.isOwn = true) :
    Leads R v (Timer.run (react depth) t) b := by
  cases task : t.task with
  | recheck =>
    simp only [Timer.run, task]
    by_cases h : OnThread b
    · obtain ⟨v', wakes, e⟩ := passes_recheck (react depth) h t.id
      refine .passes e w fun b₁ hv₁ s₁ w₁ => ?_
      refine L.leads_resume C w₁ (.inl (open_of_onThread (s₁.onThread h) _)) ?_
      rw [hv₁, View.wakeAt, wakes, hv]
      exact L.move (.recheck v ht task)
    · exact .refused ((refused_assertOwner h).bind _) w fun entry he =>
        hv ▸ L.move (.lapse v ht task he)
  | giveUp =>
    simp only [Timer.run, task]
    exact L.leads_giveUp C w hv ht task
  | scripted name script =>
    rw [task] at own
    exact absurd own Bool.false_ne_true

/-- **A timer fires**, whosever it is. -/
theorem keeps_fire (L : Law R) (C : Reacts R (react depth)) (w : Wired b) {t : Timer}
    (ht : t ∈ b.clock.pending) : Leads R b.view (Timer.fire (react depth) t) b :=
  .after (ends_strike t) w fun _ hv₁ _ w₁ => L.leads_run C w₁ hv₁ ht (w.tasks t ht)

/-- Timers fire one after the other. The induction is on how many may. -/
theorem keeps_fireUntil (L : Law R) (C : Reacts R (react depth)) (limit : Number) (bound : Nat) :
    Keeps R (Timer.fireUntil (react depth) limit bound) := by
  induction bound with
  | zero => exact L.pure ()
  | succ bound ih =>
    intro b w
    refine .read (exec_get b) ?_
    cases next : b.clock.next? limit with
    | none => exact L.pure () b w
    | some t =>
      have ht : t ∈ b.clock.pending := (List.mem_filter.mp (Clock.mem_of_earliest? next)).1
      exact (L.keeps_fire C w ht).bind fun _ b₁ w₁ _ r₁ => L.leads ih w₁ r₁

/-- The time passes, and what is due fires. -/
theorem keeps_advance (L : Law R) (C : Reacts R (react depth)) (millis : Number) (bound : Nat) :
    Keeps R (Timer.advance (react depth) millis bound) := by
  refine L.bind L.get fun b => ?_
  refine L.bind (L.keeps_fireUntil C _ bound) fun _ b₁ w₁ => ?_
  exact .ends (ends_modifyClock fun w => w.tasks) w₁ (L.move (.elapse b₁.view _))

/-! ### Steps and sessions -/

theorem keeps_refuse (S : Steady R) (call : String) : Keeps R (Target.refuse call : Act α) := by
  refine S.bind S.get fun b => ?_
  split <;> exact S.throw _

/-- Steps answer what they answer without being seen. -/
theorem keeps_quietly (S : Steady R) {act : Act Unit} (h : Keeps R act) :
    Keeps R (quietly act) := S.bind h fun _ => S.pure _

/-- A step for a fusion is taken, as the bench is aimed at one. -/
theorem keeps_onFusion (S : Steady R) (call : String) {act : Act Answer} (h : Keeps R act) :
    Keeps R (onFusion call act) := by
  refine S.bind S.get fun b => ?_
  split
  · exact h
  all_goals exact keeps_refuse S call

/-- Where there is a fusion, nothing can be aimed at timers. -/
theorem keeps_onTimers (S : Steady R) (call : String) (act : Act Answer) :
    Keeps R (onTimers call act) := by
  intro b w
  refine .read (exec_get b) ?_
  rw [w.target]
  exact keeps_refuse S call b w

/-- A step for a probe fails where there is none. -/
theorem keeps_onProbe (S : Steady R) (call : String) {act : Act Answer} (h : Keeps R act) :
    Keeps R (onProbe call act) := by
  refine S.bind S.get fun b => ?_
  split
  · exact h
  · exact S.throw _

/-- Where there is a fusion, no task has a handle. -/
theorem keeps_handle (S : Steady R) (name call : String) (f : Nat → Act α) :
    Keeps R (handle name call >>= f) := by
  intro b w
  have e : exec (handle name call) b = (.error (.missing "undefined" call), b) := by
    refine (exec_bind_of_ok (exec_get b)).trans ?_
    rw [w.handles]
    rfl
  exact .of_exec (exec_bind_of_error e) w List.suffix_rfl (S.refl _)

/-- What is aimed at the target is aimed at the fusion. -/
theorem keeps_aimed {act aimed : Act α} (h : Keeps R act)
    (e : ∀ b, b.target = .fusion → exec aimed b = exec act b) : Keeps R aimed :=
  fun b w => .of_beside (e b w.target) (.refl b) (h b w)

theorem keeps_receipt (S : Steady R) : Keeps R receipt := by
  refine S.bind S.get fun b => S.bind S.get fun b' => ?_
  split <;> exact S.pure _

/-- **Every step respects every law**, provided that whatever is called does. -/
theorem keeps_perform (L : Law R) (C : Reacts R (react depth)) (step : Step) :
    Keeps R (perform (react depth) step) := by
  have S := L.toSteady
  cases step with
  | join l => exact keeps_quietly S (L.keeps_targetJoin C l)
  | leave l => exact keeps_quietly S (L.keeps_targetLeave _ l)
  | pause =>
    refine keeps_quietly S (keeps_aimed (L.keeps_pause (react depth)) fun b hb => ?_)
    rw [Target.pause, exec_bind_of_ok (exec_get b), hb]
  | resume =>
    refine keeps_quietly S (keeps_aimed (L.keeps_resume C) fun b hb => ?_)
    rw [Target.resume, exec_bind_of_ok (exec_get b), hb]
  | alert => exact keeps_onFusion S _ (keeps_quietly S (L.alert C))
  | tag text =>
    refine S.bind (keeps_aimed (L.keeps_fusionTag text) fun b hb => ?_) fun _ => keeps_receipt S
    rw [Target.tagAs, exec_bind_of_ok (exec_get b), hb]
  | delay delay =>
    refine S.bind (keeps_aimed (L.keeps_fusionRetime C delay) fun b hb => ?_)
      fun _ => keeps_receipt S
    rw [Target.retime, exec_bind_of_ok (exec_get b), hb]
  | safe on => exact keeps_onFusion S _ (keeps_quietly S (L.keeps_setSafe C on))
  | near => exact keeps_onFusion S _ (S.bind S.get fun _ => S.pure _)
  | flags =>
    refine S.bind S.get fun b => ?_
    split
    · refine S.bind S.get fun b' => S.bind (S.unseen fun b => ?_) fun _ => S.pure _
      exact ⟨_, b, exec_isAvailable .primary b, rfl, .refl b⟩
    all_goals exact keeps_refuse S _
  | text => exact S.bind S.get fun _ => S.pure _
  | event role near stamp => exact keeps_quietly S (S.keeps_sensorEmit C role near stamp)
  | sample role sample late => exact keeps_quietly S (S.keeps_deliver C role sample late)
  | thread id =>
    refine keeps_quietly S fun b w => ?_
    exact .of_exec (exec_modify _ b) ⟨w.target, w.sole, w.handles, w.listeners, w.tasks⟩
      List.suffix_rfl (S.refl _)
  | assertOwner =>
    refine S.bind S.get fun b => ?_
    split
    · exact S.bind (S.throw _) fun _ => keeps_quietly S S.keeps_assertOwner
    · exact keeps_quietly S S.keeps_assertOwner
  | advance millis => exact S.bind S.get fun b => S.bind (L.keeps_advance C _ _) fun _ => S.pure _
  | check name timeout script =>
    exact keeps_onProbe S _ (keeps_quietly S (L.keeps_check C name timeout script))
  | query name timeout => exact keeps_onProbe S _ (keeps_quietly S (L.keeps_query C name timeout))
  | probeTag text =>
    refine keeps_onProbe S _ (keeps_quietly S (keeps_aimed (L.keeps_fusionTag text) fun b hb => ?_))
    rw [Probe.tagAs, Target.tagAs, exec_bind_of_ok (exec_get b), hb]
  -- What is aimed at timers is refused where there is a fusion.
  | schedule name delay keepsAlive script => exact keeps_onTimers S _ _
  | cancel name direct =>
    cases direct with
    | false => exact keeps_onTimers S _ _
    | true => exact keeps_handle S name _ _
  | active name => exact keeps_handle S name _ _
  | «throwError» message => exact S.throw _
  | throwValue text => exact S.throw _

/-- The steps of a script are taken, until one fails. -/
theorem keeps_performAll (L : Law R) (C : Reacts R (react depth)) (script : List Step) :
    Keeps R (performAll (react depth) script) :=
  L.forM script fun step _ => L.bind (L.keeps_perform C step) fun _ => L.pure ()

/-- Which script a listener follows is not seen. -/
theorem keeps_nextScript (S : Steady R) (name : String) : Keeps R (nextScript name) :=
  S.unseen fun _ => ⟨_, _, rfl, rfl, List.suffix_rfl,
    fun h => ⟨h.target, h.sole, h.handles, h.listeners, h.tasks⟩, rfl, rfl⟩

/-- **Whatever is called respects every law**, at every depth. The induction is on the
depth, and a step of it is the dispatch of one call. -/
theorem reacts (L : Law R) (depth : Nat) : Reacts R (react depth) := by
  induction depth with
  | zero => exact fun c => L.pure ()
  | succ depth ih =>
    intro c
    cases c with
    | listener l r =>
      rcases l with name | role | _
      · exact L.bind (keeps_nextScript L.toSteady name) fun _ => L.keeps_performAll ih _
      · cases role with
        | primary => exact L.keeps_onPrimary ih r
        | secondary => exact L.keeps_onSecondary ih r
        | sole => exact L.pure ()
      · exact L.keeps_answerAll ih _
    | reply c near =>
      rcases c with ⟨ticket, name, _ | _⟩
      · exact L.keeps_performAll ih _
      · exact L.pure ()
    | task script => exact L.keeps_performAll ih script

end Law

end Proximity
