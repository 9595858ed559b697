import Proximity.Proofs.Move
import Proximity.Proofs.Stretch

/-!
# From call to call

What the fusion and the probe do until a call goes out, or until they are done. An
action that is called on the owner's thread *comes to* another one
(`Proximity.Passes`): it does a stretch that calls nobody, and what is left of it is
the other action, on a bench whose view is known. So every theorem here reads as one
line of the tables in `Proximity.Proofs.Move`.
-/

namespace Proximity

open Act

variable {α β : Type} {b : Bench}

/-- **An action comes to another one** on a bench with a view, having called
nobody. -/
def Passes (act : Act α) (b : Bench) (v : View) (rest : Act α) : Prop :=
  ∃ b', exec act b = exec rest b' ∧ b'.view = v ∧ Beside b b'

namespace Passes

theorem refl (act : Act α) : Passes act b b.view act := ⟨b, rfl, rfl, .refl b⟩

theorem trans {act mid rest : Act α} {v w : View} (h : Passes act b v mid)
    (hm : ∀ b', b'.view = v → Beside b b' → Passes mid b' w rest) : Passes act b w rest := by
  obtain ⟨b₁, e₁, v₁, s₁⟩ := h
  obtain ⟨b₂, e₂, v₂, s₂⟩ := hm b₁ v₁ s₁
  exact ⟨b₂, e₁.trans e₂, v₂, s₁.trans s₂⟩

/-- What comes after a stretch is come to. -/
theorem after {x : Act α} {f : α → Act β} {a : α} {v w : View} {rest : Act β}
    (hx : Ends x b a v) (hf : ∀ b', b'.view = v → Beside b b' → Passes (f a) b' w rest) :
    Passes (x >>= f) b w rest := by
  obtain ⟨b₁, e₁, v₁, s₁⟩ := hx
  obtain ⟨b₂, e₂, v₂, s₂⟩ := hf b₁ v₁ s₁
  exact ⟨b₂, (exec_bind_of_ok e₁).trans e₂, v₂, s₁.trans s₂⟩

theorem step {x : Act α} {f : α → Act β} {a : α} {b' : Bench} {w : View} {rest : Act β}
    (hx : exec x b = (.ok a, b')) (s : Beside b b') (hf : Passes (f a) b' w rest) :
    Passes (x >>= f) b w rest := by
  obtain ⟨b₂, e, hv, s₂⟩ := hf
  exact ⟨b₂, (exec_bind_of_ok hx).trans e, hv, s.trans s₂⟩

/-- An action that only reads leaves its bench to the next one. -/
theorem read {x : Act α} {f : α → Act β} {a : α} {w : View} {rest : Act β}
    (hx : exec x b = (.ok a, b)) (hf : Passes (f a) b w rest) : Passes (x >>= f) b w rest :=
  step hx (.refl b) hf

theorem of_exec {act act' rest : Act α} {v : View} (e : exec act b = exec act' b)
    (h : Passes act' b v rest) : Passes act b v rest := by
  obtain ⟨b', e', hv, s⟩ := h
  exact ⟨b', e.trans e', hv, s⟩

theorem congr {act rest : Act α} {v w : View} (h : Passes act b v rest) (e : v = w) :
    Passes act b w rest := e ▸ h

/-- What is left of an action may be known for all benches that it can be left on. -/
theorem elim {act mid : Act α} {v : View} {p : Prop} (h : Passes act b v mid)
    (hp : ∀ b', b'.view = v → Beside b b' →
      (∀ {a w}, Ends mid b' a w → Ends act b a w) →
      (∀ {w rest}, Passes mid b' w rest → Passes act b w rest) → p) : p := by
  obtain ⟨b', e, hv, s⟩ := h
  refine hp b' hv s ?_ ?_
  · rintro a w ⟨b₂, e₂, hv₂, s₂⟩
    exact ⟨b₂, e.trans e₂, hv₂, s.trans s₂⟩
  · rintro w rest ⟨b₂, e₂, hv₂, s₂⟩
    exact ⟨b₂, e.trans e₂, hv₂, s.trans s₂⟩

end Passes

/-! ### Sensors -/

/-- **Switching a sensor on** shows at once. What is left is what the sensor has to
report; unless the call is refused. -/
theorem resume_cases (call : Reactor) (role : Role) :
    (¬ Open role b ∧ Refused (Sensor.resume call role) b b.view)
      ∨ ∃ rest, Passes (Sensor.resume call role) b (b.view.wakeAt role) rest
          ∧ (rest = pure () ∨ rest = Hysteresis.adjust call role
            ∨ ∃ next, rest = StandIn.emitNext call role next) := by
  cases hs : b.sensors.get role with
  | standIn s =>
    refine .inr ⟨_, .read (exec_getSensor role b) ?_, .inr (.inr ⟨s.onResume.head?, rfl⟩)⟩
    rw [hs]
    refine .step (exec_note _ b) (beside_noted b _) (.read (exec_standInGet role _) ?_)
    have hv : (noted b (.commanded role .resume)).view = b.view := view_noted_of_not rfl
    rw [← hv, show (noted b _).sensors.get role = b.sensors.get role from rfl, hs]
    refine .after (ends_wake (unseen_mapStandIn ?_ ?_ _) ?_) fun b₁ hv₁ _ =>
      (Passes.refl _).congr hv₁
    · exact fun _ => rfl
    · exact fun _ _ => .inl
    · simp [noted, hs, Sensor.mapStandIn, Sensor.rests?]
  | hysteresis s =>
    by_cases opens : Open role b
    · refine .inr ⟨_, .read (exec_getSensor role b) ?_, .inr (.inl rfl)⟩
      rw [hs]
      refine .read opens ?_
      refine .after (ends_wake (unseen_mapHysteresis ?_ ?_ _) ?_) fun b₁ hv₁ _ =>
        (Passes.refl _).congr hv₁
      · exact fun _ => rfl
      · exact fun _ _ => .inl
      · simp [hs, Sensor.mapHysteresis, Sensor.rests?]
    · refine .inl ⟨opens, .read (exec_getSensor role b) ?_⟩
      rw [hs]
      exact (refused_assertConfined opens).bind _
  | absent =>
    refine .inr ⟨_, .read (exec_getSensor role b) ?_, .inl rfl⟩
    rw [hs, view_wakeAt_of_none (by rw [hs]; rfl)]
    exact .refl _
  | unplanned =>
    refine .inr ⟨_, .read (exec_getSensor role b) ?_, .inl rfl⟩
    rw [hs, view_wakeAt_of_none (by rw [hs]; rfl)]
    exact .refl _

/-! ### Readings -/

theorem passes_adopt (call : Reactor) (r : Reading) :
    Passes (Fusion.adopt call r) b
      ((b.view.turn (.fused r)).change fun f => { f with lastFused := some r })
      (Fusion.broadcast call true) :=
  .after (ends_turn rfl) fun _ hv₁ _ => .after (ends_modifyFusion _) fun _ hv₂ _ =>
    (Passes.refl _).congr (by rw [hv₂, hv₁])

/-- A reading that differs from the last fused one becomes the fused one, and is
told. -/
theorem passes_accept (call : Reactor) (h : OnThread b) {r : Reading}
    (hn : b.fusion.lastFused.map (·.near) ≠ some r.near) :
    Passes (Fusion.accept call r) b (b.view.accept r) (Fusion.broadcast call true) := by
  refine .read (exec_assertOwner h) (.read (exec_getFusion b) ?_)
  rw [if_pos hn]
  have safe : b.view.fusion.safe = b.fusion.safe := rfl
  rw [View.accept, safe]
  split
  · exact .after (ends_sensorPause call (open_of_onThread h .secondary)) fun _ hv₁ _ =>
      (passes_adopt call r).congr (by rw [hv₁]; rfl)
  · exact passes_adopt call r

theorem ends_accept_of_same (call : Reactor) (h : OnThread b) {r : Reading}
    (hs : b.fusion.lastFused.map (·.near) = some r.near) :
    Ends (Fusion.accept call r) b () b.view := by
  refine .read (exec_assertOwner h) (.read (exec_getFusion b) ?_)
  rw [if_neg (not_not_intro hs)]
  exact .pure ()

/-- News of the primary are kept while the secondary is asked, or count. In any case they are
heard. -/
theorem heed_cases (call : Reactor) {r : Reading} {u : View}
    (hv : b.view = u.sense r) (news : u.isNews r) :
    (∃ v, Move u v ∧ v.history = (u.sense r).history
        ∧ Ends (Fusion.onPrimary.heed call r) b () v)
      ∨ (∃ v, Move u v.wake ∧ v.history = (u.sense r).history
          ∧ Passes (Fusion.onPrimary.heed call r) b v (Sensor.resume call .secondary))
      ∨ ∃ v, Heard r u v ∧ v.history = (u.sense r).history
          ∧ Passes (Fusion.onPrimary.heed call r) b v (Fusion.accept call r) := by
  have safe : b.fusion.safe = u.fusion.safe := congrArg (·.fusion.safe) hv
  have pending : b.fusion.pendingRecheck = u.fusion.pendingRecheck :=
    congrArg (·.fusion.pendingRecheck) hv
  have there : (b.sensors.get .secondary).available = u.secondaryThere :=
    congrArg View.secondaryThere hv
  cases ht : u.secondaryThere with
  | false =>
    refine .inr (.inr ⟨_, .alone u news ht, rfl, ?_⟩)
    refine .read (exec_getFusion b) (.read (exec_isAvailable _ b) ?_)
    rw [there, ht, Bool.and_false, if_neg Bool.false_ne_true]
    exact .after (ends_logAbout _) fun b₁ hv₁ _ => (Passes.refl _).congr (hv₁.trans hv)
  | true =>
    cases hs : u.fusion.safe with
    | true =>
      by_cases waits : u.fusion.pendingRecheck = none
      · refine .inr (.inl ⟨_, .consult u r news hs ht waits, rfl, ?_⟩)
        refine .read (exec_getFusion b) (.read (exec_isAvailable _ b) ?_)
        rw [there, ht, safe, hs, Bool.and_true, if_pos rfl]
        refine .after (ends_logAbout _) fun b₁ hv₁ _ => ?_
        rw [pending, waits, if_pos Option.isNone_none]
        exact (Passes.refl _).congr (hv₁.trans hv)
      · refine .inl ⟨_, .await u r news hs ht waits, rfl, ?_⟩
        refine .read (exec_getFusion b) (.read (exec_isAvailable _ b) ?_)
        rw [there, ht, safe, hs, Bool.and_true, if_pos rfl]
        refine (ends_logAbout _).bind fun b₁ hv₁ _ => ?_
        rw [pending, if_neg (by rwa [Option.isNone_iff_eq_none])]
        exact (Ends.pure ()).congr (hv₁.trans hv)
    | false =>
      cases hr : r.near with
      | true =>
        refine .inr (.inl ⟨_, .verify u r news hs ht hr, rfl, ?_⟩)
        refine .read (exec_getFusion b) (.read (exec_isAvailable _ b) ?_)
        rw [there, ht, safe, hs, hr]
        refine .after (ends_logAbout _) fun b₁ hv₁ _ => ?_
        refine .after ends_cancelRecheck fun b₂ hv₂ _ => ?_
        exact (Passes.refl _).congr (by rw [hv₂, hv₁, hv])
      | false =>
        refine .inr (.inr ⟨_, .gone u news hs ht hr, rfl, ?_⟩)
        refine .read (exec_getFusion b) (.read (exec_isAvailable _ b) ?_)
        rw [there, ht, safe, hs, hr]
        exact (Passes.refl _).congr hv

/-- **A reading of the primary** is passed over, is kept while the secondary is asked,
or counts. In any case it is heard. -/
theorem onPrimary_cases (call : Reactor) (h : OnThread b) (r : Reading) :
    (∃ v, Move b.view v ∧ v.history = (b.view.sense r).history
        ∧ Ends (Fusion.onPrimary call r) b () v)
      ∨ (∃ v, Move b.view v.wake ∧ v.history = (b.view.sense r).history
          ∧ Passes (Fusion.onPrimary call r) b v (Sensor.resume call .secondary))
      ∨ ∃ v, Heard r b.view v ∧ v.history = (b.view.sense r).history
          ∧ Passes (Fusion.onPrimary call r) b v (Fusion.accept call r) := by
  by_cases news : b.fusion.lastPrimary.map (·.near) ≠ some r.near
  · have heeds : Passes (Fusion.onPrimary call r) b (b.view.sense r)
        (Fusion.onPrimary.heed call r) := by
      refine .read (exec_assertOwner h) ?_
      refine .after (ends_turn rfl) fun b₁ hv₁ _ => .read (exec_getFusion b₁) ?_
      have fusion : b₁.fusion = b.fusion := congrArg View.fusion hv₁
      rw [fusion, if_pos news]
      exact .after (ends_modifyFusion _) fun b₂ hv₂ _ =>
        (Passes.refl _).congr (by rw [hv₂, hv₁]; rfl)
    refine heeds.elim fun b₁ hv₁ _ ends passes => ?_
    rcases heed_cases call hv₁ news with ⟨v, hm, hh, e⟩ | ⟨v, hm, hh, e⟩ | ⟨v, hm, hh, e⟩
    · exact .inl ⟨v, hm, hh, ends e⟩
    · exact .inr (.inl ⟨v, hm, hh, passes e⟩)
    · exact .inr (.inr ⟨v, hm, hh, passes e⟩)
  · refine .inl ⟨_, .again b.view r news, rfl, .read (exec_assertOwner h) ?_⟩
    refine (ends_turn rfl).bind fun b₁ hv₁ _ => .read (exec_getFusion b₁) ?_
    have fusion : b₁.fusion = b.fusion := congrArg View.fusion hv₁
    rw [fusion, if_neg news, ← hv₁]
    exact .pure ()

theorem second_paused (v : View) (r : Reading) :
    (v.second r).fusion.paused = v.fusion.paused := by
  rw [View.second]
  split <;> rfl

/-- A reading of the secondary that counts is the last thing to be looked at. -/
theorem passes_second (call : Reactor) (h : OnThread b) (r : Reading)
    (counts : b.view.fusion.safe = true ∨ b.view.primaryNear) :
    Passes (Fusion.onSecondary call r) b (b.view.second r)
      (Fusion.onSecondary.finish call r) := by
  refine .read (exec_assertOwner h) ?_
  refine .after (ends_turn rfl) fun b₁ hv₁ s₁ => .read (exec_getFusion b₁) ?_
  have fusion : b₁.fusion = b.view.fusion := congrArg View.fusion hv₁
  rw [fusion, View.second]
  -- Outside safe mode a reading counts only while the primary is near; one that is not near
  -- then contradicts it.
  by_cases contradicts : (!b.view.fusion.safe && !r.near) = true
  · obtain ⟨hs, hr⟩ := Bool.and_eq_true_iff.mp contradicts
    have near : b.view.fusion.lastPrimary.map (·.near) = some true :=
      counts.resolve_left (by simpa using hs)
    rw [if_pos contradicts, if_pos (by simp [hs, hr])]
    have opens : Open .secondary b₁ := open_of_onThread (s₁.onThread h) .secondary
    refine .after (ends_sensorPause call opens) fun b₂ hv₂ _ => ?_
    rw [if_neg (by simp [near])]
    refine .after ends_scheduleRecheck fun b₃ hv₃ _ => (Passes.refl _).congr ?_
    rw [hv₃, hv₂, hv₁]
    rfl
  · rw [if_neg contradicts, if_neg]
    · exact (Passes.refl _).congr hv₁
    · rcases counts with hs | near
      · simp [hs]
      · have near : b.view.fusion.lastPrimary.map (·.near) = some true := near
        simpa [near] using contradicts

/-- **A reading of the secondary** is passed over, or counts. In any case it is heard. -/
theorem onSecondary_cases (call : Reactor) (h : OnThread b) (r : Reading) :
    (∃ v, Move b.view v ∧ v.history = (b.view.turn (.sensed .secondary r)).history
        ∧ Ends (Fusion.onSecondary call r) b () v)
      ∨ ∃ v, Heard r b.view v ∧ v.history = (b.view.turn (.sensed .secondary r)).history
          ∧ Passes (Fusion.onSecondary call r) b v (Fusion.accept call r) := by
  by_cases counts : b.view.fusion.safe = true ∨ b.view.primaryNear
  · refine (passes_second call h r counts).elim fun b₁ hv₁ _ ends passes => ?_
    -- Whether the fusion is paused is asked after a log record, on a bench with the same view.
    have paused : ∀ b₂ : Bench, b₂.view = b₁.view → b₂.fusion.paused = b.view.fusion.paused :=
      fun b₂ hv₂ => (congrArg (·.fusion.paused) (hv₂.trans hv₁)).trans (second_paused _ r)
    cases hp : b.view.fusion.paused with
    | true =>
      refine .inl ⟨_, .overhear b.view r counts hp, b.view.history_second r, ends ?_⟩
      refine (ends_logAbout _).bind fun b₂ hv₂ _ => .read (exec_getFusion b₂) ?_
      rw [paused b₂ hv₂, hp]
      exact (Ends.pure ()).congr (hv₂.trans hv₁)
    | false =>
      refine .inr ⟨_, .counted b.view counts hp, b.view.history_second r, passes ?_⟩
      refine .after (ends_logAbout _) fun b₂ hv₂ _ => .read (exec_getFusion b₂) ?_
      rw [paused b₂ hv₂, hp]
      exact (Passes.refl _).congr (hv₂.trans hv₁)
  · obtain ⟨hs, near⟩ := not_or.mp counts
    refine .inl ⟨_, .disown b.view r (by simpa using hs) near, rfl, .read (exec_assertOwner h) ?_⟩
    refine (ends_turn rfl).bind fun b₁ hv₁ s₁ => .read (exec_getFusion b₁) ?_
    have fusion : b₁.fusion = b.view.fusion := congrArg View.fusion hv₁
    have near : ¬ b.view.fusion.lastPrimary.map (·.near) = some true := near
    rw [fusion, if_pos (by simp [hs, near])]
    have opens : Open .secondary b₁ := open_of_onThread (s₁.onThread h) .secondary
    refine (ends_sensorPause call opens).bind fun b₂ hv₂ _ => ?_
    rw [if_pos (by simp [near])]
    exact ends_cancelRecheck.congr (by rw [hv₂, hv₁]; rfl)

/-- **A recheck** switches the secondary on. -/
theorem passes_recheck (call : Reactor) (h : OnThread b) (id : Nat) :
    ∃ v, v.wake = b.view.recheck id
      ∧ Passes (Fusion.recheck call id) b v (Sensor.resume call .secondary) := by
  by_cases pending : b.fusion.pendingRecheck = some id
  · refine ⟨(b.view.change fun f => { f with pendingRecheck := none }).turn .rechecked, ?_, ?_⟩
    · rw [View.recheck, show b.view.fusion = b.fusion from rfl, if_pos pending]
      rfl
    · refine .read (exec_assertOwner h) (.read (exec_getFusion b) ?_)
      rw [if_pos pending]
      refine .after (ends_modifyFusion _) fun b₁ hv₁ _ => .after (ends_logAbout _) fun b₂ hv₂ _ => ?_
      refine .after (ends_turn rfl) fun b₃ hv₃ _ => (Passes.refl _).congr ?_
      rw [hv₃, hv₂, hv₁]
  · refine ⟨b.view.turn .rechecked, ?_, ?_⟩
    · rw [View.recheck, show b.view.fusion = b.fusion from rfl, if_neg pending]
      rfl
    · refine .read (exec_assertOwner h) (.read (exec_getFusion b) ?_)
      rw [if_neg pending]
      refine .after (ends_logAbout _) fun b₁ hv₁ _ => .after (ends_turn rfl) fun b₂ hv₂ _ => ?_
      exact (Passes.refl _).congr (by rw [hv₂, hv₁])

/-! ### Telling the listeners -/

/-- While listeners are being told something, nobody is told anything else. -/
theorem ends_broadcast_of_telling (call : Reactor) (h : OnThread b) (fresh : Bool)
    (telling : b.fusion.telling = true) : Ends (Fusion.broadcast call fresh) b () b.view := by
  refine .read (exec_assertOwner h) (.read (exec_getFusion b) ?_)
  rw [telling]
  exact .pure ()

/-- Where nothing was fused, nothing is told. -/
theorem ends_broadcast_of_none (call : Reactor) (h : OnThread b) (fresh : Bool)
    (idle : b.fusion.telling = false) (unknown : b.fusion.lastFused = none) :
    Ends (Fusion.broadcast call fresh) b () b.view := by
  refine .read (exec_assertOwner h) (.read (exec_getFusion b) ?_)
  rw [idle, unknown]
  refine (ends_modifyFusion _).bind fun b₁ hv₁ _ => (ends_modifyFusion _).congr ?_
  rw [hv₁, View.change_telling idle]

/-- Otherwise the listeners are told one after the other. -/
theorem passes_broadcast (call : Reactor) (h : OnThread b) (fresh : Bool) {r : Reading}
    (idle : b.fusion.telling = false) (fused : b.fusion.lastFused = some r) :
    Passes (Fusion.broadcast call fresh) b (b.view.hail r fresh) (do
      b.fusion.listeners.forM fun l => Fusion.tellGuarded call r l
      Bench.turn .hushed
      Bench.modifyFusion fun f => { f with telling := false }) := by
  refine .read (exec_assertOwner h) (.read (exec_getFusion b) ?_)
  rw [idle, fused]
  refine .after (ends_modifyFusion _) fun b₁ hv₁ _ => ?_
  refine .of_exec (exec_bind_assoc ..) (.after (ends_turn rfl) fun b₂ hv₂ _ => ?_)
  refine .of_exec (exec_bind_assoc ..) ((Passes.refl _).congr ?_)
  rw [hv₂, hv₁]
  rfl

/-- When all have been told, the broadcast is over. -/
theorem ends_hush : Ends (do
    Bench.turn .hushed
    Bench.modifyFusion fun f => { f with telling := false }) b () b.view.hush :=
  (ends_turn rfl).bind fun _ hv _ => (ends_modifyFusion _).congr (by rw [hv]; rfl)

theorem ends_complain (fault : Fault) : Ends (Fusion.complain fault) b () b.view := by
  refine .read (exec_getFusion b) ((ends_log (by decide) _ _ _).bind fun b₁ hv₁ _ => ?_)
  exact (ends_report _ _).congr hv₁

/-- **A listener that fails does not make its broadcast fail**, and nothing shows of that
but what the listener has done. -/
theorem exec_tellGuarded (call : Reactor) (r : Reading) (l : Listener) :
    ∃ b', exec (Fusion.tellGuarded call r l) b = (.ok (), b')
      ∧ b'.view = (after (call (.listener l r)) (noted b (.told l r))).view
      ∧ Beside (after (call (.listener l r)) (noted b (.told l r))) b' := by
  have told : exec (Bench.tell call l r) b = exec (call (.listener l r)) (noted b (.told l r)) :=
    exec_bind_of_ok (exec_note _ b)
  rw [Fusion.tellGuarded, exec_tryCatch, told, Act.after]
  rcases exec (call (.listener l r)) (noted b (.told l r)) with ⟨fault | a, b₁⟩
  · exact ends_complain fault
  · exact ⟨b₁, rfl, rfl, .refl b₁⟩

/-! ### Answers -/

/-- Nobody waits any longer. -/
theorem passes_take (call : Reactor) (near : Option Bool) :
    Passes (Probe.answerAll call near) b (b.view.take near)
      (Probe.finish call >>= fun _ => b.probe.waiting.forM fun c => Probe.answer call near c) := by
  refine .read (exec_getProbe b) ?_
  refine .after (ends_turn rfl) fun b₁ hv₁ _ => ?_
  refine .after (ends_modifyProbe ({ · with waiting := [] }) fun _ => rfl) fun b₂ hv₂ _ => ?_
  exact (Passes.refl _).congr (by rw [hv₂, hv₁]; rfl)

/-- On the owner's thread a check is over before anybody is answered. -/
theorem passes_answerAll (call : Reactor) (w : Wired b) (h : OnThread b) (near : Option Bool) :
    Passes (Probe.answerAll call near) b (b.view.close near)
      (b.probe.waiting.forM fun c => Probe.answer call near c) := by
  refine (passes_take call near).trans fun b₁ hv₁ s₁ => ?_
  have ended : Ends (Probe.finish call) b₁ () (b.view.close near) := by
    refine ends_stopTimer.bind fun b₂ hv₂ s₂ => ?_
    have s := s₁.trans s₂
    refine (ends_targetLeave call (s.wired w) (s.onThread h) .probe).bind fun b₃ hv₃ _ => ?_
    exact (ends_modifyProbe ({ · with checking := false }) fun _ => rfl).congr
      (by rw [hv₃, hv₂, hv₁]; rfl)
  exact .after ended fun b₂ hv₂ _ => (Passes.refl _).congr hv₂

/-- **On another thread a check cannot be ended**, and who waited is forgotten. -/
theorem refused_answerAll (call : Reactor) (w : Wired b) (h : ¬ OnThread b)
    (near : Option Bool) :
    Refused (Probe.answerAll call near) b (b.view.take near).stopTimer := by
  obtain ⟨b₁, e, hv₁, s₁⟩ := passes_take (b := b) call near
  -- The timer is called off before the fusion refuses to let the probe go.
  have refused : Refused (Probe.finish call) b₁ (b.view.take near).stopTimer := by
    refine .after ends_stopTimer fun b₂ hv₂ s₂ => ?_
    have s := s₁.trans s₂
    refine Refused.bind ((refused_targetLeave call (s.wired w) ?_ .probe).congr ?_) _
    · exact mt s.onThread_iff.mp h
    · rw [hv₂, hv₁]
  obtain ⟨fault, entry, b₂, e₂, he, hv₂, s₂⟩ := refused.bind _
  exact ⟨fault, entry, b₂, e.trans e₂, he, hv₂, s₁.trans s₂⟩

/-- A promise is settled unseen. -/
theorem ends_settle (c : Caller) (outcome : Except Fault (Option Bool)) :
    Ends (Probe.settle c outcome) b () b.view := by
  refine .read (exec_getProbe b) ?_
  split
  · refine (ends_modifyProbe id fun _ => rfl).bind fun b₁ hv₁ _ => .read (exec_getProbe b₁) ?_
    split
    · exact (ends_modifyProbe id fun _ => rfl).congr hv₁
    · exact (ends_note rfl).congr hv₁
  · exact .pure ()

/-! ### Coming to listen -/

/-- On the owner's thread whoever joins a fusion that is there is among its listeners
when it goes to work. -/
theorem passes_join (call : Reactor) (w : Wired b) (h : OnThread b) (l : Listener)
    (there : b.view.primaryThere = true) :
    Passes (Target.join call l) b (b.view.join l) (Fusion.activate call) := by
  refine .read (exec_get b) ?_
  rw [w.target]
  refine .read (exec_assertOwner h) (.read (a := b.view.primaryThere) rfl ?_)
  rw [if_pos there]
  refine .read (exec_getFusion b) ?_
  rw [View.join, show b.view.fusion = b.fusion from rfl]
  split
  · exact .after (ends_logAbout _) fun b₁ hv₁ _ => (Passes.refl _).congr hv₁
  · refine .after (ends_turn rfl) fun b₁ hv₁ _ => ?_
    exact .after (ends_modifyFusion _) fun b₂ hv₂ _ =>
      (Passes.refl _).congr (by rw [hv₂, hv₁])

/-- Nobody joins a fusion that is not there. -/
theorem ends_join_of_absent (call : Reactor) (w : Wired b) (h : OnThread b) (l : Listener)
    (absent : b.view.primaryThere = false) : Ends (Target.join call l) b () b.view := by
  refine .read (exec_get b) ?_
  rw [w.target]
  refine .read (exec_assertOwner h) (.read (a := b.view.primaryThere) rfl ?_)
  rw [absent]
  exact .pure ()

theorem refused_targetJoin (call : Reactor) (w : Wired b) (h : ¬ OnThread b) (l : Listener) :
    Refused (Target.join call l) b b.view := by
  refine .read (exec_get b) ?_
  rw [w.target]
  exact (refused_assertOwner h).bind _

/-! ### Going to work -/

/-- Going to work is nothing for a fusion that is at work, or that nobody wants to be. -/
theorem ends_activate_of_not (call : Reactor) (h : OnThread b)
    (idle : (!b.fusion.active && !b.fusion.paused && !b.fusion.listeners.isEmpty) = false) :
    Ends (Fusion.activate call) b () b.view := by
  refine .read (exec_assertOwner h) (.read (exec_getFusion b) ?_)
  rw [idle]
  exact .pure ()

/-- The other way round, the sensors are made to report first. -/
theorem passes_activate (call : Reactor) (h : OnThread b)
    (idle : (!b.fusion.active && !b.fusion.paused && !b.fusion.listeners.isEmpty) = true) :
    Passes (Fusion.activate call) b b.view (do
      Fusion.rouse call
      Bench.modifyFusion fun f => { f with active := true }
      Bench.turn .activated) := by
  refine .read (exec_assertOwner h) (.read (exec_getFusion b) ?_)
  rw [idle]
  exact .refl _

/-- When they report, the fusion is at work. -/
theorem ends_active : Ends (do
    Bench.modifyFusion fun f => { f with active := true }
    Bench.turn .activated) b () b.view.activate :=
  (ends_modifyFusion _).bind fun _ hv _ => (ends_turn rfl).congr (by rw [hv]; rfl)

/-! ### Questions -/

theorem ends_newTicket (timeout : Number) :
    Ends (Probe.newTicket timeout) b (b.probe.lastTicket + 1) (b.view.ask timeout) := by
  refine .step (exec_modifyProbe _ b) ⟨List.suffix_rfl, fun h =>
    ⟨h.target, h.sole, h.handles, h.listeners, h.tasks⟩, rfl, rfl⟩ ?_
  refine .read (exec_getProbe _) ((ends_turn rfl).bind fun b₁ hv₁ _ => ?_)
  exact (Ends.pure _).congr hv₁

theorem exec_targetIsAvailable (w : Wired b) :
    exec Target.isAvailable b = (.ok b.view.primaryThere, b) := by
  refine (exec_bind_of_ok (exec_get b)).trans ?_
  rw [w.target]
  exact exec_isAvailable .primary b

/-- Who asks while others wait, waits with them. -/
theorem ends_ask_of_checking (call : Reactor) (w : Wired b) (timeout : Number) (c : Caller)
    (there : b.view.primaryThere = true) (checking : b.view.checking = true) :
    Ends (Probe.ask call timeout c) b () (b.view.queue c) := by
  refine .read (exec_targetIsAvailable w) ?_
  rw [there]
  refine (ends_modifyProbe (·.queue c) fun _ => rfl).bind fun b₁ hv₁ _ => ?_
  refine .read (exec_getProbe b₁) ?_
  rw [show b₁.probe.checking = true from (congrArg View.checking hv₁).trans checking]
  exact (Ends.pure ()).congr hv₁

/-- Who asks while nobody waits sets the timer, and the probe comes to listen. -/
theorem passes_ask (call : Reactor) (w : Wired b) (timeout : Number) (c : Caller)
    (there : b.view.primaryThere = true) (idle : b.view.checking = false) :
    Passes (Probe.ask call timeout c) b ((b.view.queue c).setTimer timeout)
      (Target.join call .probe) := by
  refine .read (exec_targetIsAvailable w) ?_
  rw [there]
  refine .after (ends_modifyProbe (·.queue c) fun _ => rfl) fun b₁ hv₁ _ => ?_
  refine .read (exec_getProbe b₁) ?_
  rw [show b₁.probe.checking = false from (congrArg View.checking hv₁).trans idle]
  refine .after (ends_modifyProbe ({ · with checking := true }) fun _ => rfl) fun b₂ hv₂ _ => ?_
  refine .after (ends_schedule rfl _ _) fun b₃ hv₃ _ => ?_
  refine .after (ends_modifyProbe ({ · with timer := some (b₂.clock.lastId + 1) }) fun _ => rfl)
    fun b₄ hv₄ _ => (Passes.refl _).congr ?_
  have clock : b₂.view.clock = b.view.clock := by rw [hv₂, hv₁]; rfl
  rw [hv₄, hv₃, hv₂, hv₁, show b₂.clock = b.clock from clock]
  rfl

end Proximity
