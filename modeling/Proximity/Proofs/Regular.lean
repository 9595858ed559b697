import Proximity.Proofs.Reached

/-!
# What can fail

Listeners and callbacks fail as they please, but the fusion is not impressed: a
listener that fails is logged, and the broadcast goes on. So whatever a fusion does on
its own account – switching its sensors, joining them, taking their readings – can fail
for two reasons only: another thread calls, or a sample comes without a time while the
clock has none to give either. Both can be seen in the history, and a history without
either is *regular* (`Proximity.History.Regular`).

An action is *sure* (`Proximity.Sure`) if it does not fail as long as the history stays
regular. What is sure here is everything that happens before the fusion is at work.
-/

namespace Proximity

open Act Session

/-- **No call comes from another thread, and the clock always shows a finite time.** -/
def History.Regular (h : History) : Prop :=
  ∀ n ∈ h, n.entry.isFatal = false ∧ n.time.isFinite = true

instance (h : History) : Decidable h.Regular :=
  inferInstanceAs (Decidable (∀ n ∈ h, n.entry.isFatal = false ∧ n.time.isFinite = true))

/-- What is regular has always been so. -/
theorem History.Regular.of_suffix {h h' : History} (r : h'.Regular) (s : h <:+ h') : h.Regular :=
  fun n hn => r n (s.subset hn)

/-- **An action does not fail on a bench while the history stays regular.** -/
structure SureOn (act : Act α) (b : Bench) : Prop where
  /-- The bench stays wired as it was. -/
  wired : Wired (after act b)
  /-- If it fails, the history is not regular. -/
  fails : ∀ e, (exec act b).1 = .error e → ¬ (after act b).history.Regular

/-- An action is sure wherever it is done. -/
def Sure (act : Act α) : Prop := ∀ b, Wired b → SureOn act b

variable {α β : Type} {b : Bench} {call : Reactor}

namespace SureOn

/-- What succeeds is sure. -/
theorem of_ok {act : Act α} {a : α} {b' : Bench} (e : exec act b = (.ok a, b')) (w : Wired b') :
    SureOn act b where
  wired := by rwa [Act.after, e]
  fails _ h := by rw [e] at h; cases h

/-- A stretch is sure. -/
theorem ends {act : Act α} {a : α} {v : View} (h : Ends act b a v) (w : Wired b) :
    SureOn act b := by
  obtain ⟨b', e, -, s⟩ := h
  exact .of_ok e (s.wired w)

/-- What is refused ends what is regular. -/
theorem refused {act : Act α} {v : View} (h : Refused act b v) (w : Wired b) : SureOn act b := by
  obtain ⟨fault, entry, b', e, fatal, hv, s⟩ := h
  refine ⟨by rw [Act.after, e]; exact s.wired w, fun _ _ r => ?_⟩
  rw [Act.after, e] at r
  have history : b'.history = ⟨v.clock.now, entry⟩ :: v.history := congrArg View.history hv
  have calm := (r ⟨v.clock.now, entry⟩ (history ▸ List.mem_cons_self)).1
  rw [fatal] at calm
  cases calm

/-- What an action comes down to may be taken in its place. -/
theorem of_exec {act rest : Act α} {b' : Bench} (e : exec act b = exec rest b')
    (h : SureOn rest b') : SureOn act b := by
  have e' : Act.after act b = Act.after rest b' := congrArg Prod.snd e
  exact ⟨e' ▸ h.wired, fun fault hf => e' ▸ h.fails fault (e ▸ hf)⟩

/-- An action is sure if what it passes to is. -/
theorem passes {act rest : Act α} {v : View} (h : Passes act b v rest) (w : Wired b)
    (hr : ∀ b', b'.view = v → Beside b b' → Wired b' → SureOn rest b') : SureOn act b := by
  obtain ⟨b', e, hv, s⟩ := h
  exact .of_exec e (hr b' hv s (s.wired w))

/-- An action is sure if what comes after the stretch it begins with is. -/
theorem after {x : Act α} {f : α → Act β} {a : α} {v : View} (h : Ends x b a v) (w : Wired b)
    (hf : ∀ b', b'.view = v → Beside b b' → Wired b' → SureOn (f a) b') : SureOn (x >>= f) b := by
  obtain ⟨b', e, hv, s⟩ := h
  exact .of_exec (exec_bind_of_ok e) (hf b' hv s (s.wired w))

theorem read {x : Act α} {f : α → Act β} {a : α} (e : exec x b = (.ok a, b))
    (hf : SureOn (f a) b) : SureOn (x >>= f) b :=
  .of_exec (exec_bind_of_ok e) hf

/-- **One after the other, sure actions are sure.** If the first one fails, nothing else is done. -/
theorem bind {x : Act α} {f : α → Act β} (hx : SureOn x b)
    (hf : ∀ a b', Wired b' → SureOn (f a) b') : SureOn (x >>= f) b := by
  obtain ⟨hw, hx⟩ := hx
  rcases e : exec x b with ⟨fault | a, b'⟩
  · simp only [Act.after, e] at hw hx
    have e' := exec_bind_of_error (f := f) e
    refine ⟨by rwa [Act.after, e'], fun _ _ => ?_⟩
    rw [Act.after, e']
    exact hx fault rfl
  · simp only [Act.after, e] at hw
    exact .of_exec (exec_bind_of_ok e) (hf a b' hw)

/-- Off the owner's thread nothing goes on. -/
theorem confined {f : Unit → Act α} (w : Wired b) (h : OnThread b → SureOn (f ()) b) :
    SureOn (Bench.assertOwner >>= f) b := by
  by_cases ht : OnThread b
  · exact .read (exec_assertOwner ht) (h ht)
  · exact .refused ((refused_assertOwner ht).bind f) w

end SureOn

namespace Sure

/-- One after the other, actions that are sure everywhere are sure everywhere. -/
theorem bind {x : Act α} {f : α → Act β} (hx : Sure x) (hf : ∀ a, Sure (f a)) : Sure (x >>= f) :=
  fun b w => (hx b w).bind fun a b' w' => hf a b' w'

theorem pure (a : α) : Sure (pure a : Act α) := fun _ w => .of_ok rfl w

/-- A stretch is sure. -/
theorem stretch {act : Act α} (h : ∀ b, ∃ a v, Ends act b a v) : Sure act := fun b w => by
  obtain ⟨a, v, e⟩ := h b
  exact .ends e w

/-- The same may be done for all in a list. The induction is on the list. -/
theorem forM {f : α → Act Unit} (l : List α) (h : ∀ a ∈ l, Sure (f a)) : Sure (l.forM f) := by
  induction l with
  | nil => exact .pure ()
  | cons a l ih =>
    rw [forM_cons]
    exact .bind (h a List.mem_cons_self) fun _ => ih fun a' ha' => h a' (List.mem_cons_of_mem a ha')

/-- A sensor refuses a call from another thread only, which is not regular. -/
theorem assertConfined (role : Role) : Sure (Hysteresis.assertConfined role) := fun b w => by
  by_cases opens : Open role b
  · exact .of_ok opens w
  · exact .refused (refused_assertConfined opens) w

end Sure

/-! ### Sensors -/

/-- The fusion takes what its sensors report. -/
def Takes (call : Reactor) : Prop := ∀ role r, Sure (call (.listener (.fusion role) r))

namespace Takes

/-- All listeners of a sensor are the fusion. -/
theorem tellAll (T : Takes call) {role : Role} {l : List Listener}
    (h : ∀ x ∈ l, x = .fusion role) (r : Reading) : Sure (Bench.tellAll call l r) := by
  refine .forM l fun x hx => ?_
  rw [h x hx]
  exact .bind (.stretch fun _ => ⟨(), _, ends_note rfl⟩) fun _ => T role r

/-- A stand-in may have something to report. -/
theorem emitNext (T : Takes call) (role : Role) (next : Option (Option Bool)) :
    Sure (StandIn.emitNext call role next) := by
  rcases next with _ | _ | near
  · exact .pure ()
  · exact .pure ()
  · refine .bind (.stretch fun _ => ⟨(), _, ends_modifyStandIn ?_ ?_ ?_⟩) fun _ b w => ?_
    · exact fun _ => rfl
    · exact fun _ _ => .inl
    · exact fun _ => rfl
    · exact .read (exec_standInGet role b) (T.tellAll (Steady.standIn_listeners w role) _ b w)

/-- A sample without a time is taken if the clock has one. -/
theorem resolveStamp (stamp : Stamp) (h : ∃ n ∈ b.history, n.time = b.clock.now) (w : Wired b) :
    SureOn (Bench.resolveStamp stamp) b := by
  refine .read (exec_get b) ?_
  cases hs : stamp.resolve b.clock.now with
  | ok nanos => exact .of_ok rfl w
  | error fault =>
    -- The clock showed the same time when the last entry was noted, and that is a finite one.
    refine ⟨w, fun _ _ r => ?_⟩
    obtain ⟨n, hn, time⟩ := h
    have finite := (r n hn).2
    rw [time, Number.isFinite_eq_isSome] at finite
    obtain ⟨q, hq⟩ := Option.isSome_iff_exists.mp finite
    have floor : Number.floor? b.clock.now = some q.floor := by rw [Number.floor?, hq]; rfl
    rw [Stamp.resolve, nanosOf, floor] at hs
    split at hs <;> cases hs

/-- **A sample is taken.** Its stamp can be resolved, as the time is finite. -/
theorem take (T : Takes call) (role : Role) (sample : Sample) :
    Sure (Hysteresis.take call role sample) := by
  refine .bind (.assertConfined role) fun _ b w => ?_
  refine .after (ends_turn rfl) w fun b₁ hv₁ _ w₁ => .read (exec_hysteresisGet role b₁) ?_
  split
  · split
    · exact .of_ok rfl w₁
    · split
      · refine .after (ends_modifyHysteresis ?_ ?_ ?_) w₁ fun b₂ hv₂ _ w₂ => ?_
        · exact fun _ => rfl
        · exact fun _ _ => .inl
        · exact fun _ => rfl
        have history : b₂.history = ⟨b.clock.now, .turned (.sampled role sample)⟩ :: b.history :=
          congrArg View.history (hv₂.trans hv₁)
        have clock : b₂.clock = b.clock := congrArg View.clock (hv₂.trans hv₁)
        -- The sample has just been noted at the time that the clock shows.
        refine (resolveStamp _ ⟨_, history ▸ List.mem_cons_self, by rw [clock]⟩ w₂).bind ?_
        intro stamp b₃ w₃
        refine .after (ends_note rfl) w₃ fun b₄ _ _ w₄ => ?_
        exact T.tellAll (Steady.hysteresis_listeners w₁ role) _ b₄ w₄
      · exact .of_ok rfl w₁
  · exact .of_ok rfl w₁

/-- So are the samples that a source has at once. -/
theorem subscribe (T : Takes call) (role : Role) (delay : Number) :
    Sure (Hysteresis.subscribe call role delay) := by
  refine .bind (.stretch fun _ => ⟨(), _, ends_modifySource role _⟩) fun _ b w => ?_
  refine .read (exec_hysteresisGet role b) (.after (ends_note rfl) w fun b₁ _ _ w₁ => ?_)
  refine .read (exec_hysteresisGet role b₁) (.after (ends_modifySource role _) w₁ fun b₂ _ _ w₂ => ?_)
  exact (Sure.forM _ (fun sample _ => T.take role sample) b₂ w₂).bind fun _ _ w₃ => .of_ok rfl w₃

/-- Sampling begins, and nothing can fail but a sample. -/
theorem beginSampling (T : Takes call) (role : Role) : Sure (Hysteresis.beginSampling call role) := by
  intro b w
  refine .read (exec_hysteresisGet role b) ?_
  refine .after (ends_hysteresisLog role (by decide) _ _) w fun b₁ _ _ w₁ => ?_
  refine .after (ends_modifyHysteresis ?_ ?_ ?_) w₁ fun b₂ _ _ w₂ => ?_
  · exact fun _ => rfl
  · exact fun _ _ => .inl
  · exact fun _ => rfl
  refine (T.subscribe role _ b₂ w₂).bind fun n b₃ w₃ => .read (exec_hysteresisGet role b₃) ?_
  split
  · refine .ends (ends_modifyHysteresis ?_ ?_ ?_) w₃
    · exact fun _ => rfl
    · exact fun _ _ => .inl
    · exact fun _ => rfl
  · exact .ends (ends_stop role n) w₃

/-- Sampling begins or ends. -/
theorem adjust (T : Takes call) (role : Role) : Sure (Hysteresis.adjust call role) := by
  intro b w
  by_cases wants : (b.sensors.get role).asHysteresis.wantsSamples = true
  · refine .read (exec_hysteresisGet role b) ?_
    rw [wants]
    split
    · exact .after (ends_note rfl) w fun b₁ _ _ w₁ => T.beginSampling role b₁ w₁
    · exact .of_ok rfl w
  · exact .ends (ends_adjust call (by simpa using wants)) w

/-- A sensor that is resumed may report. -/
theorem resume (T : Takes call) (role : Role) : Sure (Sensor.resume call role) := by
  intro b w
  rcases resume_cases (b := b) call role with ⟨-, e⟩ | ⟨rest, e, hrest⟩
  · exact .refused e w
  · refine .passes e w fun b₁ _ _ w₁ => ?_
    rcases hrest with rfl | rfl | ⟨next, rfl⟩
    · exact .of_ok rfl w₁
    · exact T.adjust role b₁ w₁
    · exact T.emitNext role next b₁ w₁

/-- So may one that the fusion joins. -/
theorem join (T : Takes call) (role : Role) : Sure (Sensor.join call role (.fusion role)) := by
  intro b w
  refine .read (exec_getSensor role b) ?_
  cases b.sensors.get role with
  | standIn s =>
    refine .after (ends_note rfl) w fun b₁ _ _ w₁ => .read (exec_standInGet role b₁) ?_
    refine .after (ends_modifyStandIn ?_ ?_ ?_) w₁ fun b₂ _ _ w₂ => T.emitNext role _ b₂ w₂
    · exact fun _ => rfl
    · exact fun _ _ => Steady.mem_addTo
    · exact fun _ => rfl
  | hysteresis s =>
    refine (Sure.assertConfined role b w).bind fun _ b₁ w₁ => .read (exec_hysteresisGet role b₁) ?_
    split
    · split
      · exact .after (ends_hysteresisLog role (by decide) _ _) w₁ fun b₂ _ _ w₂ =>
          T.adjust role b₂ w₂
      · refine .after (ends_modifyHysteresis ?_ ?_ ?_) w₁ fun b₂ _ _ w₂ => T.adjust role b₂ w₂
        · exact fun _ => rfl
        · exact fun h l hl => (List.mem_append.mp hl).imp_right List.mem_singleton.mp
        · exact fun _ => rfl
    · exact .of_ok rfl w₁
  | absent => exact .of_ok rfl w
  | unplanned => exact .of_ok rfl w

end Takes

/-! ### The fusion -/

section Fusion

variable {depth : Nat}

/-- Whatever is called leaves a wired bench wired. -/
theorem wired_react (c : Callback) (w : Wired b) : Wired (after (react depth c) b) :=
  (law_faithful.reacts depth c b w).wired

/-- **A listener cannot make a broadcast fail.** -/
theorem sure_tellGuarded (r : Reading) (l : Listener) :
    Sure (Fusion.tellGuarded (react depth) r l) := by
  intro b w
  obtain ⟨b', e, -, s⟩ := exec_tellGuarded (b := b) (react depth) r l
  exact .of_ok e (s.wired (wired_react (.listener l r) ((beside_noted b _).wired w)))

/-- A broadcast is sure, whoever is told. -/
theorem sure_broadcast (fresh : Bool) : Sure (Fusion.broadcast (react depth) fresh) := by
  intro b w
  refine .confined w fun _ => .read (exec_getFusion b) ?_
  split
  · cases b.fusion.lastFused with
    | none =>
      exact .after (ends_modifyFusion _) w fun b₁ _ _ w₁ => .ends (ends_modifyFusion _) w₁
    | some r =>
      refine .after (ends_modifyFusion _) w fun b₁ _ _ w₁ => .bind ?_ fun _ b₂ w₂ =>
        .ends (ends_modifyFusion _) w₂
      refine .after (ends_turn rfl) w₁ fun b₂ _ _ w₂ => .bind ?_ fun _ b₃ w₃ =>
        .ends (ends_turn rfl) w₃
      exact Sure.forM _ (fun l _ => sure_tellGuarded r l) b₂ w₂
  · exact .of_ok rfl w

/-- A reading becomes the fused reading. -/
theorem sure_accept (r : Reading) : Sure (Fusion.accept (react depth) r) := by
  intro b w
  by_cases h : OnThread b
  · by_cases same : b.fusion.lastFused.map (·.near) = some r.near
    · exact .ends (ends_accept_of_same _ h same) w
    · exact .passes (passes_accept _ h same) w fun b₁ _ _ w₁ => sure_broadcast true b₁ w₁
  · exact .refused ((refused_assertOwner h).bind _) w

/-- **The fusion takes what its sensors report, at every depth.** Taking a reading may
switch on the secondary, which may report from inside that; the induction is on the
depth. -/
theorem takes_react (depth : Nat) : Takes (react depth) := by
  induction depth with
  | zero => exact fun role r => Sure.pure ()
  | succ depth ih =>
    intro role r b w
    by_cases h : OnThread b
    · cases role with
      | primary =>
        rcases onPrimary_cases (react depth) h r with ⟨v, -, -, e⟩ | ⟨v, -, -, e⟩ | ⟨v, -, -, e⟩
        · exact .ends e w
        · exact .passes e w fun b₁ _ _ w₁ => ih.resume .secondary b₁ w₁
        · exact .passes e w fun b₁ _ _ w₁ => sure_accept r b₁ w₁
      | secondary =>
        rcases onSecondary_cases (react depth) h r with ⟨v, -, -, e⟩ | ⟨v, -, -, e⟩
        · exact .ends e w
        · exact .passes e w fun b₁ _ _ w₁ => sure_accept r b₁ w₁
      | sole => exact .of_ok rfl w
    · cases role with
      | primary => exact .refused ((refused_assertOwner h).bind _) w
      | secondary => exact .refused ((refused_assertOwner h).bind _) w
      | sole => exact .of_ok rfl w

/-- The secondary is switched off, which cannot fail. -/
theorem sure_ready (call : Reactor) : Sure (Fusion.ready call) := fun b w => by
  rcases ready_cases (b := b) call with e | e
  · exact .ends e w
  · exact .refused e w

/-- The fusion joins its sensors, which may report meanwhile. -/
theorem sure_connect : Sure (Fusion.connect (react depth)) := by
  have T := takes_react depth
  refine .bind (T.join .primary) fun _ => .bind (sure_ready _) fun _ => ?_
  exact .bind (T.join .secondary) fun _ b w => .ends (ends_modifyFusion _) w

/-- **The sensors can be made to report.** -/
theorem sure_rouse : Sure (Fusion.rouse (react depth)) := by
  intro b w
  refine .read (exec_getFusion b) ?_
  have resume : Sure (do
      Fusion.logAbout "Registering sensor listener"
      Sensor.resume (react depth) .primary) :=
    .bind (.stretch fun _ => ⟨(), _, ends_logAbout _⟩) fun _ =>
      (takes_react depth).resume .primary
  split
  · exact .bind (sure_connect b w) fun _ b₁ w₁ => resume b₁ w₁
  · exact resume b w

end Fusion

end Proximity
