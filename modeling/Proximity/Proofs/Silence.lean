import Proximity.Proofs.Confirmation
import Proximity.Proofs.Hush
import Proximity.Proofs.Notification
import Proximity.Proofs.Stirred

/-!
# A fusion is silent until it is stirred

A fusion that does not work, since it is paused or nobody listens, should be silent: its sensors
may be late with their reports, but no listener should be told of them, nothing should be known
to be near, and what is told after the fusion has gone to work again should be news. What keeps
it silent are only the readings that it passes over. The fusion *heeds* the others whether it is
at work or not (`Proximity.Fusion.heeds`), and is stirred by them.

| a reading of | which comes while the fusion is not at work |
|---|---|
| the primary | is heeded |
| the secondary, in safe mode without listeners | is heeded |
| the secondary, in safe mode while paused | comes to nothing |
| the secondary, outside safe mode | switches the secondary off |

The main statement is `Proximity.silent_until_stirred`: a fusion that is not stirred remembers
nothing, and until it is stirred, nothing comes of what its sensors report; and whatever it knows
later has been fused since, and told, unless a broadcast was on. That a fusion which is paused
can be stirred, and then keeps a reading over to its next work, is `Proximity.stirred_session`.
-/

namespace Proximity

open Act Session

variable {α β : Type} {b b' b'' : Bench}

/-! ### Readings that are heeded -/

/-- **Where nothing is demanded, everything is lawful.** -/
theorem law_free : Law fun _ _ => True :=
  .ofDeeds (fun _ => trivial) (fun _ _ => trivial) fun _ => trivial

/-- A reading has come that the fusion heeds. -/
def Heeds (b b' : Bench) : Prop :=
  ∃ new, b'.history = new ++ b.history ∧ ∃ n ∈ new, b.fusion.heeds n.entry = true

/-- Once a reading has come, it has come for good. -/
theorem Heeds.grow (h : Heeds b b') (g : b'.history <:+ b''.history) : Heeds b b'' := by
  obtain ⟨new, e, n, hn, heeds⟩ := h
  obtain ⟨later, e'⟩ := g
  refine ⟨later ++ new, ?_, n, List.mem_append_right _ hn, heeds⟩
  rw [← e', e, List.append_assoc]

/-- Nothing came of what was done before. -/
theorem Hush.heeds (h : Hush b b') (h' : Heeds b' b'') : Heeds b b'' := by
  obtain ⟨new, e, n, hn, heeds⟩ := h'
  obtain ⟨before, e'⟩ := h.history
  refine ⟨new ++ before, ?_, n, List.mem_append_left _ hn, h.fusion ▸ heeds⟩
  rw [e, ← e', List.append_assoc]

/-- A reading that the fusion heeds is the latest entry. -/
theorem Heeds.latest {entry : Entry} {v : View} (hv : b'.view = v)
    (hh : v.history = (b.view.note entry).history) (heeds : b.fusion.heeds entry = true) :
    Heeds b b' := by
  have history : b'.history = v.history := congrArg View.history hv
  exact ⟨[_], history.trans hh, _, List.mem_singleton_self _, heeds⟩

section Readings

variable {depth : Nat} {r : Reading}

/-- What is left of an action after that only lets the history grow. -/
theorem Heeds.passes {act rest : Act Unit} {v : View} {entry : Entry} (w : Wired b)
    (e : Passes act b v rest) (hh : v.history = (b.view.note entry).history)
    (heeds : b.fusion.heeds entry = true)
    (free : ∀ b', b'.view = v → Beside b b' → Wired b' →
      Leads (fun _ _ => True) b.view rest b') : Heeds b (after act b) := by
  obtain ⟨b', e, hv, s⟩ := e
  have left : after act b = after rest b' := congrArg Prod.snd e
  rw [left]
  exact (Heeds.latest hv hh heeds).grow (free b' hv s (s.wired w)).grows

theorem Heeds.ends {act : Act Unit} {v : View} {entry : Entry} (e : Ends act b () v)
    (hh : v.history = (b.view.note entry).history) (heeds : b.fusion.heeds entry = true) :
    Heeds b (after act b) := by
  obtain ⟨b', e, hv, -⟩ := e
  have left : after act b = b' := congrArg Prod.snd e
  exact left ▸ .latest hv hh heeds

theorem heeds_onPrimary (w : Wired b) (h : OnThread b) :
    Heeds b (after (Fusion.onPrimary (react depth) r) b) := by
  have C := law_free.reacts depth
  rcases onPrimary_cases (react depth) h r with ⟨v, -, hh, e⟩ | ⟨v, -, hh, e⟩ | ⟨v, hm, hh, e⟩
  · exact .ends e hh rfl
  · exact .passes w e hh rfl fun b' _ s w' =>
      law_free.leads_resume C w' (.inl (open_of_onThread (s.onThread h) _)) trivial
  · exact .passes w e hh rfl fun b' hv s w' => law_free.accept C w' (s.onThread h) (hv ▸ hm)

theorem heeds_onSecondary (w : Wired b) (h : OnThread b)
    (heeds : (b.fusion.safe && !b.fusion.paused) = true) :
    Heeds b (after (Fusion.onSecondary (react depth) r) b) := by
  have C := law_free.reacts depth
  rcases onSecondary_cases (react depth) h r with ⟨v, -, hh, e⟩ | ⟨v, hm, hh, e⟩
  · exact .ends e hh heeds
  · exact .passes w e hh heeds fun b' hv s w' => law_free.accept C w' (s.onThread h) (hv ▸ hm)

end Readings

/-! ### What reaches a fusion that dozes -/

/-- **A fusion dozes**: it remembers nothing of its primary, and waits for nothing. -/
structure Dozes (b : Bench) : Prop where
  /-- The bench is wired. -/
  wired : Wired b
  /-- Nothing is remembered of the primary. -/
  calm : b.fusion.lastPrimary = none
  /-- No recheck is waited for. -/
  idle : b.fusion.pendingRecheck = none

theorem Dozes.hush (d : Dozes b) (h : Hush b b') (w : Wired b') : Dozes b' :=
  ⟨w, h.fusion ▸ d.calm, h.fusion ▸ d.idle⟩

/-- **Either a reading has come that the fusion heeds, or nothing has come of what was done.** -/
def Lulled (b b' : Bench) : Prop := Heeds b b' ∨ Hush b b'

/-- An action lets a fusion doze, or wakes it by a reading that it heeds. -/
def Lulls (act : Act α) (b : Bench) : Prop := Lulled b (after act b)

/-- An action that keeps the bench wired, and lets the history grow. -/
abbrev Free (act : Act α) : Prop := Keeps (fun _ _ => True) act

namespace Lulls

variable {x : Act α} {f : α → Act β} {a : α}

theorem hushes (h : Hushes x b) : Lulls x b := .inr h

theorem step (e : exec x b = (.ok a, b')) (h : Hush b b') (hf : Lulls (f a) b') :
    Lulls (x >>= f) b := by
  have left : after (x >>= f) b = after (f a) b' := congrArg Prod.snd (exec_bind_of_ok e)
  rw [Lulls, left]
  exact hf.imp h.heeds h.trans

theorem read (e : exec x b = (.ok a, b)) (hf : Lulls (f a) b) : Lulls (x >>= f) b :=
  .step e (.refl b) hf

/-- **What comes after an action finds the fusion dozing**, or it has been woken before. -/
theorem bind (d : Dozes b) (hx : Lulls x b) (kx : Free x) (kf : ∀ a, Free (f a))
    (hf : ∀ a b', Dozes b' → Lulls (f a) b') : Lulls (x >>= f) b := by
  have led := kx b d.wired
  rcases e : exec x b with ⟨fault | a, b'⟩
  · have left : after x b = b' := congrArg Prod.snd e
    have same : after (x >>= f) b = b' := congrArg Prod.snd (exec_bind_of_error e)
    rw [Lulls, same, ← left]
    exact hx
  · have left : after x b = b' := congrArg Prod.snd e
    rw [Lulls, left] at hx
    have w : Wired b' := left ▸ led.wired
    rcases hx with heeds | hush
    · have same : after (x >>= f) b = after (f a) b' := congrArg Prod.snd (exec_bind_of_ok e)
      rw [Lulls, same]
      exact .inl (heeds.grow (kf a b' w).grows)
    · exact .step e hush (hf a b' (d.hush hush w))

/-- What comes after an action of which nothing comes finds the fusion dozing. -/
theorem after (d : Dozes b) (hx : Hushes x b) (kx : Free x)
    (hf : ∀ a b', Dozes b' → Lulls (f a) b') : Lulls (x >>= f) b := by
  have led := kx b d.wired
  rcases e : exec x b with ⟨fault | a, b'⟩
  · have left : Act.after x b = b' := congrArg Prod.snd e
    exact hushes (.of_exec (exec_bind_of_error e) (left ▸ hx))
  · have left : Act.after x b = b' := congrArg Prod.snd e
    have hush : Hush b b' := left ▸ hx
    exact .step e hush (hf a b' (d.hush hush (left ▸ led.wired)))

end Lulls

section Reports

variable {depth : Nat}

/-- A reading is given to the fusion. -/
theorem lulls_listener (d : Dozes b) (role : Role) (r : Reading) :
    Lulls (react depth (.listener (.fusion role) r)) b := by
  cases depth with
  | zero => exact .hushes (.pure () b)
  | succ depth =>
    have refused : ∀ f : Unit → Act Unit, ¬ OnThread b → Hushes (Bench.assertOwner >>= f) b :=
      fun f h => by
        obtain ⟨owner, e⟩ := exec_assertOwner_of_not h
        have left := congrArg Prod.snd e
        exact .of_exec (exec_bind_of_error e) (left ▸ Soft.assertOwner b)
    by_cases h : OnThread b
    · cases role with
      | primary => exact .inl (heeds_onPrimary d.wired h)
      | secondary =>
        cases heeds : b.fusion.safe && !b.fusion.paused with
        | true => exact .inl (heeds_onSecondary d.wired h heeds)
        | false => exact .hushes (hushes_onSecondary _ r d.calm d.idle heeds)
      | sole => exact .hushes (.pure () b)
    · cases role with
      | primary => exact .hushes (refused _ h)
      | secondary => exact .hushes (refused _ h)
      | sole => exact .hushes (.pure () b)

/-- What a sensor reports is told to the fusion. The induction is on the listeners. -/
theorem lulls_tellAll (d : Dozes b) {role : Role} {listeners : List Listener}
    (only : ∀ l ∈ listeners, l = .fusion role) (r : Reading) :
    Lulls (Bench.tellAll (react depth) listeners r) b := by
  have C := law_free.reacts depth
  induction listeners generalizing b with
  | nil => exact .hushes (.pure () b)
  | cons l listeners ih =>
    obtain rfl := only l List.mem_cons_self
    have others : ∀ l ∈ listeners, l = .fusion role := fun l hl => only l (List.mem_cons_of_mem _ hl)
    rw [Bench.tellAll, forM_cons]
    refine .bind d ?_ (law_free.keeps_tell C role r) (fun _ => law_free.keeps_tellAll C others r)
      fun _ b' d' => ih d' others
    have told : Hush b (noted b (.told (.fusion role) r)) := .noted b rfl
    exact .step (exec_note _ b) told
      (lulls_listener (d.hush told ((beside_noted b _).wired d.wired)) role r)

theorem lulls_emit (d : Dozes b) (role : Role) (near : Bool) (stamp : Option Int) :
    Lulls (StandIn.emit (react depth) role near stamp) b := by
  cases stamp with
  | some stamp =>
    exact .read (exec_standInGet role b)
      (lulls_tellAll d (Steady.standIn_listeners d.wired role) ⟨near, stamp⟩)
  | none =>
    refine .after d (Soft.modifySensor role _ b) (law_free.keeps_standInModify ?_ ?_ ?_) ?_
    · exact fun _ => rfl
    · exact fun _ _ => .inl
    · exact fun _ => rfl
    · exact fun _ b' d' => .read (exec_standInGet role b')
        (lulls_tellAll d' (Steady.standIn_listeners d'.wired role) _)

theorem soft_resolveStamp (stamp : Stamp) : Soft (Bench.resolveStamp stamp) := fun b => by
  refine .read (exec_get b) ?_
  split
  · exact .pure _ b
  · exact .throw _ b

theorem lulls_take (d : Dozes b) (role : Role) (sample : Sample) :
    Lulls (Hysteresis.take (react depth) role sample) b := by
  have S : Steady fun _ _ => True := law_free.toSteady
  refine .after d (Soft.assertConfined role b) (S.keeps_assertConfined role) fun _ b₁ d₁ => ?_
  have sampled : Hush b₁ (noted b₁ (.turned (.sampled role sample))) := .noted b₁ rfl
  have d₂ := d₁.hush sampled ((beside_noted b₁ _).wired d₁.wired)
  refine .step (exec_note _ b₁) sampled (.read (exec_hysteresisGet role _) ?_)
  have only := Steady.hysteresis_listeners d₂.wired role
  split
  · split
    · exact .hushes (.pure () _)
    · split
      · refine .after d₂ (Soft.modifySensor role _ _) (S.keeps_hysteresisModify ?_ ?_ ?_) ?_
        · exact fun _ => rfl
        · exact fun _ _ => .inl
        · exact fun _ => rfl
        · intro _ b₃ d₃
          refine .after d₃ (soft_resolveStamp _ b₃) (S.keeps_resolveStamp _) fun stamp b₄ d₄ => ?_
          have crossed : ∀ r ls, Hush b₄ (noted b₄ (.turned (.crossed role r ls))) :=
            fun r ls => .noted b₄ rfl
          have w₅ := fun r ls => (beside_noted b₄ (.turned (.crossed role r ls))).wired d₄.wired
          exact .step (exec_note _ b₄) (crossed ⟨_, stamp⟩ _)
            (lulls_tellAll (d₄.hush (crossed _ _) (w₅ _ _)) only _)
      · exact .hushes (.pure () _)
  · exact .hushes (.pure () _)

end Reports

/-- Whether a step only lets a sensor report, or gives it a sample. -/
def Step.isReport : Step → Bool
  | .event _ _ _ | .sample _ _ _ => true
  | _ => false

/-- **A step that lets a sensor report lets the fusion doze**, or wakes it by a reading that it
heeds. -/
theorem lulls_perform (d : Dozes b) {depth : Nat} {step : Step} (report : step.isReport = true) :
    Lulls (perform (react depth) step) b := by
  have S : Steady fun _ _ => True := law_free.toSteady
  have C := law_free.reacts depth
  have quietly : ∀ act : Act Unit, Lulls act b → Free act → Lulls (quietly act) b := fun act h k =>
    .bind d h k (fun _ => S.pure _) fun _ b' _ => .hushes (.pure _ b')
  cases step with
  | event role near stamp =>
    refine quietly _ (.read (exec_getSensor role b) ?_) (S.keeps_sensorEmit C role near stamp)
    cases b.sensors.get role with
    | standIn s => exact lulls_emit d role near stamp
    | hysteresis | absent | unplanned => exact .hushes (.throw _ b)
  | sample role sample late =>
    refine quietly _ (.read (exec_getSensor role b) ?_) (S.keeps_deliver C role sample late)
    cases b.sensors.get role with
    | hysteresis h =>
      refine .read (exec_hysteresisGet role b) ?_
      split
      · exact .hushes (.pure () b)
      · split
        · exact lulls_take d role sample
        · exact .hushes (.pure () b)
    | standIn | absent | unplanned => exact .hushes (.pure () b)
  | _ => cases report

theorem Session.wired_run (w : Wired b) (steps : List Step) :
    Wired (run steps b) ∧ b.history <:+ (run steps b).history := by
  induction steps generalizing b with
  | nil => exact ⟨w, List.suffix_rfl⟩
  | cons step steps ih =>
    have led := law_free.keeps_perform (law_free.reacts (depth b step)) step b w
    obtain ⟨w', g⟩ := ih (b := (take step b).bench) led.wired
    exact ⟨w', led.grows.trans g⟩

/-- **What happens while a fusion dozes.** The induction is on the steps, of which each finds the
fusion dozing as long as nothing was heeded. -/
theorem lulled_run (d : Dozes b) {steps : List Step}
    (reports : ∀ step ∈ steps, step.isReport = true) : Lulled b (run steps b) := by
  induction steps generalizing b with
  | nil => exact .inr (.refl b)
  | cons step steps ih =>
    have led := law_free.keeps_perform (law_free.reacts (depth b step)) step b d.wired
    have taken : Lulled b (take step b).bench := lulls_perform d (reports step List.mem_cons_self)
    have w : Wired (take step b).bench := led.wired
    rw [run_cons]
    rcases taken with heeds | hush
    · exact .inl (heeds.grow (wired_run w steps).2)
    · have rest := ih (d.hush hush w) fun step hs => reports step (List.mem_cons_of_mem _ hs)
      exact rest.imp hush.heeds hush.trans

/-! ### The first reading is told -/

section Told

variable {r : Reading} {h later earlier s : History} {l : Listener} {listeners : List Listener}
  {time : Number}

/-- All who are told are told. -/
theorem Round.exists_told (hs : Round r listeners s) (hl : l ∈ listeners) :
    ∃ n ∈ s, n.entry = .told l r := by
  induction hs with
  | start => exact absurd hl List.not_mem_nil
  | @tell listeners s time l' hs ih =>
    rcases List.mem_append.mp hl with before | last
    · obtain ⟨n, hn, e⟩ := ih before
      exact ⟨n, List.mem_cons_of_mem _ hn, e⟩
    · rw [List.mem_singleton.mp last]
      exact ⟨_, List.mem_cons_self, rfl⟩
  | mute hs hn ih =>
    obtain ⟨n, hn, e⟩ := ih hl
    exact ⟨n, List.mem_cons_of_mem _ hn, e⟩

/-- **A reading that is fused while no broadcast is on is told to all who listen then.** The
induction is on the broadcasts. -/
theorem Orderly.exists_told (o : Orderly h) (e : h = later ++ ⟨time, .turned (.fused r)⟩ :: earlier)
    (idle : earlier.telling = false) (there : l ∈ earlier.audience) :
    ∃ n ∈ later, n.entry = .told l r := by
  induction o generalizing later with
  | nil => simp at e
  | @aside n h o hn ih =>
    rcases List.cons_eq_append_iff.mp e with ⟨-, first⟩ | ⟨later', rfl, rest⟩
    · cases first
      cases hn
    · obtain ⟨m, hm, e⟩ := ih rest
      exact ⟨m, List.mem_cons_of_mem n hm, e⟩
  | @accept r₁ time₁ h h' o a ih =>
    rcases a.split e with ⟨start, stop, s, later', round, rfl, before⟩ | ⟨on, -⟩
    · rcases List.cons_eq_append_iff.mp before with ⟨rfl, first⟩ | ⟨later'', rfl, rest⟩
      · cases first
        obtain ⟨m, hm, e⟩ := round.exists_told there
        exact ⟨m, List.mem_cons_of_mem _ (List.mem_append_left _ hm), e⟩
      · obtain ⟨m, hm, e⟩ := ih rest
        exact ⟨m, (suffix_airing ..).subset (List.mem_cons_of_mem _ hm), e⟩
    · exact absurd (idle.symm.trans on) Bool.false_ne_true
  | @alert r₁ h h' o a ih =>
    rcases a.split e with ⟨start, stop, s, later', round, rfl, before⟩ | ⟨on, -⟩
    · obtain ⟨m, hm, e⟩ := ih before
      exact ⟨m, (suffix_airing ..).subset hm, e⟩
    · exact absurd (idle.symm.trans on) Bool.false_ne_true

end Told

/-! ### Silence -/

theorem Reached.dozes (h : Reached b) (calm : b.history.stirred = false) : Dozes b := by
  obtain ⟨primary, -, idle⟩ := h.blank_iff.mpr calm
  exact ⟨(law_free.holds h).1, primary, idle⟩

/-- **A fusion is silent until it is stirred.**

* It remembers nothing if and only if it is not stirred.
* While it is not stirred, it can be at work or not: however its sensors report, either one of
  the reports is heeded, or nothing comes of them, and nothing is known to be near.
* If at some time nothing had been fused, and now something is known to be near or not, that is
  what a reading says which has been fused since.
* Such a reading is told to all who listen, if it was fused while nobody was being told
  anything. -/
theorem silent_until_stirred (h : Reached b) :
    (b.fusion.Blank ↔ b.history.stirred = false)
      ∧ (b.history.stirred = false → ∀ steps new, (∀ step ∈ steps, step.isReport = true) →
          (run steps b).history = new ++ b.history →
          (∀ n ∈ new, b.fusion.heeds n.entry = false) →
            Hush b (run steps b) ∧ Fusion.near (run steps b) = none)
      ∧ (∀ later earlier, b.history = later ++ earlier → History.fused earlier = none →
          ∀ near, Fusion.near b = some near →
            ∃ n ∈ later, ∃ r, n.entry = .turned (.fused r) ∧ r.near = near)
      ∧ ∀ later time r earlier, b.history = later ++ ⟨time, .turned (.fused r)⟩ :: earlier →
          History.telling earlier = false → ∀ l ∈ History.audience earlier,
            ∃ n ∈ later, n.entry = .told l r := by
  refine ⟨h.blank_iff, fun calm steps new reports e unheeded => ?_, ?_, ?_⟩
  · have hush : Hush b (run steps b) := by
      refine (lulled_run (h.dozes calm) reports).resolve_left ?_
      rintro ⟨new', e', n, hn, heeds⟩
      obtain rfl : new = new' := List.append_cancel_right (e.symm.trans e')
      exact Bool.false_ne_true ((unheeded n hn).symm.trans heeds)
    refine ⟨hush, ?_⟩
    have unknown : (run steps b).fusion.lastFused = none :=
      hush.fusion ▸ (h.blank_iff.mpr calm).2.1
    rw [Fusion.near, unknown]
    split <;> rfl
  · intro later earlier e none near known
    rw [Fusion.near] at known
    split at known
    · obtain ⟨r, last, rfl⟩ := Option.map_eq_some_iff.mp known
      have fused : b.history.fused = some r := h.faithful.fused.symm.trans last
      obtain ⟨n, hn, entry⟩ := History.exists_of_fused_append none (e ▸ fused)
      exact ⟨n, hn, r, entry, rfl⟩
    · cases known
  · exact fun later time r earlier e idle l there => h.orderly.exists_told e idle there

/-- A session in which the primary reports to a paused fusion, which is resumed after that. -/
def stirredSession (more : List Step) : Bench :=
  (Scenario.ofSensors (.standIn true [] []) .absent []).after ([.join "a", .pause] ++ more)

/-- A session in which the secondary reports in safe mode, when nobody listens any longer. -/
def desertedSession (more : List Step) : Bench :=
  (Scenario.ofSensors (.standIn true [] []) (.standIn true [] []) []).after
    ([.join "a", .safe true, .leave "a"] ++ more)

/-- **A fusion that is not at work can be stirred.** While it is paused, a listener is told what
the primary reports; and when nobody listens, what the secondary reports in safe mode is taken.
When the fusion is resumed, it goes on to say what it has been told before, and says nothing
when the primary reports the same again. -/
theorem stirred_session :
    (Reached (stirredSession []) ∧ (stirredSession []).fusion.active = false
        ∧ (stirredSession []).fusion.paused = true ∧ Fusion.near (stirredSession []) = none)
      ∧ ((∃ n ∈ notesSince (stirredSession []) (stirredSession [.event .primary true none]),
            n.entry.isSoft = false)
        ∧ (stirredSession [.event .primary true none]).fusion.active = false
        ∧ Fusion.near (stirredSession [.event .primary true none]) = some true)
      ∧ (Fusion.near (stirredSession [.event .primary true none, .resume]) = some true
        ∧ ∀ n ∈ notesSince (stirredSession [.event .primary true none, .resume])
            (stirredSession [.event .primary true none, .resume, .event .primary true none]),
          n.entry.isSoft = true)
      ∧ (Reached (desertedSession []) ∧ (desertedSession []).fusion.listeners = []
        ∧ Fusion.near (desertedSession []) = none
        ∧ Fusion.near (desertedSession [.event .secondary true none]) = some true) := by
  refine ⟨⟨Scenario.reached_after rfl (by decide +kernel) _, ?_⟩, ?_, ?_,
    Scenario.reached_after rfl (by decide +kernel) _, ?_⟩
  all_goals decide +kernel

/-- A session in which a fusion is paused that both sensors have reported to. -/
def dozingSession : Bench :=
  (Scenario.ofSensors (.standIn true [] []) (.standIn true [] []) []).after
    [.join "a", .event .primary true none, .event .secondary true none, .pause]

theorem silent_until_stirred_session :
    dozingSession.history.stirred = false ∧ dozingSession.fusion.active = false
      ∧ Hush dozingSession
        (run [.event .secondary true none, .event .secondary false none] dozingSession) := by
  have reached : Reached dozingSession := Scenario.reached_after rfl (by decide +kernel) _
  have calm : dozingSession.history.stirred = false := by decide +kernel
  refine ⟨calm, by decide +kernel, ?_⟩
  have grown := (wired_run (reached.dozes calm).wired
    [.event .secondary true none, .event .secondary false none]).2
  exact ((silent_until_stirred reached).2.1 calm _ _ (by decide)
    (List.suffix_iff_eq_append.mp grown).symm (by decide +kernel)).1

end Proximity
