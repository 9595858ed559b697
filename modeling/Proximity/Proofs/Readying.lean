import Proximity.Proofs.Reached
import Proximity.Proofs.Upkeep

/-!
# A fusion at work has readied its secondary

The first time a fusion goes to work it joins its sensors, and readies the secondary for that:
outside safe mode, the secondary is switched off. So wherever one gets, a fusion that is at
work, or that has joined its sensors, has readied its secondary (`Proximity.Prepared`).

Every deed keeps that, except going to work, after which it holds because of what was done
before: rousing the sensors ends well only if the secondary has been readied
(`Proximity.Steady.readied_rouse`).
-/

namespace Proximity

open Act Session

/-- **What the fusion has done has been prepared.** -/
structure Prepared (v : View) : Prop where
  /-- Before the sensors are joined, the secondary is readied. -/
  connected : v.fusion.connected = true → v.history.readied
  /-- Before the fusion is at work, the secondary is readied. -/
  active : v.fusion.active = true → v.history.readied

namespace Prepared

variable {v v' : View}

/-! ### Deeds other than going to work -/

/-- Nothing is done about the sensors' being joined, or about being at work. -/
theorem grown (h : Prepared v) (hh : v.history <:+ v'.history)
    (hc : v'.fusion.connected = v.fusion.connected) (ha : v'.fusion.active = v.fusion.active) :
    Prepared v' where
  connected linked := (h.connected (hc.symm.trans linked)).of_suffix hh
  active works := (h.active (ha.symm.trans works)).of_suffix hh

theorem one (h : Prepared v) {n : Note} (hh : v'.history = n :: v.history)
    (hc : v'.fusion.connected = v.fusion.connected) (ha : v'.fusion.active = v.fusion.active) :
    Prepared v' :=
  h.grown (hh ▸ List.suffix_cons n _) hc ha

theorem tearDown (h : Prepared v) : Prepared v.tearDown := by
  rw [View.tearDown]
  split
  · exact ⟨fun linked => (h.connected linked).of_suffix (List.suffix_cons _ _),
      fun works => absurd works Bool.false_ne_true⟩
  · exact h

theorem second (h : Prepared v) (r : Reading) : Prepared (v.second r) := by
  rw [View.second]
  split <;> exact h.one rfl rfl rfl

/-- **What has been prepared is kept up.** -/
theorem upkeep : Upkeep Prepared where
  idles idle h := h.grown idle.history.suffix idle.connected idle.active
  tearDown h := h.tearDown
  setTimer _ h := h.grown List.suffix_rfl rfl rfl
  stopTimer h := h.grown List.suffix_rfl rfl rfl
  giveUp _ _ h := h.grown List.suffix_rfl rfl rfl

theorem move (hm : Move v v') (h : Prepared v) : Prepared v' := by
  have grows : v.history <:+ v'.history := (Plainly.move hm).history.suffix
  cases hm with
  | link readied => exact ⟨fun _ => readied, h.active⟩
  | overhear r => exact h.second r
  | pause => exact upkeep.pause h
  | leave name => exact upkeep.leave h (.named name)
  | mode on => cases on <;> exact h.one rfl rfl rfl
  | _ => exact h.grown grows rfl rfl

theorem taking (ht : Taking v v') (h : Prepared v) : Prepared v' := by
  have heard : ∀ {r u}, Heard r v u → Prepared u := fun hh => by
    cases hh with
    | alone | gone => exact h.one rfl rfl rfl
    | counted => exact h.second _
  cases ht with
  | passOver hh => exact heard hh
  | accept hh =>
    rw [View.accept]
    split <;> exact (heard hh).one rfl rfl rfl

end Prepared

/-! ### Going to work -/

variable {R : View → View → Prop} {b b' : Bench} {call : Reactor}

namespace Steady

/-- Joining the sensors ends well only if the secondary has been readied. -/
theorem readied_connect (S : Steady R) (C : Reacts R call) (w : Wired b)
    (e : exec (Fusion.connect call) b = (.ok (), b')) : b'.history.readied := by
  obtain ⟨_, b₁, e₁, e⟩ := exists_of_exec_bind_eq_ok e
  obtain ⟨_, b₂, e₂, e⟩ := exists_of_exec_bind_eq_ok e
  obtain ⟨w₁, -, -⟩ := (S.keeps_join C .primary b w).at_end e₁
  rcases ready_cases (b := b₁) call with ready | refused
  · obtain ⟨b₃, e₃, hv₃, s₃⟩ := ready
    obtain rfl : b₃ = b₂ := congrArg Prod.snd (e₃.symm.trans e₂)
    have readied : b₃.history.readied := by
      rw [show b₃.history = b₁.view.ready.history from congrArg View.history hv₃]
      exact ⟨_, List.mem_cons_self, rfl⟩
    obtain ⟨-, grows, -⟩ := (S.keeps_link C (s₃.wired w₁) readied).at_end e
    exact readied.of_suffix grows
  · obtain ⟨fault, _, _, e', -⟩ := refused
    cases e'.symm.trans e₂

/-- Rousing the sensors ends well only if the secondary has been readied. -/
theorem readied_rouse (S : Steady R) (C : Reacts R call) (w : Wired b)
    (linked : b.fusion.connected = true → b.history.readied)
    (e : exec (Fusion.rouse call) b = (.ok (), b')) : b'.history.readied := by
  have grows : b.history <:+ b'.history := ((S.keeps_rouse C b w).at_end e).2.1
  cases connected : b.fusion.connected with
  | true => exact (linked connected).of_suffix grows
  | false =>
    have e := (exec_bind_of_ok (exec_getFusion b)).symm.trans e
    rw [connected] at e
    obtain ⟨_, b₁, e₁, e⟩ := exists_of_exec_bind_eq_ok e
    obtain ⟨w₁, -, -⟩ := (S.keeps_connect C b w).at_end e₁
    exact (S.readied_connect C w e₁).of_suffix ((S.keeps_start C b₁ w₁).at_end e).2.1

end Steady

/-- What is prepared stays so. -/
theorem steady_prepared : Steady fun v v' => Prepared v → Prepared v' :=
  ⟨fun _ => id, fun h h' => h' ∘ h, Prepared.move⟩

/-- **A fusion that goes to work has readied its secondary.** -/
theorem leads_activate_prepared {depth : Nat} {v : View}
    (C : Reacts (fun v v' => Prepared v → Prepared v') (react depth)) (w : Wired b)
    (h : OnThread b) (r : Rise v b.view) :
    Leads (fun v v' => Prepared v → Prepared v') v (Fusion.activate (react depth)) b := by
  cases idle : !b.fusion.active && !b.fusion.paused && !b.fusion.listeners.isEmpty with
  | false => exact .ends (ends_activate_of_not _ h idle) w (Prepared.upkeep.rise r)
  | true =>
    refine .passes (passes_activate _ h idle) w fun b₁ hv₁ _ w₁ => ?_
    have risen : Prepared v → Prepared b₁.view := hv₁ ▸ Prepared.upkeep.rise r
    have roused := steady_prepared.keeps_rouse C b₁ w₁
    rcases e : exec (Fusion.rouse (react depth)) b₁ with ⟨fault | _, b₂⟩
    · obtain ⟨w₂, grows, p₂⟩ := roused.at_end e
      exact .of_exec (exec_bind_of_error e) w₂ grows (p₂ ∘ risen)
    · obtain ⟨w₂, -, p₂⟩ := roused.at_end e
      refine .follow e (roused.at_end e).2.1 (.ends ends_active w₂ fun p => ?_)
      have readied : b₂.view.history.readied :=
        steady_prepared.readied_rouse C w₁ (risen p).connected e
      exact ⟨fun _ => readied.of_suffix (List.suffix_cons _ _),
        fun _ => readied.of_suffix (List.suffix_cons _ _)⟩

/-- **Preparing what is done is a law.** -/
theorem law_prepared : Law fun v v' => Prepared v → Prepared v' :=
  { steady_prepared with
    rise := leads_activate_prepared
    accept := fun C w ht h => steady_prepared.leads_accept w ht h .taking
      (steady_prepared.keeps_broadcast C Prepared.upkeep.telling true)
    alert := fun C => steady_prepared.keeps_broadcast C Prepared.upkeep.telling false
    answer := fun C w h => steady_prepared.leads_answers C Prepared.upkeep.giving w h }

/-- **A fusion at work has readied its secondary**, wherever one gets. -/
theorem Reached.readied (h : Reached b) (active : b.fusion.active = true) : b.history.readied := by
  refine (law_prepared.invariant (fun v p => ?_) h).active active
  obtain ⟨delay, fusion⟩ := p.fusion
  constructor <;> rw [fusion] <;> exact nofun

end Proximity
