import Proximity.Proofs.Lawful

/-!
# Deeds

Most laws need not look at a whole broadcast or a whole round of answers: they are
respected by each of its parts. The parts come in four groups, one for each thing
that is not complete in itself:

| group | parts |
|---|---|
| `Proximity.Going` | somebody comes to want the fusion to work; it goes to work |
| `Proximity.Taking` | a reading that counts is passed over or accepted |
| `Proximity.Telling` | a broadcast begins, a listener is told, the broadcast ends |
| `Proximity.Giving` | a check is over, somebody is given an answer, and may fail |

A relation that respects a group meets the corresponding demand of a law. A property
of views that is kept by every deed (`Proximity.Deed`) is a law altogether
(`Proximity.Law.ofInvariant`), and holds after every session if it held before.
-/

namespace Proximity

open Act Session

/-- What there is to going to work. -/
inductive Going : View → View → Prop where
  /-- Somebody comes to want the fusion to work. -/
  | rise {v v' : View} : Rise v v' → Going v v'
  /-- The fusion has gone to work. -/
  | activate (v : View) : Going v v.activate

/-- What there is to taking a reading that counts. -/
inductive Taking : View → View → Prop where
  /-- It does not differ from the last fused reading. -/
  | passOver {r : Reading} {v v' : View} : Heard r v v' →
      v'.fusion.lastFused.map (·.near) = some r.near → Taking v v'
  /-- It differs, and becomes the fused reading. -/
  | accept {r : Reading} {v v' : View} : Heard r v v' →
      v'.fusion.lastFused.map (·.near) ≠ some r.near → Taking v (v'.accept r)

/-- What there is to telling the listeners. -/
inductive Telling : View → View → Prop where
  /-- A broadcast of the last fused reading begins. -/
  | hail {r : Reading} (v : View) (fresh : Bool) : v.fusion.telling = false →
      v.fusion.lastFused = some r → Telling v (v.hail r fresh)
  /-- A listener is told a reading whose broadcast has begun. -/
  | tell {r : Reading} {fresh : Bool} {l : Listener} (v : View) :
      (∃ n ∈ v.history, n.entry = .turned (.broadcast r fresh)) →
      (Entry.told l r).isHistoric = true → Telling v (v.note (.told l r))
  /-- A broadcast ends. -/
  | hush (v : View) : Telling v v.hush

/-- What there is to giving an answer. -/
inductive Giving : View → View → Prop where
  /-- The check is over. -/
  | close {near : Option Bool} {v v' : View} {waiting : List Caller} :
      Close near v waiting v' → Giving v v'
  /-- Somebody is given the answer. -/
  | reply (v : View) (ticket : Nat) (near : Option Bool) :
      Giving v (v.turn (.replied ticket near))
  /-- Somebody who was given it fails. -/
  | balk (v : View) (ticket : Nat) : Giving v (v.turn (.balked ticket))

/-- **A deed**: a move, or a part of what is not complete in itself. -/
inductive Deed (v v' : View) : Prop where
  /-- A move. -/
  | move : Move v v' → Deed v v'
  /-- A part of going to work. -/
  | going : Going v v' → Deed v v'
  /-- A part of taking a reading. -/
  | taking : Taking v v' → Deed v v'
  /-- A part of telling the listeners. -/
  | telling : Telling v v' → Deed v v'
  /-- A part of giving an answer. -/
  | giving : Giving v v' → Deed v v'

variable {R : View → View → Prop} {b : Bench} {u : View} {call : Reactor}

namespace Steady

/-! ### Going to work -/

/-- The secondary has been readied when it is joined. -/
theorem keeps_link (S : Steady R) (C : Reacts R call) (w : Wired b) (readied : b.history.readied) :
    Leads R b.view (do
      Sensor.join call .secondary (.fusion .secondary)
      Bench.modifyFusion fun f => { f with connected := true }) b := by
  refine (S.keeps_join C .secondary b w).bind fun _ b₁ w₁ g₁ r₁ => ?_
  exact .ends (ends_modifyFusion _) w₁ (S.trans r₁ (S.move (.link _ (readied.of_suffix g₁))))

theorem keeps_connect (S : Steady R) (C : Reacts R call) : Keeps R (Fusion.connect call) := by
  refine S.bind (S.keeps_join C .primary) fun _ b w => ?_
  rcases ready_cases (b := b) call with e | e
  · refine .after e w fun b₁ hv₁ _ w₁ => ?_
    have readied : b₁.history.readied := by
      rw [show b₁.history = b.view.ready.history from congrArg View.history hv₁]
      exact ⟨_, List.mem_cons_self, rfl⟩
    obtain ⟨w₂, g₂, r₂⟩ := S.keeps_link C w₁ readied
    exact ⟨w₂, g₂, S.trans (S.move (.ready b.view)) (hv₁ ▸ r₂)⟩
  · exact .refused (e.bind _) w fun entry he => S.move (.refuse _ he)

/-- Sensors that have been joined are made to report. -/
theorem keeps_start (S : Steady R) (C : Reacts R call) : Keeps R (do
    Fusion.logAbout "Registering sensor listener"
    Sensor.resume call .primary) :=
  S.bind (S.unseen fun _ => ⟨(), ends_logAbout _⟩) fun _ _ w =>
    S.leads_resume C w (.inr (S.refl _)) (S.refl _)

theorem keeps_rouse (S : Steady R) (C : Reacts R call) : Keeps R (Fusion.rouse call) := by
  intro b w
  refine .read (exec_getFusion b) ?_
  split
  · exact S.bind (S.keeps_connect C) (fun _ => S.keeps_start C) b w
  · exact S.keeps_start C b w

theorem keeps_activate (S : Steady R) (C : Reacts R call) (activate : ∀ v, R v v.activate) :
    Keeps R (Fusion.activate call) := by
  intro b w
  refine S.confined w (S.refl _) fun _ => .read (exec_getFusion b) ?_
  split
  · refine (S.keeps_rouse C b w).bind fun _ b₁ w₁ _ r₁ => ?_
    exact .ends ends_active w₁ (S.trans r₁ (activate b₁.view))
  · exact .pure w (S.refl _) ()

/-! ### Telling the listeners -/

/-- Whatever becomes of a listener that fails, nothing of it shows. -/
theorem leads_tellGuarded (S : Steady R) (C : Reacts R call) (w : Wired b) {r : Reading}
    {l : Listener} (h : (Entry.told l r).isHistoric = true → R u (b.view.note (.told l r)))
    (h' : R u b.view) : Leads R u (Fusion.tellGuarded call r l) b := by
  -- What a sensor is told is not in the history, so that it does not show that it is told.
  obtain ⟨b', e, hv, s⟩ := exec_tellGuarded (b := b) call r l
  have told : R u (noted b (.told l r)).view := by
    cases shows : (Entry.told l r).isHistoric with
    | true => exact view_noted shows ▸ h shows
    | false => rwa [view_noted_of_not shows]
  obtain ⟨w₁, g₁, r₁⟩ := S.leads (C (.listener l r)) ((beside_noted b _).wired w) told
  exact .of_exec e (s.wired w₁) (((beside_noted b _).grows.trans g₁).trans s.grows) (hv ▸ r₁)

/-- While a broadcast is on, one listener is told after the other. -/
theorem leads_tellGuarded_forM (S : Steady R) (C : Reacts R call)
    (telling : ∀ {v v'}, Telling v v' → R v v') {r : Reading} {fresh : Bool}
    (listeners : List Listener) (w : Wired b)
    (begun : ∃ n ∈ b.history, n.entry = .turned (.broadcast r fresh)) (h : R u b.view) :
    Leads R u (listeners.forM fun l => Fusion.tellGuarded call r l) b := by
  induction listeners generalizing b with
  | nil => exact .pure w h ()
  | cons l listeners ih =>
    rw [forM_cons]
    refine Leads.bind (S.leads_tellGuarded C w (fun shows => ?_) h) fun _ b₁ w₁ g₁ r₁ => ?_
    · exact S.trans h (telling (.tell b.view begun shows))
    · obtain ⟨n, hn, he⟩ := begun
      exact ih w₁ ⟨n, g₁.subset hn, he⟩ r₁

theorem keeps_broadcast (S : Steady R) (C : Reacts R call)
    (telling : ∀ {v v'}, Telling v v' → R v v') (fresh : Bool) :
    Keeps R (Fusion.broadcast call fresh) := by
  intro b w
  by_cases h : OnThread b
  · cases idle : b.fusion.telling with
    | true => exact .ends (ends_broadcast_of_telling call h fresh idle) w (S.refl _)
    | false =>
      cases fused : b.fusion.lastFused with
      | none => exact .ends (ends_broadcast_of_none call h fresh idle fused) w (S.refl _)
      | some r =>
        refine .passes (passes_broadcast call h fresh idle fused) w fun b₁ hv₁ _ w₁ => ?_
        have history : b₁.history = (b.view.hail r fresh).history := congrArg View.history hv₁
        have begun : ∃ n ∈ b₁.history, n.entry = .turned (.broadcast r fresh) := by
          rw [history]
          exact ⟨_, List.mem_cons_self, rfl⟩
        have hailed : R b.view b₁.view := hv₁ ▸ telling (.hail b.view fresh idle fused)
        -- The broadcast ends on the bench that the last listener leaves, not on `b₁`.
        refine (S.leads_tellGuarded_forM C telling _ w₁ begun hailed).bind fun _ b₂ w₂ _ r₂ => ?_
        exact .ends ends_hush w₂ (S.trans r₂ (telling (.hush b₂.view)))
  · exact .refused ((refused_assertOwner h).bind _) w fun entry he => S.move (.refuse _ he)

/-! ### Taking a reading -/

/-- A reading that counts may be passed over, or is accepted and told. -/
theorem leads_accept (S : Steady R) (w : Wired b) (h : OnThread b) {r : Reading} {v : View}
    (heard : Heard r v b.view) (taking : ∀ {v v'}, Taking v v' → R v v')
    (tells : Keeps R (Fusion.broadcast call true)) :
    Leads R v (Fusion.accept call r) b := by
  by_cases same : b.view.fusion.lastFused.map (·.near) = some r.near
  · exact .ends (ends_accept_of_same call h same) w (taking (.passOver heard same))
  · exact .passes (passes_accept call h same) w fun b₁ hv₁ _ w₁ =>
      S.leads tells w₁ (hv₁ ▸ taking (.accept heard same))

/-! ### Giving an answer -/

theorem keeps_answer (S : Steady R) (C : Reacts R call)
    (giving : ∀ {v v'}, Giving v v' → R v v') (near : Option Bool) (c : Caller) :
    Keeps R (Probe.answer call near c) := by
  intro b w
  refine .after (ends_turn rfl) w fun b₁ hv₁ _ w₁ => ?_
  have r₁ : R b.view b₁.view := hv₁ ▸ giving (.reply b.view c.ticket near)
  rcases hc : c.reply with _ | _
  · refine .after (ends_note rfl) w₁ fun b₂ hv₂ _ w₂ => ?_
    refine Leads.tryCatch (S.leads (C _) w₂ (hv₂ ▸ r₁)) fun e b₃ w₃ r₃ => ?_
    refine .after (ends_turn rfl) w₃ fun b₄ hv₄ _ w₄ => .throw w₄ ?_ e
    rw [hv₄]
    exact S.trans r₃ (giving (.balk b₃.view c.ticket))
  · exact S.leads (Law.keeps_settle S c _) w₁ r₁

theorem leads_answers (S : Steady R) (C : Reacts R call)
    (giving : ∀ {v v'}, Giving v v' → R v v') (w : Wired b) {near : Option Bool} {v : View}
    {waiting : List Caller} (close : Close near v waiting b.view) :
    Leads R v (waiting.forM fun c => Probe.answer call near c) b :=
  S.leads (S.forM waiting fun c _ => S.keeps_answer C giving near c) w (giving (.close close))

end Steady

/-! ### Laws from deeds -/

/-- **A relation that every deed respects is a law.** -/
theorem Law.ofDeeds (refl : ∀ v, R v v) (trans : ∀ {v₁ v₂ v₃}, R v₁ v₂ → R v₂ v₃ → R v₁ v₃)
    (deed : ∀ {v v'}, Deed v v' → R v v') : Law R :=
  have S : Steady R := ⟨refl, trans, fun h => deed (.move h)⟩
  { S with
    rise := fun C w _ h => S.leads (S.keeps_activate C fun v => deed (.going (.activate v))) w
      (deed (.going (.rise h)))
    accept := fun C w ht h => S.leads_accept w ht h (fun h => deed (.taking h))
      (S.keeps_broadcast C (fun h => deed (.telling h)) true)
    alert := fun C => S.keeps_broadcast C (fun h => deed (.telling h)) false
    answer := fun C w h => S.leads_answers C (fun h => deed (.giving h)) w h }

/-- **A property that every deed keeps is a law.** -/
theorem Law.ofInvariant {P : View → Prop} (deed : ∀ {v v'}, Deed v v' → P v → P v') :
    Law fun v v' => P v → P v' :=
  .ofDeeds (fun _ => id) (fun h h' => h' ∘ h) deed

end Proximity
