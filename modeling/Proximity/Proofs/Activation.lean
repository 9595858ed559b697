import Proximity.Proofs.Regular

/-!
# When a fusion is at work

A fusion should be at work just when it is there, somebody listens, and it is not
paused. Going to work takes calls of sensors, though, which may report from inside
those calls, so that listeners are told and may pause the fusion or leave it – before
it is at work, so that there is nothing yet to stop. The fusion then goes on and is at
work although nobody wants it to be. It has been *overtaken*
(`Proximity.History.overtaken`).

The main statement is `Proximity.active_iff_not_overtaken`: in a regular history, a
fusion is at work just when it should be if and only if it has not been overtaken.
That it can be overtaken is `Proximity.overtaken_session`.

One half of it is a property of the history that every deed keeps
(`Proximity.Settled`). The other half, that a fusion which somebody wants to work is at
work, is not kept by joining and resuming but restored by what these end with
(`Proximity.law_kept`), and that needs that the sensors do not fail meanwhile.
-/

namespace Proximity

open Act Session

namespace History

/-- **Whether the fusion was overtaken while it was going to work**: when it came to be at
work, nobody wanted it to be any longer, and nobody has wanted it since. -/
def overtaken : History → Bool
  | [] => false
  | n :: earlier =>
    match n.entry with
    | .turned .activated => !wanted earlier
    | .turned .tornDown => false
    | _ => overtaken earlier && !wanted (n :: earlier)

/-- Whoever wants the fusion to work has it at work. -/
def Served (h : History) : Prop := h.wanted = true → h.active = true

/-- A fusion is overtaken just when it is at work and nobody wants it to be. -/
def Balanced (h : History) : Prop := h.overtaken = (h.active && !h.wanted)

end History

namespace History

variable {h h' : History} {n : Note}

/-- What is still changes nothing but whether the fusion is overtaken. -/
theorem wanted_of_isStill (hn : n.entry.isStill = true) :
    paused (n :: h) = paused h ∧ audience (n :: h) = audience h ∧ active (n :: h) = active h
      ∧ overtaken (n :: h) = (overtaken h && !wanted (n :: h)) := by
  rcases n with ⟨time, entry⟩
  cases entry with
  | turned t =>
    cases t with
    | joined _ | left _ | paused | resumed | activated | tornDown => cases hn
    | _ => exact ⟨rfl, rfl, rfl, rfl⟩
  | _ => exact ⟨rfl, rfl, rfl, rfl⟩

/-- A fusion is wanted just when it is not paused and somebody listens. -/
theorem wanted_iff : h.wanted = true ↔ h.paused = false ∧ h.audience ≠ [] := by
  simp [wanted]

/-- Where nobody stops wanting the fusion to work, the balance is kept. -/
theorem Balanced.of_wanted (hb : Balanced h) (ha : active (n :: h) = active h)
    (ho : overtaken (n :: h) = (overtaken h && !wanted (n :: h)))
    (hw : wanted h = true → wanted (n :: h) = true) : Balanced (n :: h) := by
  rw [Balanced, ho, hb, ha]
  cases hh : wanted h with
  | true => simp [hw hh]
  | false => simp

/-- Where the fusion is not at work, the balance is kept by anything that does not make it
work. -/
theorem Balanced.of_idle (hb : Balanced h) (idle : active h = false)
    (ha : active (n :: h) = active h)
    (ho : overtaken (n :: h) = (overtaken h && !wanted (n :: h))) : Balanced (n :: h) := by
  rw [Balanced, ho, hb, ha, idle]
  rfl

end History

/-- **What the history tells of a fusion at all times**, given whether it is there. -/
structure Standing (there : Bool) (h : History) : Prop where
  /-- If it is at work and nobody wants it to be, it was overtaken. -/
  balanced : h.Balanced
  /-- Only a fusion that is there has listeners. -/
  peopled : h.audience ≠ [] → there = true
  /-- Only a fusion that is there works. -/
  atWork : h.active = true → there = true

namespace Standing

variable {there : Bool} {h h' : History} {n : Note}

/-- What is still leaves the history telling what it should. -/
theorem still (s : Standing there h) (hn : n.entry.isStill = true) : Standing there (n :: h) := by
  obtain ⟨hp, hl, ha, ho⟩ := History.wanted_of_isStill (h := h) hn
  have hw : History.wanted (n :: h) = h.wanted := by rw [History.wanted, hp, hl, History.wanted]
  exact ⟨s.balanced.of_wanted ha ho fun w => hw.trans w, hl ▸ s.peopled, ha ▸ s.atWork⟩

/-- So does any number of such entries. -/
theorem since (s : Standing there h) (hh : h.Since Entry.isStill h') : Standing there h' :=
  hh.keeps s fun _ _ hn s => s.still hn

end Standing

/-- Whoever is served stays so as long as all is still. -/
theorem History.Served.still {h : History} {n : Note} (s : h.Served)
    (hn : n.entry.isStill = true) : History.Served (n :: h) := by
  obtain ⟨hp, hl, ha, -⟩ := wanted_of_isStill (h := h) hn
  intro w
  rw [wanted, hp, hl] at w
  rw [ha]
  exact s w

theorem History.Served.since {h h' : History} (s : h.Served)
    (hh : h.Since Entry.isStill h') : h'.Served :=
  hh.keeps s fun _ _ hn s => s.still hn

/-- A listener may leave as long as others remain, or the fusion is not at work. -/
theorem Standing.left {there : Bool} {h : History} {time : Number} {l : Listener}
    (s : Standing there h)
    (hl : History.audience (⟨time, .turned (.left l)⟩ :: h) ≠ [] ∨ h.active = false) :
    Standing there (⟨time, .turned (.left l)⟩ :: h) := by
  refine ⟨?_, fun remain => s.peopled fun nobody => remain ?_, s.atWork⟩
  · rcases hl with remain | idle
    · refine s.balanced.of_wanted rfl rfl fun w => ?_
      exact History.wanted_iff.mpr ⟨(History.wanted_iff.mp w).1, remain⟩
    · exact s.balanced.of_idle idle rfl rfl
  · rw [History.audience, nobody]
    rfl

/-- Nobody is served worse when somebody else leaves. -/
theorem History.Served.left {h : History} {time : Number} {l : Listener} (s : h.Served) :
    History.Served (⟨time, .turned (.left l)⟩ :: h) := by
  intro w
  obtain ⟨unpaused, remain⟩ := wanted_iff.mp w
  refine s (wanted_iff.mpr ⟨unpaused, fun nobody => remain ?_⟩)
  rw [audience, nobody]
  rfl

/-- **What holds of a fusion at all times.** -/
structure Settled (v : View) : Prop where
  /-- Its memory is faithful. -/
  faithful : Faithful v
  /-- The history tells what it should. -/
  standing : Standing v.primaryThere v.history

/-- **What holds of a later view if the earlier one was settled.** -/
structure Carried (v v' : View) : Prop where
  /-- The history has grown. -/
  grows : v.history <:+ v'.history
  /-- The primary is as much there as it was. -/
  primary : v'.primaryThere = v.primaryThere
  /-- The later view is settled, too. -/
  settled : Settled v → Settled v'

/-- **Whoever wants the fusion to work still has it at work**, as long as the history is
regular. -/
structure Kept (v v' : View) : Prop extends Carried v v' where
  /-- Whoever wants the fusion to work still has it at work. -/
  served : Settled v → v'.history.Regular → v.history.Served → v'.history.Served

variable {v v' v'' : View}

namespace Carried

theorem refl (v : View) : Carried v v := ⟨List.suffix_rfl, rfl, id⟩

theorem trans (h : Carried v v') (h' : Carried v' v'') : Carried v v'' :=
  ⟨h.grows.trans h'.grows, h'.primary.trans h.primary, h'.settled ∘ h.settled⟩

end Carried

namespace Kept

theorem refl (v : View) : Kept v v := ⟨.refl v, fun _ _ => id⟩

theorem trans (h : Kept v v') (h' : Kept v' v'') : Kept v v'' where
  toCarried := h.toCarried.trans h'.toCarried
  served s r := h'.served (h.settled s) r ∘ h.served s (r.of_suffix h'.grows)

/-- Where only still entries are added, everything is kept. -/
theorem still (h : Adds Entry.isStill v v') (f : Faithful v → Faithful v') : Kept v v' where
  grows := h.history.suffix
  primary := h.primary
  settled s := ⟨f s.faithful, h.primary ▸ s.standing.since h.history⟩
  served _ _ w := w.since h.history

/-! ### Stopping -/

/-- When nobody wants the fusion to work any longer, it stops. -/
theorem standing_tearDown (f : Faithful v)
    (peopled : v.history.audience ≠ [] → v.primaryThere = true)
    (idle : v.history.active = false → Standing v.primaryThere v.history) :
    Standing v.tearDown.primaryThere v.tearDown.history := by
  rw [View.tearDown]
  split
  · exact ⟨rfl, peopled, fun h => absurd h Bool.false_ne_true⟩
  · rename_i inactive
    rw [f.active] at inactive
    exact idle (by simpa using inactive)

/-- Where nobody wants the fusion to work, it may stop. -/
theorem served_tearDown (h : v.history.wanted = false) : v.tearDown.history.Served := by
  rw [View.tearDown]
  split
  · intro w
    exact absurd (h.symm.trans w) Bool.false_ne_true
  · intro w
    exact absurd (h.symm.trans w) Bool.false_ne_true

/-- Whoever pauses a fusion does not want it to work. -/
theorem pause (v : View) : Kept v v.pause := by
  have adds : Plainly v v.pause := .pause v rfl rfl
  refine ⟨⟨adds.history.suffix, adds.primary, fun s => ⟨s.faithful.move (.pause v), ?_⟩⟩, ?_⟩
  -- A fusion that works stops. For one that does not, nothing is lost when it is not wanted.
  · have f : Faithful ((v.turn .paused).change fun f => { f with paused := true }) :=
      { s.faithful with paused := rfl }
    refine standing_tearDown f s.standing.peopled fun idle => ?_
    exact ⟨s.standing.balanced.of_idle idle rfl rfl, s.standing.peopled, s.standing.atWork⟩
  · exact fun _ _ _ => served_tearDown rfl

/-- That a listener left is noted if it was one. -/
theorem history_drop (v : View) (l : Listener) :
    (v.drop l).history = if l ∈ v.fusion.listeners
      then ⟨v.clock.now, .turned (.left l)⟩ :: v.history else v.history := by
  rw [View.drop]
  split <;> rfl

/-- A listener may be lost as long as others remain, or the fusion is not at work. -/
theorem standing_drop (s : Settled v) {l : Listener}
    (h : (v.drop l).history.audience ≠ [] ∨ v.history.active = false) :
    Standing (v.drop l).primaryThere (v.drop l).history := by
  have dropped : Plainly v (v.drop l) := .drop v rfl
  have there : (v.drop l).primaryThere = v.primaryThere := dropped.primary
  rw [there, history_drop] at *
  split at h
  · rename_i member
    rw [if_pos member]
    exact s.standing.left h
  · rename_i absent
    rw [if_neg absent]
    exact s.standing

/-- The last one who leaves does not want the fusion to work any longer. -/
theorem leave (v : View) (l : Listener) : Kept v (v.leave l) := by
  have adds : Plainly v (v.leave l) := .leave v rfl rfl
  -- Whether the fusion stops is decided by its memory, and what has to hold is about the
  -- history; a settled view has the two agree.
  have empties : ∀ s : Settled v, (v.drop l).fusion.listeners.isEmpty = true →
      (v.drop l).history.audience = [] := fun s h =>
    (s.faithful.drop l).listeners.symm.trans (List.isEmpty_iff.mp h)
  refine ⟨⟨adds.history.suffix, adds.primary, fun s => ⟨s.faithful.leave l, ?_⟩⟩, fun s _ w => ?_⟩
  · rw [View.leave]
    split
    · rename_i nobody
      refine standing_tearDown (s.faithful.drop l) (fun h => absurd (empties s nobody) h)
        fun idle => standing_drop s (.inr ?_)
      rw [history_drop] at idle
      split at idle <;> exact idle
    · rename_i somebody
      refine standing_drop s (.inl fun h => somebody ?_)
      exact List.isEmpty_iff.mpr ((s.faithful.drop l).listeners.trans h)
  · rw [View.leave]
    split
    · rename_i nobody
      refine served_tearDown ?_
      rw [History.wanted, empties s nobody, List.isEmpty_nil, Bool.not_true, Bool.and_false]
    · rw [history_drop]
      split
      · exact w.left
      · exact w

/-! ### Deeds other than going to work -/

/-- A deed that changes nothing of this. -/
theorem quiet (h : Quietly v v') (f : Faithful v → Faithful v') : Kept v v' :=
  still (h.mono fun _ he => (Bool.and_eq_true_iff.mp he).2) f

/-- **Moves** that go out from the fusion to its sensors. -/
theorem move (h : Move v v') : Kept v v' := by
  rcases h.quiet_or with hq | rfl | ⟨l, rfl⟩
  · exact quiet hq (·.move h)
  · exact pause v
  · exact leave v l

/-- What a sensor says makes no difference to who is wanted. -/
theorem taking (h : Taking v v') : Kept v v' := by
  cases h with
  | passOver hh => exact quiet (.heard hh) (·.heard hh)
  | @accept r _ u hh news =>
    refine (quiet (.heard hh) (·.heard hh)).trans (still ?_ (·.accept r))
    rw [View.accept]
    split <;> exact .one rfl rfl rfl rfl

/-- A broadcast makes no difference either. -/
theorem telling (h : Telling v v') : Kept v v' := by
  refine still ?_ (·.deed (.telling h))
  cases h <;> exact .one rfl rfl rfl rfl

theorem ended (v : View) (near : Option Bool) : Kept v (v.close near) := by
  have taken : Kept v (v.take near).stopTimer := still (.one rfl rfl rfl rfl) fun f => { f with }
  exact (taken.trans (leave _ .probe)).trans (still (.none rfl rfl rfl) fun f => { f with })

/-- The probe may answer those who wait. -/
theorem giving (h : Giving v v') : Kept v v' := by
  cases h with
  | reply | balk => exact still (.one rfl rfl rfl rfl) fun f => { f with }
  | close hc =>
    cases hc with
    | reading => exact ended v _
    | @expiry t =>
      have struck : Kept v (v.giveUp t) := still (.none rfl rfl rfl) fun f => { f with }
      exact struck.trans (ended _ none)
    | decline timeout =>
      have asked : Kept v (v.ask timeout) := still (.one rfl rfl rfl rfl) fun f => { f with }
      exact asked.trans (still (.one rfl rfl rfl rfl) fun f => { f with })

end Kept

/-! ### Going to work -/

namespace Carried

/-- More people may want the fusion to work, if it is there. -/
theorem gain {n : Note} (hh : v'.history = n :: v.history)
    (hp : v'.primaryThere = v.primaryThere) (f : Faithful v → Faithful v')
    (ha : History.active (n :: v.history) = v.history.active)
    (ho : History.overtaken (n :: v.history)
      = (v.history.overtaken && !History.wanted (n :: v.history)))
    (hw : v.history.wanted = true → History.wanted (n :: v.history) = true)
    (hl : (v.history.audience ≠ [] → v.primaryThere = true) →
      History.audience (n :: v.history) ≠ [] → v.primaryThere = true) : Carried v v' := by
  refine ⟨hh ▸ List.suffix_cons _ _, hp, fun s => ⟨f s.faithful, ?_⟩⟩
  rw [hh, hp]
  exact ⟨s.standing.balanced.of_wanted ha ho hw, hl s.standing.peopled, ha ▸ s.standing.atWork⟩

/-- Whoever joins a fusion that is there may want it to work. -/
theorem join (v : View) (l : Listener) (there : v.primaryThere = true) :
    Carried v (v.join l) := by
  have f : Faithful v → Faithful (v.join l) := (·.join l)
  rw [View.join] at f ⊢
  split at f
  · rename_i member
    rw [if_pos member]
    exact refl v
  · rename_i absent
    rw [if_neg absent]
    refine gain rfl rfl f rfl rfl (fun w => ?_) fun _ _ => there
    obtain ⟨unpaused, -⟩ := History.wanted_iff.mp w
    exact History.wanted_iff.mpr ⟨unpaused, by simp [History.audience]⟩

/-- A fusion may be about to go to work. -/
theorem rise (h : Rise v v') : Carried v v' := by
  cases h with
  | join name there => exact join v (.named name) there
  | resume =>
    refine gain rfl rfl (fun f => { f with paused := rfl }) rfl rfl (fun w => ?_) id
    exact History.wanted_iff.mpr ⟨rfl, (History.wanted_iff.mp w).2⟩
  | @begin timeout c there =>
    have opened : Kept v (v.openCheck timeout c) :=
      .still (.one rfl rfl rfl rfl) fun f => { f with }
    exact opened.toCarried.trans (join _ .probe there)

/-- A fusion goes to work, wanted or not. -/
theorem activate (v : View) (there : v.primaryThere = true) : Carried v v.activate where
  grows := List.suffix_cons _ _
  primary := rfl
  settled s :=
    ⟨{ s.faithful with active := rfl },
      ⟨(Bool.true_and _).symm, s.standing.peopled, fun _ => there⟩⟩

end Carried

variable {b : Bench}

/-- Being carried on is steady. -/
theorem steady_carried : Steady Carried := ⟨Carried.refl, .trans, fun h => (Kept.move h).toCarried⟩

/-- So is being kept at work. -/
theorem steady_kept : Steady Kept := ⟨Kept.refl, .trans, .move⟩

/-- What respects the stronger relation respects the weaker one. -/
theorem Leads.carried {act : Act α} {u : View} (h : Leads Kept u act b) : Leads Carried u act b :=
  ⟨h.wired, h.grows, h.related.toCarried⟩

/-- **Whoever comes to want the fusion to work has it at work in the end**, or the history
is not regular. -/
theorem leads_activate {depth : Nat} {v : View} (C : Reacts Kept (react depth)) (w : Wired b)
    (h : OnThread b) (r : Rise v b.view) : Leads Kept v (Fusion.activate (react depth)) b := by
  have carried : Carried v b.view := .rise r
  cases idle : !b.fusion.active && !b.fusion.paused && !b.fusion.listeners.isEmpty with
  | false =>
    -- The fusion does nothing, since it is at work already or nobody wants it to be.
    refine .ends (ends_activate_of_not _ h idle) w ⟨carried, fun s _ _ wanted => ?_⟩
    have f := (carried.settled s).faithful
    obtain ⟨unpaused, somebody⟩ := History.wanted_iff.mp wanted
    have unpaused : b.fusion.paused = false := f.paused.trans unpaused
    have somebody : b.fusion.listeners ≠ [] := fun nobody => somebody (f.listeners ▸ nobody)
    have active : b.fusion.active = true := by simpa [unpaused, somebody] using idle
    exact f.active ▸ active
  | true =>
    refine .passes (passes_activate _ h idle) w fun b₁ hv₁ _ w₁ => ?_
    have C' : Reacts Carried (react depth) := fun c b w => (C c b w).carried
    obtain ⟨w₂, grows, roused⟩ : Leads Carried v (Fusion.rouse (react depth)) b₁ :=
      steady_carried.leads (steady_carried.keeps_rouse C') w₁ (hv₁ ▸ carried)
    have sure : SureOn (Fusion.rouse (react depth)) b₁ := sure_rouse b₁ w₁
    have fails := sure.fails
    rcases e : exec (Fusion.rouse (react depth)) b₁ with ⟨fault | _, b₂⟩
    · -- Rousing the sensors is sure, so if it fails the history is not regular.
      simp only [after, e] at w₂ grows roused fails
      refine .of_exec (exec_bind_of_error e) w₂ grows ⟨roused, fun _ regular => ?_⟩
      exact absurd regular (fails fault rfl)
    · -- Whatever was reported from inside that, and whoever has paused the fusion or left it
      -- meanwhile, it goes to work now.
      simp only [after, e] at w₂ grows roused
      obtain ⟨b₃, e₃, hv₃, s₃⟩ := ends_active (b := b₂)
      have there : Settled v → b₂.view.primaryThere = true := fun s => by
        have somebody : b.fusion.listeners ≠ [] := by
          simpa using (Bool.and_eq_true_iff.mp idle).2
        rw [roused.primary, ← carried.primary]
        exact (carried.settled s).standing.peopled fun nobody =>
          somebody ((carried.settled s).faithful.listeners.trans nobody)
      refine .of_exec ((exec_bind_of_ok e).trans e₃) (s₃.wired w₂) (grows.trans s₃.grows) ?_
      rw [hv₃]
      refine ⟨⟨roused.grows.trans (List.suffix_cons _ _), roused.primary, fun s => ?_⟩, ?_⟩
      · exact (Carried.activate b₂.view (there s)).settled (roused.settled s)
      · exact fun _ _ _ _ => rfl

/-- **Working for those who want it is a law.** -/
theorem law_kept : Law Kept :=
  { steady_kept with
    rise := leads_activate
    accept := fun C w ht h => steady_kept.leads_accept w ht h .taking
      (steady_kept.keeps_broadcast C .telling true)
    alert := fun C => steady_kept.keeps_broadcast C .telling false
    answer := fun C w h => steady_kept.leads_answers C .giving w h }

/-- A fusion that is set up is settled. -/
theorem Pristine.settled (p : Pristine v) : Settled v := by
  refine ⟨p.faithful, ?_⟩
  rw [p.history]
  exact ⟨rfl, fun h => absurd rfl h, fun h => absurd h Bool.false_ne_true⟩

/-- **What holds of a fusion at all times holds wherever one gets.** -/
theorem Reached.settled (h : Reached b) : Settled b.view := by
  obtain ⟨-, v, pristine, kept⟩ := law_kept.holds h
  exact kept.settled pristine.settled

/-- A fusion at work has its primary. -/
theorem Reached.primary_available (h : Reached b) (active : b.fusion.active = true) :
    b.sensors.primary.available = true :=
  h.settled.standing.atWork (h.settled.faithful.active.symm.trans active)

/-- Whether anybody wants the fusion to work can be told from its memory. -/
theorem Faithful.wanted_iff (f : Faithful v) :
    v.history.wanted = true ↔ v.fusion.paused = false ∧ v.fusion.listeners ≠ [] := by
  rw [History.wanted_iff, f.paused, f.listeners]

/-- **When a fusion is at work.** As long as no call comes from another thread and the
clock shows finite times, a fusion is at work just when it is there, is not paused and has
listeners – if and only if it has not been overtaken. -/
theorem active_iff_not_overtaken (h : Reached b) (regular : b.history.Regular) :
    (b.fusion.active = true ↔ b.sensors.primary.available = true ∧ b.fusion.paused = false
        ∧ b.fusion.listeners ≠ [])
      ↔ b.history.overtaken = false := by
  obtain ⟨-, v, pristine, kept⟩ := law_kept.holds h
  have s : Settled b.view := kept.settled pristine.settled
  have served : b.history.Served := kept.served pristine.settled regular (by
    rw [pristine.history]
    exact fun w => absurd w Bool.false_ne_true)
  have active : b.fusion.active = b.history.active := s.faithful.active
  have wanted : b.history.wanted = true ↔ b.fusion.paused = false ∧ b.fusion.listeners ≠ [] :=
    s.faithful.wanted_iff
  have balanced : b.history.overtaken = (b.history.active && !b.history.wanted) :=
    s.standing.balanced
  rw [active, ← wanted, balanced]
  constructor
  · intro works
    cases ha : b.history.active with
    | false => rfl
    | true => rw [(works.mp ha).2]; rfl
  · intro calm
    refine ⟨fun ha => ⟨s.standing.atWork ha, ?_⟩, fun ⟨_, w⟩ => served w⟩
    simpa [ha] using calm

/-- A session in which a fusion is overtaken: its primary reports while it is switched on,
the reading passes straight through to the listener, and the listener pauses the fusion. -/
def overtakenSession : Bench :=
  (Scenario.ofSensors (.standIn true [some true] []) .absent [("a", [[.pause]])]).after
    [.join "a"]

/-- **A fusion can be at work though it is paused.** -/
theorem overtaken_session :
    Reached overtakenSession ∧ overtakenSession.history.Regular
      ∧ overtakenSession.history.overtaken = true
      ∧ ¬ (overtakenSession.fusion.active = true ↔
        overtakenSession.sensors.primary.available = true
          ∧ overtakenSession.fusion.paused = false ∧ overtakenSession.fusion.listeners ≠ []) := by
  refine ⟨Scenario.reached_after rfl ?_ _, ?_, ?_, ?_⟩
  all_goals decide +kernel

/-- A session in which a fusion goes to work in peace, and stays at work although the
listener leaves and comes back while it is told something. -/
def peacefulSession : Bench :=
  (Scenario.ofSensors (.standIn true [] []) .absent [("a", [[.leave "a", .join "a"]])]).after
    [.join "a", .event .primary true none]

/-- That fusion is at work just when somebody wants it to be. -/
theorem active_iff_not_overtaken_session :
    peacefulSession.history.overtaken = false
      ∧ (peacefulSession.fusion.active = true ↔
        peacefulSession.sensors.primary.available = true
          ∧ peacefulSession.fusion.paused = false ∧ peacefulSession.fusion.listeners ≠ []) := by
  have reached : Reached peacefulSession := Scenario.reached_after rfl (by decide +kernel) _
  have regular : peacefulSession.history.Regular := by decide +kernel
  have calm : peacefulSession.history.overtaken = false := by decide +kernel
  exact ⟨calm, (active_iff_not_overtaken reached regular).mpr calm⟩

end Proximity
