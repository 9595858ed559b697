import Proximity.Proofs.Activation
import Proximity.Proofs.Upkeep

/-!
# Far is said at once

Outside safe mode a fusion does not wait for its secondary to say that something went
away: once the primary says so, the fused reading is far. In safe mode the primary's far is
withheld until the secondary answers. When the fusion leaves safe mode before that, nobody
comes back to it: the secondary is switched off, and the primary, which is asked only for
news, has none. The fused reading then stays *latched* (`Proximity.History.latched`) until
the primary reports something else.

The main statement is `Proximity.near_eq_far_iff_not_latched`: outside safe mode, while the
primary's last word is far, nothing is near if and only if the fused reading is not
latched. That it can be latched, with something near for ever, is
`Proximity.latched_session`.

It is proved of histories (`Proximity.History.Eager`), deed by deed. Most entries have
nothing to do with it (`Proximity.Entry.isIndifferent`); what counts are the news of the
primary, the readings that are accepted, and the changes of the mode.
-/

namespace Proximity

namespace History

/-- **Whether the fused reading is latched**: the fusion left safe mode when the primary's
last word was far and nothing far had been fused, and the primary has said nothing else
since. -/
def latched : History → Bool
  | [] => false
  | n :: earlier =>
    match n.entry with
    | .turned (.mode on) =>
      !on && primary earlier == some false && (fused earlier).map (·.near) != some false
    | .turned (.sensed .primary r) => latched earlier && primary earlier == some r.near
    | .turned .tornDown => false
    | _ => latched earlier

/-- **Outside safe mode, what the primary's far comes to**: the fused reading is far, unless
it is latched. -/
def Eager (h : History) : Prop :=
  h.safe = false → h.primary = some false →
    (h.fused.map (·.near) = some false ↔ h.latched = false)

end History

/-- Whether an entry is about nothing that makes the fused reading far, or calls for it to
be. -/
def Entry.isIndifferent : Entry → Bool
  | .turned (.mode _) | .turned (.sensed .primary _) | .turned (.fused _) => false
  | _ => true

namespace History.Eager

variable {h : History} {n : Note} {time : Number} {r : Reading}

/-- In safe mode nothing is demanded. -/
theorem of_safe (safe : h.safe = true) : Eager h := fun guarded =>
  absurd (safe.symm.trans guarded) (Ne.symm Bool.false_ne_true)

/-- As long as the primary does not say far, nothing is demanded. -/
theorem of_primary (p : h.primary ≠ some false) : Eager h := fun _ away => absurd away p

theorem indifferent (e : h.Eager) (hn : n.entry.isIndifferent = true) : Eager (n :: h) := by
  rcases n with ⟨time, entry⟩
  cases entry with
  | turned t =>
    cases t with
    | mode | fused => cases hn
    | sensed role =>
      cases role with
      | primary => cases hn
      | secondary | sole => exact e
    | tornDown => exact of_primary (by simp [primary])
    | _ => exact e
  | _ => exact e

/-- When the primary says far again, nothing changes. -/
theorem again (e : h.Eager) (old : h.primary = some r.near) :
    Eager (⟨time, .turned (.sensed .primary r)⟩ :: h) := by
  have latched : latched (⟨time, .turned (.sensed .primary r)⟩ :: h) = h.latched := by
    simp [History.latched, old]
  intro guarded away
  rw [latched]
  exact e guarded (old.trans away)

/-- What is news of the primary is not latched. -/
theorem not_latched_of_news (news : h.primary ≠ some r.near) :
    latched (⟨time, .turned (.sensed .primary r)⟩ :: h) = false := by
  simp [latched, news]

/-- When the mode changes, what is latched is settled anew. -/
theorem mode (h : History) (time : Number) (on : Bool) :
    Eager (⟨time, .turned (.mode on)⟩ :: h) := by
  cases on with
  | true => exact of_safe rfl
  | false =>
    intro _ away
    have away : h.primary = some false := away
    have fused : fused (⟨time, .turned (.mode false)⟩ :: h) = h.fused := rfl
    rw [fused]
    simp [latched, away]

end History.Eager

/-- **If there is a secondary, far is said at once outside safe mode.** -/
def Prompt (v : View) : Prop := v.secondaryThere = true → v.history.Eager

namespace Prompt

variable {v v' : View}

theorem indifferent (h : Prompt v) (hk : Adds Entry.isIndifferent v v') : Prompt v' := fun there =>
  hk.history.keeps (h (hk.secondary.symm.trans there)) fun _ _ hn e => e.indifferent hn

/-- One entry is added that is accounted for. -/
theorem one (h : Prompt v) {n : Note} (hh : v'.history = n :: v.history)
    (hs : v'.secondaryThere = v.secondaryThere)
    (e : v.history.Eager → History.Eager (n :: v.history)) : Prompt v' :=
  fun there => hh ▸ e (h (hs.symm.trans there))

/-- **Saying far at once is kept up.** -/
theorem upkeep : Upkeep Prompt where
  idles idle h := h.indifferent <| idle.spares.toAdds.mono fun e he => by
    cases e with
    | turned t => cases t <;> first | rfl | cases he
    | _ => rfl
  tearDown h := h.indifferent (.tearDown _ rfl)
  setTimer _ h := h.indifferent (.none rfl rfl rfl)
  stopTimer h := h.indifferent (.none rfl rfl rfl)
  giveUp _ _ h := h.indifferent (.none rfl rfl rfl)

end Prompt

/-- **What the primary's far comes to at all times.** -/
structure Forthright (v : View) : Prop where
  /-- The memory of the fusion is faithful. -/
  faithful : Faithful v
  /-- If there is a secondary, far is said at once outside safe mode. -/
  prompt : Prompt v

namespace Forthright

variable {v v' : View}

theorem move (hm : Move v v') (h : Forthright v) : Prompt v' := by
  have p := h.prompt
  have U := Prompt.upkeep
  cases hm with
  | again r old => exact p.one rfl rfl (·.again (h.faithful.primary.symm.trans (not_not.mp old)))
  | consult r _ safe | await r _ safe =>
    exact p.one rfl rfl fun _ => .of_safe (h.faithful.safe.symm.trans safe)
  | verify r _ _ _ near =>
    refine p.one rfl rfl fun _ => .of_primary ?_
    simp [History.primary, near]
  | mode on =>
    cases on with
    | true => exact p.one rfl rfl fun _ => .mode _ _ true
    | false => exact p.one rfl rfl fun _ => .mode _ _ false
  | pause => exact U.pause p
  | leave name => exact U.leave p (.named name)
  | refuse he => exact U.fatal p he
  | strand timeout _ _ _ he => exact U.fatal (U.openCheck p timeout _) he
  | abandon near he => exact U.fatal (U.taken p near) he
  | forsake ht task he => exact U.fatal (U.taken (U.giveUp ht task p) none) he
  | @lapse t _ _ _ he =>
    have struck : Prompt (v.strike t) := p.indifferent (.none rfl rfl rfl)
    exact U.fatal struck he
  | overhear r => exact p.indifferent (.second v rfl)
  | elapse | tag | link => exact p.indifferent (.none rfl rfl rfl)
  | ready | sample | disown | enqueue | recheck => exact p.indifferent (.one rfl rfl rfl rfl)

/-- **What counts and what the fused reading is to become.** When the primary says that
something went away, that is news, and nothing is latched. What the secondary says counts
only in safe mode or while the primary is near. -/
theorem heard {r : Reading} (hh : Heard r v v') (h : Forthright v)
    (there : v.secondaryThere = true) :
    r.near = false ∧ v'.history.latched = false ∨ v'.history.safe = true
      ∨ v'.history.primary = some true := by
  cases hh with
  | alone _ absent => exact absurd (there.symm.trans absent) (Ne.symm Bool.false_ne_true)
  | gone news _ _ away =>
    exact .inl ⟨away, History.Eager.not_latched_of_news fun old =>
      news (h.faithful.primary.trans old)⟩
  | counted counts =>
    have kept : (v.second r).history.safe = v.history.safe
        ∧ (v.second r).history.primary = v.history.primary := by
      rw [View.second]
      split <;> exact ⟨rfl, rfl⟩
    rw [kept.1, kept.2]
    exact .inr (counts.imp (h.faithful.safe ▸ ·) (h.faithful.primary.symm.trans ·))

/-- A reading that counts is taken. -/
theorem taking (ht : Taking v v') (h : Forthright v) : Prompt v' := by
  have f := h.faithful.deed (.taking ht)
  cases ht with
  | @passOver r _ _ hh same =>
    have adds : Quietly v v' := .heard hh
    intro there
    rcases h.heard hh (adds.secondary.symm.trans there) with ⟨away, free⟩ | safe | near
    · refine fun _ _ => iff_of_true ?_ free
      exact (congrArg _ f.fused).symm.trans (same.trans (congrArg some away))
    · exact .of_safe safe
    · exact .of_primary (by simp [near])
  | @accept r _ u hh =>
    have adds : Quietly v u := .heard hh
    intro there
    rw [u.secondaryThere_accept, adds.secondary] at there
    rw [u.history_accept]
    rcases h.heard hh there with ⟨away, free⟩ | safe | near
    · exact fun _ _ => iff_of_true (congrArg some away) free
    · exact .of_safe safe
    · exact .of_primary fun away => by cases near.symm.trans away

theorem deed (hd : Deed v v') (h : Forthright v) : Forthright v' where
  faithful := h.faithful.deed hd
  prompt := Prompt.upkeep.deed h.prompt hd (h.move ·) (h.taking ·)
    (h.prompt.indifferent (.one rfl rfl rfl rfl))

end Forthright

variable {b : Bench}

theorem Reached.forthright (h : Reached b) : Forthright b.view := by
  refine (Law.ofInvariant Forthright.deed).invariant (fun v p => ⟨p.faithful, fun _ => ?_⟩) h
  rw [p.history]
  exact .of_primary nofun

/-- **Far is said at once.** When a fusion that has a secondary is at work outside safe mode
and the primary's last word is far, nothing is near – if and only if the fused reading is
not latched. -/
theorem near_eq_far_iff_not_latched (h : Reached b)
    (there : b.sensors.secondary.available = true) (active : b.fusion.active = true)
    (guarded : b.fusion.safe = false) (away : b.history.primary = some false) :
    Fusion.near b = some false ↔ b.history.latched = false := by
  have f := h.faithful
  have near : Fusion.near b = b.history.fused.map (·.near) := by
    rw [Fusion.near, if_pos (h.primary_available active)]
    exact congrArg _ f.fused
  rw [near]
  exact h.forthright.prompt there (f.safe.symm.trans guarded) away

/-- A session in which the fused reading is latched: both sensors say in safe mode that
something is near, the primary says that it went away, and safe mode is left before the
secondary has said so, too. The primary's saying it again changes nothing. -/
def latchedSession : Bench :=
  (Scenario.ofSensors (.standIn true [] []) (.standIn true [] []) []).after
    [.join "a", .safe true, .event .primary true none, .event .secondary true none,
      .event .primary false none, .safe false, .event .primary false none]

/-- **Near can stay latched.** -/
theorem latched_session :
    Reached latchedSession ∧ latchedSession.sensors.secondary.available = true
      ∧ latchedSession.fusion.active = true ∧ latchedSession.fusion.safe = false
      ∧ latchedSession.history.primary = some false ∧ latchedSession.history.latched = true
      ∧ Fusion.near latchedSession = some true := by
  refine ⟨Scenario.reached_after rfl ?_ _, ?_, ?_, ?_, ?_, ?_, ?_⟩
  all_goals decide +kernel

/-- A session in which safe mode is left after the secondary has said that something went
away. -/
def answeredFarSession : Bench :=
  (Scenario.ofSensors (.standIn true [] []) (.standIn true [] []) []).after
    [.join "a", .safe true, .event .primary true none, .event .secondary true none,
      .event .primary false none, .event .secondary false none, .safe false]

theorem near_eq_far_iff_not_latched_session :
    answeredFarSession.history.latched = false
      ∧ Fusion.near answeredFarSession = some false := by
  have reached : Reached answeredFarSession := Scenario.reached_after rfl (by decide +kernel) _
  have free : answeredFarSession.history.latched = false := by decide +kernel
  exact ⟨free, (near_eq_far_iff_not_latched reached (by decide +kernel) (by decide +kernel)
    (by decide +kernel) (by decide +kernel)).mpr free⟩

end Proximity
