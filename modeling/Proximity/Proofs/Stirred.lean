import Proximity.Proofs.Recheck

/-!
# What stirs a fusion

A fusion that is not at work should remember no reading. But its sensors have it as a listener
for good, and it heeds what they say whether it is at work or not: whatever the primary says, and
in safe mode what the secondary says while it is not paused. So it can be *stirred*
(`Proximity.History.stirred`) before it goes to work again, and then has something to remember.

The main result is `Proximity.Reached.blank_iff`: a fusion remembers nothing at all, neither a
reading nor a recheck, if and only if it has not been stirred since it was last torn down.
-/

namespace Proximity

/-- **Whether a fusion heeds what an entry tells**: a reading of the primary, or one of the
secondary in safe mode while it is not paused. -/
def Fusion.heeds (f : Fusion) : Entry → Bool
  | .turned (.sensed .primary _) => true
  | .turned (.sensed .secondary _) => f.safe && !f.paused
  | _ => false

/-- **Whether a fusion remembers nothing**: no reading, and no recheck. -/
def Fusion.Blank (f : Fusion) : Prop :=
  f.lastPrimary = none ∧ f.lastFused = none ∧ f.pendingRecheck = none

namespace History

/-- **Whether the fusion is stirred**: a reading has come that it heeds, and nothing was torn
down since. -/
def stirred : History → Bool
  | [] => false
  | n :: earlier =>
    match n.entry with
    | .turned (.sensed .primary _) => true
    | .turned (.sensed .secondary _) => stirred earlier || safe earlier && !paused earlier
    | .turned .tornDown => false
    | _ => stirred earlier

/-- What is routine changes neither what stirs the fusion nor what it has heard. -/
theorem stirred_cons_of_isRoutine {n : Note} (hn : n.entry.isRoutine = true) (h : History) :
    stirred (n :: h) = stirred h ∧ primary (n :: h) = primary h ∧ fused (n :: h) = fused h := by
  rcases n with ⟨time, entry⟩
  cases entry with
  | turned t =>
    cases t with
    | sensed | fused | tornDown => cases hn
    | _ => exact ⟨rfl, rfl, rfl⟩
  | _ => exact ⟨rfl, rfl, rfl⟩

end History

/-- **A fusion remembers something just when it is stirred.** -/
structure Stirs (v : View) : Prop where
  /-- If it is not, it remembers nothing. -/
  blank : v.history.stirred = false →
    v.history.primary = none ∧ v.history.fused = none ∧ v.fusion.pendingRecheck = none
  /-- If it is, it has heard the primary, or a reading was fused. -/
  heard : v.history.stirred = true → v.history.primary ≠ none ∨ v.history.fused ≠ none

namespace Stirs

variable {v v' : View}

/-- Nothing is heard, and no recheck is put off. -/
theorem same (h : Stirs v) (stirred : v'.history.stirred = v.history.stirred)
    (primary : v'.history.primary = v.history.primary)
    (fused : v'.history.fused = v.history.fused)
    (recheck : v.fusion.pendingRecheck = none → v'.fusion.pendingRecheck = none) : Stirs v' := by
  constructor
  · rw [stirred, primary, fused]
    exact fun calm => ⟨(h.blank calm).1, (h.blank calm).2.1, recheck (h.blank calm).2.2⟩
  · rw [stirred, primary, fused]
    exact h.heard

/-- The primary has been heard. -/
theorem of_primary (stirred : v.history.stirred = true) (primary : v.history.primary ≠ none) :
    Stirs v :=
  ⟨fun calm => absurd (stirred.symm.trans calm) (Ne.symm Bool.false_ne_true),
    fun _ => .inl primary⟩

theorem tearDown (h : Stirs v) : Stirs v.tearDown := by
  rw [View.tearDown]
  split
  · exact ⟨fun _ => ⟨rfl, rfl, rfl⟩, fun stirred => absurd stirred Bool.false_ne_true⟩
  · exact h

/-- **Remembering what it heard is kept up.** -/
theorem upkeep : Upkeep Stirs where
  idles {v v'} idle h := by
    have told := idle.history.keeps (P := fun g => g.stirred = v.history.stirred
      ∧ g.primary = v.history.primary ∧ g.fused = v.history.fused) ⟨rfl, rfl, rfl⟩
      fun n g hn same => by
        obtain ⟨stirred, primary, fused⟩ := History.stirred_cons_of_isRoutine hn g
        exact ⟨stirred.trans same.1, primary.trans same.2.1, fused.trans same.2.2⟩
    have recheck : v'.fusion.pendingRecheck = v.fusion.pendingRecheck := idle.spares.recheck
    exact h.same told.1 told.2.1 told.2.2 recheck.trans
  tearDown h := h.tearDown
  setTimer _ h := h.same rfl rfl rfl id
  stopTimer h := h.same rfl rfl rfl id
  giveUp _ _ h := h.same rfl rfl rfl id

/-- **The secondary says something that counts.** Outside safe mode that is so only while the
primary is near, which has stirred the fusion before. -/
theorem stirred_second (h : Stirs v) (f : Faithful v) {r : Reading}
    (counts : v.fusion.safe = true ∨ v.primaryNear) :
    (v.second r).history.stirred = (v.history.stirred || v.fusion.safe && !v.fusion.paused)
      ∧ (v.fusion.safe = false → v.history.stirred = true) := by
  constructor
  · have stirred : (v.second r).history.stirred
        = (v.history.stirred || v.history.safe && !v.history.paused) := by
      rw [View.second]
      split <;> rfl
    rw [stirred, f.safe, f.paused]
  · intro guarded
    have near : v.primaryNear := counts.resolve_left (ne_true_of_eq_false guarded)
    refine Bool.not_eq_false _ |>.mp fun calm => ?_
    cases (f.primary.symm.trans near).symm.trans (h.blank calm).1

/-- A paused fusion overhears the secondary. -/
theorem overhear (h : Stirs v) (f : Faithful v) {r : Reading}
    (counts : v.fusion.safe = true ∨ v.primaryNear) (paused : v.fusion.paused = true) :
    Stirs (v.second r) := by
  obtain ⟨stirred, before⟩ := h.stirred_second f (r := r) counts
  rw [paused, Bool.not_true, Bool.and_false, Bool.or_false] at stirred
  rw [View.second] at stirred ⊢
  split
  · rename_i contradicts
    rw [if_pos contradicts] at stirred
    have guarded : v.fusion.safe = false := by simpa using (Bool.and_eq_true_iff.mp contradicts).1
    exact ⟨fun calm => absurd (before guarded) (ne_true_of_eq_false (stirred.symm.trans calm)),
      fun _ => h.heard (before guarded)⟩
  · rename_i agrees
    rw [if_neg agrees] at stirred
    exact h.same stirred rfl rfl id

theorem move (hm : Move v v') (h : Stirs v) (f : Faithful v) : Stirs v' := by
  cases hm with
  | again | consult | await | verify => exact of_primary rfl nofun
  | disown r guarded =>
    refine h.same ?_ rfl rfl fun _ => rfl
    have unheeded : (v.history.safe && !v.history.paused) = false := by
      rw [← f.safe, guarded, Bool.false_and]
    exact (congrArg (v.history.stirred || ·) unheeded).trans (Bool.or_false _)
  | overhear r counts paused => exact h.overhear f counts paused
  | pause => exact upkeep.pause h
  | leave name => exact upkeep.leave h (.named name)
  | recheck =>
    refine h.same rfl rfl rfl fun none => ?_
    rw [View.recheck]
    split
    · rfl
    · exact none
  | mode on => cases on <;> exact h.same rfl rfl rfl id
  | refuse he => exact upkeep.fatal h he
  | lapse _ _ he => exact upkeep.fatal (v := v.strike _) (h.same rfl rfl rfl id) he
  | strand timeout _ _ _ he => exact upkeep.fatal (upkeep.openCheck h timeout _) he
  | abandon near he => exact upkeep.fatal (upkeep.taken h near) he
  | forsake ht task he => exact upkeep.fatal (upkeep.taken (upkeep.giveUp ht task h) none) he
  | sample | elapse | tag | ready | link | enqueue => exact h.same rfl rfl rfl id

/-- A reading that counts is taken. -/
theorem taking (ht : Taking v v') (h : Stirs v) (f : Faithful v) : Stirs v' := by
  -- Whatever counts has stirred the fusion.
  have stirred : ∀ {r u}, Heard r v u → u.history.stirred = true := fun {r u} hh => by
    cases hh with
    | alone | gone => rfl
    | counted counts unpaused =>
      obtain ⟨stirred, before⟩ := h.stirred_second f (r := r) counts
      rw [stirred, unpaused]
      cases safe : v.fusion.safe with
      | true => exact Bool.or_true _
      | false => rw [before safe, Bool.true_or]
  have f' := f.deed (.taking ht)
  cases ht with
  | @passOver r _ _ hh same =>
    refine ⟨fun calm => absurd (stirred hh) (ne_true_of_eq_false calm), fun _ => .inr ?_⟩
    rw [← f'.fused]
    exact fun none => by rw [none] at same; cases same
  | @accept r _ u hh =>
    have history := u.history_accept r
    constructor
    · rw [history]
      exact fun calm => absurd (stirred hh) (ne_true_of_eq_false calm)
    · rw [history]
      exact fun _ => .inr nofun

theorem deed (hd : Deed v v') (h : Stirs v) (f : Faithful v) : Stirs v' :=
  upkeep.deed h hd (h.move · f) (h.taking · f) (h.same rfl rfl rfl id)

end Stirs

/-- **The memory of a fusion is faithful, and stirred when it holds something.** -/
structure Mindful (v : View) : Prop where
  /-- The memory of the fusion is faithful. -/
  faithful : Faithful v
  /-- The fusion remembers something just when it is stirred. -/
  stirs : Stirs v

variable {b : Bench}

theorem Reached.mindful (h : Reached b) : Mindful b.view := by
  have deed : ∀ {v v' : View}, Deed v v' → Mindful v → Mindful v' := fun hd m =>
    ⟨m.faithful.deed hd, m.stirs.deed hd m.faithful⟩
  refine (Law.ofInvariant deed).invariant (fun v p => ⟨p.faithful, ?_⟩) h
  obtain ⟨delay, fusion⟩ := p.fusion
  constructor <;> rw [p.history]
  · rw [fusion]
    exact fun _ => ⟨rfl, rfl, rfl⟩
  · nofun

/-- **A fusion remembers nothing unless it is stirred.** -/
theorem Reached.blank_iff (h : Reached b) : b.fusion.Blank ↔ b.history.stirred = false := by
  obtain ⟨f, s⟩ := h.mindful
  have primary : b.fusion.lastPrimary.map (·.near) = b.history.primary := f.primary
  have fused : b.fusion.lastFused = b.history.fused := f.fused
  constructor
  · rintro ⟨noPrimary, noFused, -⟩
    refine Bool.eq_false_iff.mpr fun stirred => ?_
    rcases s.heard stirred with heard | heard
    · exact heard (primary.symm.trans (congrArg _ noPrimary))
    · exact heard (fused.symm.trans noFused)
  · intro calm
    obtain ⟨noPrimary, noFused, idle⟩ := s.blank calm
    exact ⟨Option.map_eq_none_iff.mp (primary.trans noPrimary), fused.trans noFused, idle⟩

end Proximity
