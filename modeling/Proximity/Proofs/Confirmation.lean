import Proximity.Proofs.Reached

/-!
# Near is always confirmed

Where there is a secondary, nothing is ever near because the primary says so. A near
reading that becomes the fused reading is one that the secondary itself has just
delivered, to a fusion that was not paused and was either in safe mode or had heard
last from its primary that something is near (`Proximity.Confirmed`). And listeners
are told only readings that have become the fused reading.

The main statement is `Proximity.near_confirmed`. It is proved of views
(`Proximity.Vetted`), deed by deed: a plain deed has nothing to do with it, so that
what counts is the one deed by which a reading is accepted
(`Proximity.Vetted.accept`) and the two by which one is told.
-/

namespace Proximity

/-- **A reading is confirmed by what came before it was fused**: the secondary had just
delivered it while the fusion was not paused, in safe mode or with the primary near. -/
def Confirmed (r : Reading) (earlier : History) : Prop :=
  ∃ (time : Number) (before : History), earlier = ⟨time, .turned (.sensed .secondary r)⟩ :: before
    ∧ before.paused = false ∧ (before.safe = true ∨ before.primary = some true)

/-- An entry about a reading that listeners are told. -/
def Entry.tells (entry : Entry) (r : Reading) : Prop :=
  (∃ l, entry = .told l r) ∨ ∃ fresh, entry = .turned (.broadcast r fresh)

/-- **What is fused has been confirmed, and what is told has been fused.** -/
structure Vetted (v : View) : Prop where
  /-- The memory of the fusion is faithful. -/
  faithful : Faithful v
  /-- If there is a secondary, a near reading is fused only when it is confirmed. -/
  fused : v.secondaryThere = true → v.history.Always fun n earlier =>
    ∀ r, n.entry = .turned (.fused r) → r.near = true → Confirmed r earlier
  /-- A reading is told only after it was fused. -/
  told : v.history.Always fun n earlier =>
    ∀ r, n.entry.tells r → ∃ m ∈ earlier, m.entry = .turned (.fused r)

/-- What is fused now and was not before has been fused since. -/
theorem History.exists_of_fused_append {later earlier : History} {r : Reading}
    (none : earlier.fused = none) (fused : History.fused (later ++ earlier) = some r) :
    ∃ n ∈ later, n.entry = .turned (.fused r) := by
  induction later with
  | nil => cases none.symm.trans fused
  | cons n later ih =>
    rw [List.cons_append, History.fused] at fused
    split at fused
    · rename_i r' e
      exact ⟨n, List.mem_cons_self, Option.some.inj fused ▸ e⟩
    · cases fused
    · obtain ⟨m, hm, e⟩ := ih fused
      exact ⟨m, List.mem_cons_of_mem n hm, e⟩

/-- The last fused reading is in the history. -/
theorem History.mem_of_fused {h : History} {r : Reading} (hf : h.fused = some r) :
    ∃ n ∈ h, n.entry = .turned (.fused r) :=
  exists_of_fused_append rfl (h.append_nil.symm ▸ hf)

namespace Vetted

variable {v v' : View}

/-- A plain entry is about no reading that is fused. -/
theorem ne_fused_of_isPlain {entry : Entry} (h : entry.isPlain = true) (r : Reading) :
    entry ≠ .turned (.fused r) := by
  rintro rfl
  cases h

theorem not_tells_of_isPlain {entry : Entry} (h : entry.isPlain = true) (r : Reading) :
    ¬ entry.tells r := by
  rintro (⟨l, rfl⟩ | ⟨fresh, rfl⟩) <;> cases h

/-- Plain deeds fuse nothing. -/
theorem plain (h : Vetted v) (hp : Plainly v v') (f : Faithful v') : Vetted v' where
  faithful := f
  fused there := (h.fused (hp.secondary.symm.trans there)).since hp.history
    fun _ _ hn r e => absurd e (ne_fused_of_isPlain hn r)
  told := h.told.since hp.history fun _ _ hn r e => absurd e (not_tells_of_isPlain hn r)

/-- **A near reading that is accepted has just been confirmed**, where there is a
secondary. -/
theorem confirmed (f : Faithful v) {r : Reading} (hh : Heard r v v')
    (there : v'.secondaryThere = true) (near : r.near = true) : Confirmed r v'.history := by
  cases hh with
  | alone news absent =>
    rw [show (v.sense r).secondaryThere = v.secondaryThere from rfl, absent] at there
    cases there
  | gone news safe _ away =>
    rw [near] at away
    cases away
  | counted counts paused =>
    refine ⟨v.clock.now, v.history, ?_, f.paused ▸ paused, ?_⟩
    · rw [View.second]
      split <;> rfl
    · exact counts.imp (fun safe => f.safe ▸ safe) fun primary => f.primary.symm.trans primary

/-- A reading that is heard and accepted has been confirmed. -/
theorem accept (h : Vetted v) {r : Reading} (hh : Heard r v v') (f : Faithful (v'.accept r)) :
    Vetted (v'.accept r) := by
  have h' := h.plain (Quietly.heard hh).plainly (h.faithful.heard hh)
  refine ⟨f, fun secondary => ?_, ?_⟩
  · rw [v'.secondaryThere_accept] at secondary
    rw [v'.history_accept]
    refine .cons (fun r' e near => ?_) (h'.fused secondary)
    cases e
    exact confirmed h.faithful hh secondary near
  · rw [v'.history_accept]
    exact .cons (fun r' e => by rcases e with ⟨l, e⟩ | ⟨fresh, e⟩ <;> cases e) h'.told

/-- A broadcast tells the last fused reading. -/
theorem telling (h : Vetted v) (ht : Telling v v') (f : Faithful v') : Vetted v' := by
  cases ht with
  | hail _ fresh idle last =>
    refine ⟨f, fun there => .cons (fun r' e => by cases e) (h.fused there), ?_⟩
    refine .cons (fun r' e => ?_) h.told
    rcases e with ⟨l, e⟩ | ⟨fresh', e⟩ <;> cases e
    exact History.mem_of_fused (h.faithful.fused.symm.trans last)
  | @tell r fresh l _ begun shows =>
    refine ⟨f, fun there => .cons (fun r' e => by cases e) (h.fused there), ?_⟩
    refine .cons (fun r' e => ?_) h.told
    rcases e with ⟨l, e⟩ | ⟨fresh', e⟩ <;> cases e
    -- The broadcast that has begun is itself an entry that tells, so the reading was fused
    -- before it did.
    obtain ⟨n, hn, e⟩ := begun
    obtain ⟨later, earlier, split⟩ := List.append_of_mem hn
    obtain ⟨m, hm, e'⟩ := h.told later n earlier split r (.inr ⟨fresh, e⟩)
    exact ⟨m, split ▸ List.mem_append_right _ (List.mem_cons_of_mem n hm), e'⟩
  | hush =>
    refine ⟨f, fun there => .cons (fun r' e => by cases e) (h.fused there), ?_⟩
    exact .cons (fun r' e => by rcases e with ⟨l, e⟩ | ⟨fresh, e⟩ <;> cases e) h.told

theorem giving (h : Vetted v) (hg : Giving v v') (f : Faithful v') : Vetted v' := by
  cases hg with
  | close hc => exact h.plain (.close hc) f
  | reply | balk =>
    refine ⟨f, fun there => .cons (fun r' e => by cases e) (h.fused there), ?_⟩
    exact .cons (fun r' e => by rcases e with ⟨l, e⟩ | ⟨fresh, e⟩ <;> cases e) h.told

/-- **Whatever is done, what is fused has been confirmed.** -/
theorem deed (hd : Deed v v') (h : Vetted v) : Vetted v' := by
  have f := h.faithful.deed hd
  cases hd with
  | move hm => exact h.plain (.move hm) f
  | going hg => exact h.plain (.going hg) f
  | taking ht =>
    cases ht with
    | passOver hh => exact h.plain (Quietly.heard hh).plainly f
    | accept hh => exact h.accept hh f
  | telling ht => exact h.telling ht f
  | giving hg => exact h.giving hg f

end Vetted

variable {b : Bench}

theorem Reached.vetted (h : Reached b) : Vetted b.view := by
  refine (Law.ofInvariant Vetted.deed).invariant (fun v p => ⟨p.faithful, fun _ => ?_, ?_⟩) h
  · rw [p.history]
    exact .nil
  · rw [p.history]
    exact .nil

/-- **Near is always confirmed**, wherever one gets with a fusion that has a secondary.
A near reading that has become the fused reading is one that the secondary had just
delivered; so is the reading that the fusion remembers, if it is near; and so is every
near reading that a listener has been told. -/
theorem near_confirmed (h : Reached b) (there : b.sensors.secondary.available = true) :
    (∀ later time r earlier, b.history = later ++ ⟨time, .turned (.fused r)⟩ :: earlier →
        r.near = true → Confirmed r earlier)
      ∧ (∀ r, b.fusion.lastFused = some r → r.near = true →
          ∃ later time earlier, b.history = later ++ ⟨time, .turned (.fused r)⟩ :: earlier
            ∧ Confirmed r earlier)
      ∧ ∀ later time l r earlier, b.history = later ++ ⟨time, .told l r⟩ :: earlier →
          r.near = true → ∃ between time' before,
            earlier = between ++ ⟨time', .turned (.fused r)⟩ :: before ∧ Confirmed r before := by
  have vetted := h.vetted
  have fused : ∀ later time r earlier, b.history = later ++ ⟨time, .turned (.fused r)⟩ :: earlier →
      r.near = true → Confirmed r earlier :=
    fun later time r earlier split near => vetted.fused there later _ earlier split r rfl near
  refine ⟨fused, fun r last near => ?_, fun later time l r earlier split near => ?_⟩
  · obtain ⟨⟨time, entry⟩, hn, rfl⟩ := History.mem_of_fused (vetted.faithful.fused.symm.trans last)
    obtain ⟨later, earlier, split⟩ := List.append_of_mem hn
    exact ⟨later, time, earlier, split, fused later time r earlier split near⟩
  · -- What the listener was told was fused before, and what is fused is confirmed.
    obtain ⟨⟨time', entry⟩, hn, rfl⟩ :=
      vetted.told later _ earlier split r (.inl ⟨l, rfl⟩)
    obtain ⟨between, before, split'⟩ := List.append_of_mem hn
    refine ⟨between, time', before, split', fused (later ++ ⟨time, .told l r⟩ :: between) time' r
      before ?_ near⟩
    rw [split, split', List.append_assoc, List.cons_append]

/-- A session in which something is near: the primary says so, and the secondary, which
is switched on for that, confirms it from inside the very call. -/
def confirmedSession : Bench :=
  (Scenario.ofSensors (.standIn true [] []) (.standIn true [some true] []) []).after
    [.join "a", .event .primary true none]

theorem near_confirmed_session :
    Reached confirmedSession ∧ confirmedSession.fusion.lastFused = some ⟨true, 1⟩
      ∧ ∃ later time earlier,
        confirmedSession.history = later ++ ⟨time, .turned (.fused ⟨true, 1⟩)⟩ :: earlier
          ∧ Confirmed ⟨true, 1⟩ earlier := by
  have reached : Reached confirmedSession := Scenario.reached_after rfl (by decide +kernel) _
  have last : confirmedSession.fusion.lastFused = some ⟨true, 1⟩ := by decide +kernel
  exact ⟨reached, last, (near_confirmed reached (by decide +kernel)).2.1 _ last rfl⟩

end Proximity
