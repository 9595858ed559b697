import Proximity.Proofs.Reached

/-!
# Who listens

Listeners join a fusion one by one: nobody joins who listens already, and no sensor
joins at all (`Proximity.Attended`). So nobody is told a reading twice in one broadcast,
a listener that leaves is gone, and whatever a listener is told is in the history.

Only one deed adds anybody, which is that somebody comes to want the fusion to work
(`Proximity.Deed.admits_or`).
-/

namespace Proximity

/-- Whether an entry is about nobody who joins. -/
def Entry.isUnjoined : Entry → Bool
  | .turned (.joined _) => false
  | _ => true

/-- Whoever joins did not listen yet, and is no sensor. -/
def Newcomer (n : Note) (earlier : History) : Prop :=
  ∀ l, n.entry = .turned (.joined l) → l ∉ earlier.audience ∧ ∀ role, l ≠ .fusion role

/-- **Listeners come in one by one.** -/
structure Attended (v : View) : Prop where
  /-- The memory of the fusion is faithful. -/
  faithful : Faithful v
  /-- Whoever joined was a newcomer. -/
  joined : v.history.Always Newcomer

namespace History

variable {h : History}

/-- **Nobody listens twice, and no sensor listens.** -/
theorem audience_of_always (hh : h.Always Newcomer) :
    h.audience.Nodup ∧ ∀ l ∈ h.audience, ∀ role, l ≠ .fusion role := by
  induction h with
  | nil => exact ⟨List.nodup_nil, fun l hl => absurd hl List.not_mem_nil⟩
  | cons n h ih =>
    obtain ⟨distinct, outer⟩ := ih hh.tail
    rw [audience]
    split
    · rename_i l e
      obtain ⟨absent, noSensor⟩ := hh.head l e
      refine ⟨List.nodup_append.mpr ⟨distinct, List.pairwise_singleton _ l, ?_⟩, fun l' hl' => ?_⟩
      · intro l' hl' l'' hl'' e'
        rw [List.mem_singleton.mp hl''] at e'
        exact absent (e' ▸ hl')
      · rcases List.mem_append.mp hl' with hl' | hl'
        · exact outer l' hl'
        · exact List.mem_singleton.mp hl' ▸ noSensor
    · exact ⟨distinct.erase _, fun l' hl' => outer l' (List.mem_of_mem_erase hl')⟩
    · exact ⟨distinct, outer⟩

end History

/-- What is told to anybody but a sensor is in the history. -/
theorem Entry.isHistoric_told {l : Listener} (h : ∀ role, l ≠ .fusion role) (r : Reading) :
    (Entry.told l r).isHistoric = true := by
  cases l with
  | fusion role => exact absurd rfl (h role)
  | named | probe => rfl

/-! ### Who is admitted -/

variable {v v' : View}

/-- What is done quietly brings nobody. -/
theorem Quietly.unjoined (h : Quietly v v') : Adds Entry.isUnjoined v v' := by
  refine h.mono fun e he => ?_
  cases e with
  | turned t =>
    cases t with
    | joined => cases he
    | _ => rfl
  | _ => rfl

/-- **A deed admits nobody, unless somebody comes to want the fusion to work.** -/
theorem Deed.admits_or (h : Deed v v') : Adds Entry.isUnjoined v v' ∨ Rise v v' := by
  cases h with
  | move hm =>
    -- Of all moves only pausing and leaving tear anything down, and neither admits anybody.
    rcases hm.quiet_or with hq | rfl | ⟨l, rfl⟩
    · exact .inl hq.unjoined
    · exact .inl (.pause v rfl rfl)
    · exact .inl (.leave v rfl rfl)
  | going hg =>
    cases hg with
    | rise hr => exact .inr hr
    | activate => exact .inl (.one rfl rfl rfl rfl)
  | taking ht =>
    cases ht with
    | passOver hh => exact .inl (Quietly.heard hh).unjoined
    | @accept r _ u hh =>
      refine .inl ((Quietly.heard hh).unjoined.trans ?_)
      rw [View.accept]
      split <;> exact .one rfl rfl rfl rfl
  | telling ht => cases ht <;> exact .inl (.one rfl rfl rfl rfl)
  | giving hg =>
    cases hg with
    | reply | balk => exact .inl (.one rfl rfl rfl rfl)
    | close hc => exact .inl (.close hc (fun _ _ => rfl) (fun _ _ => rfl) rfl rfl)

namespace Attended

/-- Where nobody joins, nobody need be a newcomer. -/
theorem unjoined (h : Attended v) (hu : Adds Entry.isUnjoined v v') (f : Faithful v') :
    Attended v' := by
  refine ⟨f, h.joined.since hu.history fun n _ hn l e => ?_⟩
  rw [e] at hn
  cases hn

/-- Whoever joins is listed once. -/
theorem join (h : Attended v) {l : Listener} (hl : ∀ role, l ≠ .fusion role) :
    Attended (v.join l) := by
  refine ⟨h.faithful.join l, ?_⟩
  rw [View.join]
  split
  · exact h.joined
  · rename_i absent
    refine .cons (fun l' e => ?_) h.joined
    cases e
    exact ⟨h.faithful.listeners ▸ absent, hl⟩

/-- What comes before going to work brings one listener at most. -/
theorem rise (h : Attended v) (hr : Rise v v') : Attended v' := by
  cases hr with
  | join name => exact h.join fun role => nofun
  | resume => exact h.unjoined (.one rfl rfl rfl rfl) { h.faithful with paused := rfl }
  | @begin timeout c =>
    have opened : Attended (v.openCheck timeout c) :=
      h.unjoined (.one rfl rfl rfl rfl) { h.faithful with }
    exact opened.join fun role => nofun

/-- Every deed keeps admission one by one. -/
theorem deed (hd : Deed v v') (h : Attended v) : Attended v' := by
  rcases hd.admits_or with hu | hr
  · exact h.unjoined hu (h.faithful.deed hd)
  · exact h.rise hr

theorem distinct (h : Attended v) : v.fusion.listeners.Nodup :=
  h.faithful.listeners ▸ (History.audience_of_always h.joined).1

theorem outer (h : Attended v) {l : Listener} (hl : l ∈ v.fusion.listeners) (role : Role) :
    l ≠ .fusion role :=
  (History.audience_of_always h.joined).2 l (h.faithful.listeners ▸ hl) role

end Attended

/-- A fusion that is set up has no listeners. -/
theorem Pristine.attended (p : Pristine v) : Attended v := by
  refine ⟨p.faithful, ?_⟩
  rw [p.history]
  exact .nil

end Proximity
