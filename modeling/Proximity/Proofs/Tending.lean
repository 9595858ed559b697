import Proximity.Proofs.Recheck

/-!
# How the secondary is tended

A fusion switches its secondary on and off, and puts off looking at it again. It does so in
many places, each of which relies on what was done elsewhere. What comes of all that is to be
read off the history:

| function | what it tells |
|---|---|
| `Proximity.History.asleep` | whether the secondary is switched off |
| `Proximity.History.contradicted` | whether a recheck is waited for |

`Proximity.Tending` says that this is exactly so. What every kind of entry does to it is proved
of histories alone. That the fusion does it is `Proximity.Reached.tended`.

Two more functions tell something simpler, which is enough to know whether the secondary is off:

| function | what it tells |
|---|---|
| `Proximity.History.stranded` | whether the secondary was switched off under a near primary |
| `Proximity.History.relieved` | whether the secondary was let off when the primary went away |
-/

namespace Proximity

/-- Whether an entry is about a change of the mode. -/
def Entry.switches : Entry → Bool
  | .turned (.mode _) => true
  | _ => false

/-- Whether an entry is about nothing that has to do with how the secondary is tended. -/
def Entry.isNeutral : Entry → Bool
  | .turned (.mode _) | .turned (.sensed _ _) | .turned .readied | .turned .tornDown => false
  | .turned .rechecked => false
  | _ => true

namespace History

/-- **The mode was never changed.** -/
def Unswitched (h : History) : Prop := ∀ n ∈ h, n.entry.switches = false

instance (h : History) : Decidable h.Unswitched :=
  inferInstanceAs (Decidable (∀ n ∈ h, n.entry.switches = false))

/-- **Whether the secondary is stranded**: it was readied, and so switched off, when the
primary had already said near; and since then the primary has said nothing else, and the
secondary has not said far. -/
def stranded : History → Bool
  | [] => false
  | n :: earlier =>
    match n.entry with
    | .turned .readied => primary earlier == some true
    | .turned (.sensed .primary r) => stranded earlier && primary earlier == some r.near
    | .turned (.sensed .secondary r) => stranded earlier && r.near
    | .turned .tornDown => false
    | _ => stranded earlier

/-- **Whether the secondary has contradicted a near primary**, so that it is to be looked at
again. That is over when it has been looked at, or when it is called off: the primary's coming
near again does so, and the secondary's speaking up while the primary is not near. In safe mode
nothing does. -/
def contradicted : History → Bool
  | [] => false
  | n :: earlier =>
    match n.entry with
    | .turned (.sensed .primary r) =>
      contradicted earlier && (safe earlier || !r.near || primary earlier == some true)
    | .turned (.sensed .secondary r) =>
      if safe earlier then contradicted earlier
      else primary earlier == some true && (contradicted earlier || !r.near)
    | .turned .tornDown | .turned .rechecked => false
    | _ => contradicted earlier

/-- **Whether the secondary is asleep**: what was done to it last was to switch it off. Asking for
a mode does that, or the opposite, and so does readying it, stopping work and looking at it again.
In safe mode the primary's news wakes it, unless it is going to be looked at again. Outside safe
mode the primary wakes it by coming near; going away puts it to sleep if the fused reading was not
far already; and the secondary falls asleep by speaking, unless both are near. -/
def asleep : History → Bool
  | [] => false
  | n :: earlier =>
    match n.entry with
    | .turned (.mode on) => !on
    | .turned .readied => !safe earlier || asleep earlier
    | .turned (.sensed .primary r) =>
      if primary earlier = some r.near then asleep earlier
      else if safe earlier then contradicted earlier && asleep earlier
      else !r.near && (asleep earlier || (fused earlier).map (·.near) != some false)
    | .turned (.sensed .secondary r) =>
      if safe earlier || primary earlier == some true && r.near then asleep earlier else true
    | .turned .tornDown => true
    | .turned .rechecked => false
    | _ => asleep earlier

/-- A recheck comes only when it is waited for. -/
def Awaited (n : Note) (earlier : History) : Prop :=
  n.entry = .turned .rechecked → earlier.contradicted = true

/-- **Whether the secondary was let off when the primary went away**: no recheck was waited
for then, and the fused reading was not far already, for only when far is news the secondary
is switched off. The secondary's speaking up afterwards makes up for both, and leaving safe
mode for the latter. As long as the primary was never near, the secondary is let off. -/
def relieved : History → Bool
  | [] => true
  | n :: earlier =>
    match n.entry with
    | .turned (.sensed .primary r) =>
      if primary earlier = some true then
        !r.near && !contradicted earlier
          && (safe earlier || (fused earlier).map (·.near) != some false)
      else !r.near && relieved earlier
    | .turned (.sensed .secondary _) =>
      relieved earlier || (!safe earlier && primary earlier != some true)
    | .turned (.mode on) => relieved earlier || (!on && !contradicted earlier)
    | .turned .tornDown => true
    | _ => relieved earlier

variable {h : History} {n : Note}

theorem Unswitched.tail (u : Unswitched (n :: h)) : h.Unswitched :=
  fun m hm => u m (List.mem_cons_of_mem n hm)

/-- Where the mode was never changed, it is not safe. -/
theorem Unswitched.safe_eq (u : h.Unswitched) : h.safe = false := by
  induction h with
  | nil => rfl
  | cons n h ih =>
    have same : n.entry.switches = false := u n List.mem_cons_self
    rw [safe]
    split
    · rename_i on e
      rw [e] at same
      cases same
    · exact ih u.tail

/-- Where the secondary was let off, no recheck is waited for. -/
theorem contradicted_of_relieved (away : h.primary ≠ some true) (relieved : h.relieved = true) :
    h.contradicted = false := by
  induction h with
  | nil => rfl
  | cons n h ih =>
    rcases n with ⟨time, entry⟩
    cases entry with
    | turned t =>
      cases t with
      | sensed role r =>
        cases role with
        | primary =>
          by_cases near : primary h = some true
          · have calm : contradicted h = false := by
              simp only [History.relieved, near, ↓reduceIte, Bool.and_eq_true] at relieved
              simpa using relieved.1.2
            simp [contradicted, calm]
          · have before : History.relieved h = true := by
              simp only [History.relieved, near, ↓reduceIte, Bool.and_eq_true] at relieved
              exact relieved.2
            simp [contradicted, ih near before]
        | secondary =>
          have away : primary h ≠ some true := away
          cases mode : safe h with
          | true =>
            have relieved : History.relieved h = true := by
              simpa [History.relieved, mode] using relieved
            simp [contradicted, mode, ih away relieved]
          | false => simp [contradicted, mode, away]
        | sole => exact ih away relieved
      | mode on =>
        rcases Bool.or_eq_true_iff.mp relieved with relieved | left
        · exact ih away relieved
        · have calm : contradicted h = false := by
            simpa using (Bool.and_eq_true_iff.mp left).2
          exact calm
      | tornDown | rechecked => rfl
      | _ => exact ih away relieved
    | _ => exact ih away relieved

/-- **A secondary that was let off is asleep**, if it was readied. -/
theorem asleep_of_relieved (awaited : h.Always Awaited) (readied : h.readied)
    (guarded : h.safe = false) (away : h.primary ≠ some true) (relieved : h.relieved = true) :
    h.asleep = true := by
  induction h with
  | nil =>
    obtain ⟨n, hn, -⟩ := readied
    cases hn
  | cons n h ih =>
    have ih := ih awaited.tail
    rcases n with ⟨time, entry⟩
    cases entry with
    | turned t =>
      cases t with
      | sensed role r =>
        have ih := ih (readied.tail nofun) guarded
        cases role with
        | primary =>
          have guarded : History.safe h = false := guarded
          have far : r.near = false := by simpa [History.primary] using away
          simp only [History.relieved, far, guarded, Bool.not_false, Bool.true_and, Bool.false_or]
            at relieved
          simp only [asleep, far, guarded, Bool.false_eq_true, ↓reduceIte, Bool.not_false,
            Bool.true_and]
          by_cases near : primary h = some true
          · rw [if_pos near] at relieved
            simp [near, (Bool.and_eq_true_iff.mp relieved).2]
          · rw [if_neg near] at relieved
            simp [ih near relieved]
        | secondary =>
          have guarded : History.safe h = false := guarded
          have away : primary h ≠ some true := away
          simp [asleep, guarded, away]
        | sole => exact ih away relieved
      | mode on =>
        have off : on = false := guarded
        simp [asleep, off]
      | readied =>
        have guarded : History.safe h = false := guarded
        simp [asleep, guarded]
      | tornDown => rfl
      | rechecked =>
        have waited : contradicted h = true := awaited.head rfl
        exact absurd waited (ne_true_of_eq_false (contradicted_of_relieved away relieved))
      | _ => exact ih (readied.tail nofun) guarded away relieved
    | _ => exact ih (readied.tail nofun) guarded away relieved

/-- **Under a near primary the secondary is awake or to be looked at again**, unless it is stranded. -/
theorem awake_or_contradicted (u : h.Unswitched) (near : h.primary = some true)
    (free : h.stranded = false) : h.asleep = false ∨ h.contradicted = true := by
  induction h with
  | nil => cases near
  | cons n h ih =>
    have ih := ih u.tail
    have guarded : safe h = false := u.tail.safe_eq
    rcases n with ⟨time, entry⟩
    cases entry with
    | turned t =>
      cases t with
      | sensed role r =>
        cases role with
        | primary =>
          have came : r.near = true := by simpa [primary] using near
          by_cases old : primary h = some true
          · have free : stranded h = false := by simpa [stranded, old, came] using free
            simpa [asleep, contradicted, old, came] using ih old free
          · simp [asleep, guarded, old, came]
        | secondary =>
          have near : primary h = some true := near
          cases confirms : r.near with
          | true =>
            have free : stranded h = false := by simpa [stranded, confirms] using free
            simpa [asleep, contradicted, guarded, near, confirms] using ih near free
          | false => simp [contradicted, guarded, near, confirms]
        | sole => exact ih near free
      | mode => cases u _ List.mem_cons_self
      | readied =>
        have near : primary h = some true := near
        simp [stranded, near] at free
      | tornDown => cases near
      | rechecked => exact .inl rfl
      | _ => exact ih near free
    | _ => exact ih near free

/-- What is neutral changes nothing that is told. -/
theorem tells_cons_of_isNeutral (hn : n.entry.isNeutral = true) (h : History) :
    safe (n :: h) = safe h ∧ contradicted (n :: h) = contradicted h
      ∧ asleep (n :: h) = asleep h := by
  rcases n with ⟨time, entry⟩
  cases entry with
  | turned t =>
    cases t with
    | mode | sensed | readied | tornDown | rechecked => cases hn
    | _ => exact ⟨rfl, rfl, rfl⟩
  | _ => exact ⟨rfl, rfl, rfl⟩

end History

/-- **What the history tells of the secondary**, given whether that is switched off and which
recheck is waited for. -/
structure Tending (h : History) (rests : Option Bool) (recheck : Option Nat) : Prop where
  /-- The secondary is switched off just when it is asleep. -/
  switch : ∀ off ∈ rests, off = h.asleep
  /-- A recheck is waited for just when the secondary has contradicted the primary. -/
  waits : recheck = none ↔ h.contradicted = false
  /-- Rechecks came only when they were waited for. -/
  awaited : h.Always History.Awaited

namespace Tending

variable {h : History} {n : Note} {time : Number} {r : Reading} {rests : Option Bool}
  {recheck : Option Nat}

/-- What is switched off is off. -/
theorem eq_of_mem_rest {off : Bool} (mem : off ∈ rests.map fun _ => true) : off = true := by
  obtain ⟨_, -, rfl⟩ := Option.map_eq_some_iff.mp mem
  rfl

/-- What is switched on is not off. -/
theorem eq_of_mem_wake {off : Bool} (mem : off ∈ rests.map fun _ => false) : off = false := by
  obtain ⟨_, -, rfl⟩ := Option.map_eq_some_iff.mp mem
  rfl

/-! ### Nothing is heard -/

theorem neutral (t : Tending h rests recheck) (hn : n.entry.isNeutral = true) :
    Tending (n :: h) rests recheck := by
  obtain ⟨-, contradicted, asleep⟩ := History.tells_cons_of_isNeutral hn h
  constructor
  · rw [asleep]
    exact t.switch
  · rw [contradicted]
    exact t.waits
  · refine .cons (fun e => ?_) t.awaited
    rw [e] at hn
    cases hn

/-- A secondary that is asleep is switched off once more. -/
theorem off (t : Tending h rests recheck) (asleep : h.asleep = true) :
    Tending h (rests.map fun _ => true) recheck where
  switch _ mem := (eq_of_mem_rest mem).trans asleep.symm
  waits := t.waits
  awaited := t.awaited

/-- The timer of the recheck fires, and the secondary is switched on. -/
theorem wake (t : Tending h rests recheck) (time : Number) (waits : recheck ≠ none) :
    Tending (⟨time, .turned .rechecked⟩ :: h) (rests.map fun _ => false) none where
  switch _ mem := eq_of_mem_wake mem
  waits := iff_of_true rfl rfl
  awaited := .cons (fun _ => Bool.not_eq_false _ |>.mp (mt t.waits.mpr waits)) t.awaited

theorem tornDown (t : Tending h rests recheck) (time : Number) :
    Tending (⟨time, .turned .tornDown⟩ :: h) (rests.map fun _ => true) none where
  switch _ mem := eq_of_mem_rest mem
  waits := iff_of_true rfl rfl
  awaited := .cons nofun t.awaited

/-- The secondary is readied, and switched off outside safe mode. -/
theorem ready (t : Tending h rests recheck) (time : Number) :
    Tending (⟨time, .turned .readied⟩ :: h)
      (if h.safe then rests else rests.map fun _ => true) recheck where
  switch off mem := by
    rw [History.asleep]
    cases safe : h.safe with
    | true => exact t.switch off (by rwa [safe] at mem)
    | false => exact eq_of_mem_rest (by rwa [safe] at mem)
  waits := t.waits
  awaited := .cons nofun t.awaited

/-- Safe mode is entered, and the secondary is switched on. -/
theorem enter (t : Tending h rests recheck) (time : Number) :
    Tending (⟨time, .turned (.mode true)⟩ :: h) (rests.map fun _ => false) recheck where
  switch _ mem := eq_of_mem_wake mem
  waits := t.waits
  awaited := .cons nofun t.awaited

/-- Safe mode is left, and the secondary is switched off. -/
theorem exit (t : Tending h rests recheck) (time : Number) :
    Tending (⟨time, .turned (.mode false)⟩ :: h) (rests.map fun _ => true) recheck where
  switch _ mem := eq_of_mem_rest mem
  waits := t.waits
  awaited := .cons nofun t.awaited

/-! ### The primary is heard -/

/-- The primary says again what it has said last. -/
theorem again (t : Tending h rests recheck) (time : Number) (old : h.primary = some r.near) :
    Tending (⟨time, .turned (.sensed .primary r)⟩ :: h) rests recheck where
  switch off mem := (t.switch off mem).trans (by simp [History.asleep, old])
  waits := by
    have same : History.contradicted (⟨time, .turned (.sensed .primary r)⟩ :: h) = h.contradicted := by
      cases near : r.near <;> simp [History.contradicted, old, near]
    rw [same]
    exact t.waits
  awaited := .cons nofun t.awaited

/-- Outside safe mode the primary says that something went away. If that is no news to the
listeners, the secondary is left as it is. -/
theorem gone (t : Tending h rests recheck) (time : Number) (guarded : h.safe = false)
    (away : r.near = false) (same : h.fused.map (·.near) = some false) :
    Tending (⟨time, .turned (.sensed .primary r)⟩ :: h) rests recheck where
  switch off mem := (t.switch off mem).trans (by simp [History.asleep, guarded, away, same])
  waits := by simpa [History.contradicted, away] using t.waits
  awaited := .cons nofun t.awaited

section News

variable (t : Tending h rests recheck) (time : Number) (news : h.primary ≠ some r.near)
include t news

/-- In safe mode the primary has news, and the secondary is switched on. -/
theorem consult (safe : h.safe = true) (idle : recheck = none) :
    Tending (⟨time, .turned (.sensed .primary r)⟩ :: h) (rests.map fun _ => false) recheck where
  switch off mem := (eq_of_mem_wake mem).trans (by
    simp [History.asleep, news, safe, t.waits.mp idle])
  waits := by simpa [History.contradicted, safe] using t.waits
  awaited := .cons nofun t.awaited

/-- In safe mode the primary has news, and the secondary is going to be looked at again. -/
theorem await (safe : h.safe = true) (waits : recheck ≠ none) :
    Tending (⟨time, .turned (.sensed .primary r)⟩ :: h) rests recheck where
  switch off mem := by
    have contradicted : h.contradicted = true := Bool.not_eq_false _ |>.mp (mt t.waits.mpr waits)
    exact (t.switch off mem).trans (by simp [History.asleep, news, safe, contradicted])
  waits := by simpa [History.contradicted, safe] using t.waits
  awaited := .cons nofun t.awaited

/-- The primary says that something came near, and the secondary has to confirm it. -/
theorem verify (guarded : h.safe = false) (near : r.near = true) :
    Tending (⟨time, .turned (.sensed .primary r)⟩ :: h) (rests.map fun _ => false) none where
  switch off mem := (eq_of_mem_wake mem).trans (by
    rw [near] at news
    simp [History.asleep, news, guarded, near])
  waits := by
    rw [near] at news
    simp [History.contradicted, guarded, near, news]
  awaited := .cons nofun t.awaited

/-- If it is news to the listeners that something went away, the secondary is switched off. -/
theorem goneOff (guarded : h.safe = false) (away : r.near = false)
    (other : h.fused.map (·.near) ≠ some false) :
    Tending (⟨time, .turned (.sensed .primary r)⟩ :: h) (rests.map fun _ => true) recheck where
  switch off mem := (eq_of_mem_rest mem).trans (by
    rw [away] at news
    simp [History.asleep, news, guarded, away, other])
  waits := by simpa [History.contradicted, away] using t.waits
  awaited := .cons nofun t.awaited

end News

/-! ### The secondary is heard -/

section Heard

variable (t : Tending h rests recheck) (time : Number)
include t

/-- Outside safe mode the secondary speaks while the primary is not near, and is switched
off. -/
theorem disown (guarded : h.safe = false) (away : h.primary ≠ some true) :
    Tending (⟨time, .turned (.sensed .secondary r)⟩ :: h) (rests.map fun _ => true) none where
  switch off mem := (eq_of_mem_rest mem).trans (by simp [History.asleep, guarded, away])
  waits := by simp [History.contradicted, guarded, away]
  awaited := .cons nofun t.awaited

/-- The secondary speaks in safe mode, or confirms the primary. -/
theorem confirm (counts : h.safe = true ∨ h.primary = some true ∧ r.near = true) :
    Tending (⟨time, .turned (.sensed .secondary r)⟩ :: h) rests recheck where
  switch off mem := (t.switch off mem).trans (by
    rcases counts with safe | ⟨near, confirms⟩
    · simp [History.asleep, safe]
    · simp [History.asleep, near, confirms])
  waits := by
    rcases counts with safe | ⟨near, confirms⟩
    · simpa [History.contradicted, safe] using t.waits
    · cases safe : h.safe <;> simpa [History.contradicted, safe, near, confirms] using t.waits
  awaited := .cons nofun t.awaited

/-- Outside safe mode the secondary contradicts the primary. It is switched off, and will be
looked at again. -/
theorem contradict (id : Nat) (guarded : h.safe = false) (near : h.primary = some true)
    (away : r.near = false) :
    Tending (⟨time, .turned (.sensed .secondary r)⟩ :: h) (rests.map fun _ => true)
      (some id) where
  switch off mem := (eq_of_mem_rest mem).trans (by simp [History.asleep, guarded, away])
  waits := by simp [History.contradicted, guarded, near, away]
  awaited := .cons nofun t.awaited

end Heard

end Tending

/-! ### The fusion tends its secondary -/

/-- **The secondary, if there is one, is tended as the history tells.** -/
def Cared (v : View) : Prop :=
  v.secondaryThere = true → Tending v.history v.secondaryRests v.fusion.pendingRecheck

namespace Cared

variable {v v' : View}

theorem neutral (h : Cared v) (hk : Spares Entry.isNeutral v v') : Cared v' := by
  intro there
  rw [hk.rests, hk.recheck]
  have t := h (hk.secondary.symm.trans there)
  exact hk.history.keeps (P := (Tending · v.secondaryRests v.fusion.pendingRecheck)) t
    fun _ _ hn t => t.neutral hn

theorem tearDown (h : Cared v) : Cared v.tearDown := by
  rw [View.tearDown]
  split
  · exact fun there => (h there).tornDown _
  · exact h

/-- **The care for the secondary is kept up.** -/
theorem upkeep : Upkeep Cared where
  idles idle h := h.neutral <| idle.spares.mono fun e he => by
    cases e with
    | turned t => cases t <;> first | rfl | cases he
    | _ => rfl
  tearDown h := h.tearDown
  setTimer _ h := h.neutral (.none rfl rfl rfl rfl rfl)
  stopTimer h := h.neutral (.none rfl rfl rfl rfl rfl)
  giveUp _ _ h := h.neutral (.none rfl rfl rfl rfl rfl)

/-- The secondary says something that counts. -/
theorem second (h : Cared v) (f : Faithful v) {r : Reading}
    (counts : v.fusion.safe = true ∨ v.primaryNear) : Cared (v.second r) := by
  intro there
  rw [View.second] at there ⊢
  split at there
  · rename_i contradicts
    rw [if_pos contradicts]
    obtain ⟨guarded, away⟩ := Bool.and_eq_true_iff.mp contradicts
    have guarded : v.fusion.safe = false := by simpa using guarded
    have away : r.near = false := by simpa using away
    have near : v.primaryNear := counts.resolve_left (ne_true_of_eq_false guarded)
    exact (h there).contradict _ _ (f.safe.symm.trans guarded) (f.primary.symm.trans near) away
  · rename_i agrees
    rw [if_neg agrees]
    refine (h there).confirm _ ?_
    cases safe : v.fusion.safe with
    | true => exact .inl (f.safe.symm.trans safe)
    | false =>
      have near : v.primaryNear := counts.resolve_left (ne_true_of_eq_false safe)
      have confirms : r.near = true := by simpa [View.turn, View.note, safe] using agrees
      exact .inr ⟨f.primary.symm.trans near, confirms⟩

/-- A reading becomes the fused reading. Where the secondary is switched off for that, it is asleep
already. -/
theorem accept (h : Cared v) {r : Reading} (asleep : v.fusion.safe = false → r.near = false →
    v.history.asleep = true) : Cared (v.accept r) := by
  have taken : ∀ u : View, Cared u →
      Cared ((u.turn (.fused r)).change fun f => { f with lastFused := some r }) :=
    fun u hu => hu.neutral (.one rfl rfl rfl rfl rfl rfl)
  refine taken _ ?_
  split
  · rename_i away
    obtain ⟨guarded, far⟩ := Bool.and_eq_true_iff.mp away
    exact fun there => (h there).off (asleep (by simpa using guarded) (by simpa using far))
  · exact h

end Cared

/-- **How the secondary is tended at all times.** -/
structure Tended (v : View) : Prop where
  /-- The memory of the fusion is faithful. -/
  faithful : Faithful v
  /-- The fusion keeps track of its timer. -/
  tracked : Tracked v
  /-- The secondary is tended as the history tells. -/
  cared : Cared v

namespace Tended

variable {v v' : View}

theorem move (hm : Move v v') (h : Tended v) : Cared v' := by
  have f := h.faithful
  have c := h.cared
  have U := Cared.upkeep
  have told : ∀ {r : Reading}, v.isNews r → v.history.primary ≠ some r.near := fun news same =>
    news (f.primary.trans same)
  cases hm with
  | refuse he => exact U.fatal c he
  | strand timeout _ _ _ he => exact U.fatal (U.openCheck c timeout _) he
  | abandon near he => exact U.fatal (U.taken c near) he
  | forsake ht task he => exact U.fatal (U.taken (U.giveUp ht task c) none) he
  | @lapse t _ _ _ he =>
    have struck : Cared (v.strike t) := c.neutral (.none rfl rfl rfl rfl rfl)
    exact U.fatal struck he
  | pause => exact U.pause c
  | leave name => exact U.leave c (.named name)
  | elapse | tag | link => exact c.neutral (.none rfl rfl rfl rfl rfl)
  | sample | enqueue => exact c.neutral (.one rfl rfl rfl rfl rfl rfl)
  | again r old => exact fun there => (c there).again _ (f.primary.symm.trans (not_not.mp old))
  | consult r news safe _ idle =>
    exact fun there => (c there).consult _ (told news) (f.safe.symm.trans safe) idle
  | await r news safe _ waits =>
    exact fun there => (c there).await _ (told news) (f.safe.symm.trans safe) waits
  | verify r news guarded _ near =>
    exact fun there => (c there).verify _ (told news) (f.safe.symm.trans guarded) near
  | disown r guarded away =>
    exact fun there => (c there).disown _ (f.safe.symm.trans guarded) fun near =>
      away (f.primary.trans near)
  | overhear r counts => exact c.second f counts
  | mode on =>
    cases on with
    | true => exact fun there => (c there).enter _
    | false => exact fun there => (c there).exit _
  | ready =>
    intro there
    have readied := (c there).ready v.clock.now
    rw [← f.safe] at readied
    exact readied
  | @recheck t ht task =>
    -- The timer that fires is the one that is waited for.
    have waits : v.fusion.pendingRecheck = some t.id :=
      h.tracked.known t (Clock.mem_rechecks.mpr ⟨ht, task⟩)
    have forgets : ((v.strike t).recheck t.id).fusion.pendingRecheck = none := if_pos waits
    intro there
    rw [forgets]
    exact (c there).wake _ (waits ▸ nofun)

/-- A reading that counts is taken. -/
theorem taking (ht : Taking v v') (h : Tended v) : Cared v' := by
  have f := h.faithful
  have c := h.cared
  have told : ∀ {r : Reading}, v.isNews r → v.history.primary ≠ some r.near := fun news same =>
    news (f.primary.trans same)
  cases ht with
  | @passOver r _ _ hh same =>
    cases hh with
    | alone _ absent => exact fun there => absurd (absent.symm.trans there) Bool.false_ne_true
    | gone _ guarded _ away =>
      have same : v.history.fused.map (·.near) = some false := by
        rw [← f.fused]
        exact same.trans (congrArg some away)
      exact fun there => (c there).gone _ (f.safe.symm.trans guarded) away same
    | counted counts => exact c.second f counts
  | @accept r _ u hh news =>
    cases hh with
    | alone _ absent =>
      intro there
      rw [View.secondaryThere_accept] at there
      exact absurd (absent.symm.trans there) Bool.false_ne_true
    | gone first guarded _ away =>
      have other : v.history.fused.map (·.near) ≠ some false := fun same => by
        refine news ?_
        rw [show (v.sense r).fusion.lastFused = v.fusion.lastFused from rfl, away]
        exact (congrArg (Option.map (·.near)) f.fused).trans same
      have asleep := fun there =>
        (c there).goneOff v.clock.now (told first) (f.safe.symm.trans guarded) away other
      rw [View.accept, if_pos (by rw [show (v.sense r).fusion.safe = false from guarded, away]; rfl)]
      exact fun there => (asleep there).neutral rfl
    | counted counts =>
      -- What the secondary says outside safe mode counts only while the primary is near, and if it
      -- is far it contradicts that.
      refine (c.second f counts).accept fun guarded away => ?_
      have guarded : v.fusion.safe = false := by
        rw [View.second] at guarded
        split at guarded <;> exact guarded
      rw [View.history_second]
      simp [View.turn, View.note, History.asleep, f.safe.symm.trans guarded, away]

theorem deed (hd : Deed v v') (h : Tended v) : Tended v' where
  faithful := h.faithful.deed hd
  tracked := h.tracked.deed hd
  cared := Cared.upkeep.deed h.cared hd (h.move ·) (h.taking ·)
    (h.cared.neutral (.one rfl rfl rfl rfl rfl rfl))

end Tended

theorem Pristine.tended {v : View} (p : Pristine v) : Tended v := by
  refine ⟨p.faithful, p.tracked, fun _ => ?_⟩
  obtain ⟨delay, fusion⟩ := p.fusion
  rw [p.history, fusion]
  refine ⟨fun off mem => Bool.eq_false_iff.mpr fun resting => p.rests ?_, iff_of_true rfl rfl, .nil⟩
  exact resting ▸ mem

/-- **The secondary is tended as the history tells wherever one gets.** -/
theorem Reached.tended {b : Bench} (h : Reached b) : Tended b.view :=
  (Law.ofInvariant Tended.deed).invariant (fun _ p => p.tended) h

end Proximity
