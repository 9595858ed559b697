import Mathlib.Data.List.Chain
import Proximity.Proofs.Broadcast

/-!
# What listeners are told

A listener that stays should know the last fused reading. It does, unless it was
*swallowed*: a reading that is accepted while a broadcast is on, which happens when a
listener that is being told something makes a sensor report, becomes the fused reading
but is told nobody, until somebody asks for another broadcast.

The main statement is `Proximity.told_iff_not_swallowed`. About the last reading that
was accepted it says that a listener which has been there since was told it last if and
only if it was not swallowed, or another broadcast has come. About all that is accepted
from some reading on it says that such a listener is told, as something new, just what
is not swallowed. Near and far alternate in what is accepted
(`Proximity.Reached.varied`), and so they do in what is told as something new as long as
nothing is swallowed. That readings can be swallowed is `Proximity.swallowed_session`.

What a listener has been told is read off the part of the history that starts with an
acceptance, by the functions of the first section.
-/

namespace Proximity

open Act Session

/-! ### Readings and notifications in a history -/

/-- The reading that is accepted by an entry. -/
def Entry.fused? : Entry → Option Reading
  | .turned (.fused r) => some r
  | _ => none

theorem Entry.eq_of_fused? {entry : Entry} {r : Reading} (h : entry.fused? = some r) :
    entry = .turned (.fused r) := by
  cases entry with
  | turned t =>
    cases t with
    | fused => exact congrArg (fun r => Entry.turned (.fused r)) (Option.some.inj h)
    | _ => cases h
  | _ => cases h

/-- Whether an entry begins a broadcast. -/
def Entry.isBroadcast : Entry → Bool
  | .turned (.broadcast _ _) => true
  | _ => false

/-- Whether an entry is about everything being torn down. -/
def Entry.isTornDown : Entry → Bool
  | .turned .tornDown => true
  | _ => false

/-- Whether an entry is about a listener that leaves. -/
def Entry.isLeft (l : Listener) : Entry → Bool
  | .turned (.left l') => l' = l
  | _ => false

namespace History

/-- The readings that are accepted, the latest first. -/
def accepted (h : History) : List Reading := h.filterMap (·.entry.fused?)

/-- Whether a broadcast begins. -/
def tellsAnew (h : History) : Bool := h.any (·.entry.isBroadcast)

/-- What a listener is told last, if by a broadcast that begins in the same history. -/
def heard (l : Listener) : History → Option Reading
  | [] => none
  | n :: earlier =>
    match n.entry with
    | .told l' r => if l' = l then (if tellsAnew earlier then some r else none) else heard l earlier
    | _ => heard l earlier

/-- Whether the last broadcast was one of a reading that had just been accepted. -/
def fresh : History → Bool
  | [] => false
  | n :: earlier =>
    match n.entry with
    | .turned (.broadcast _ fresh) => fresh
    | _ => fresh earlier

/-- What a listener is told as something new, the latest first. -/
def freshlyTold (l : Listener) : History → List Reading
  | [] => []
  | n :: earlier =>
    match n.entry with
    | .told l' r =>
      if l' = l ∧ fresh earlier = true then r :: freshlyTold l earlier else freshlyTold l earlier
    | _ => freshlyTold l earlier

/-- **The readings that are accepted while no broadcast is on**, the latest first. The
others are swallowed. -/
def unswallowed : History → List Reading
  | [] => []
  | n :: earlier =>
    match n.entry with
    | .turned (.fused r) => if telling earlier then unswallowed earlier else r :: unswallowed earlier
    | _ => unswallowed earlier

/-- A listener does not leave. -/
def Stays (l : Listener) (h : History) : Prop := ∀ n ∈ h, n.entry.isLeft l = false

/-- Nothing is torn down. -/
def Untorn (h : History) : Prop := ∀ n ∈ h, n.entry.isTornDown = false

/-- What was fused before stays the last fused reading. -/
def Latest (h : History) : Prop := h.Untorn ∧ h.accepted = []

instance (l : Listener) (h : History) : Decidable (h.Stays l) :=
  inferInstanceAs (Decidable (∀ n ∈ h, n.entry.isLeft l = false))

instance (h : History) : Decidable h.Untorn :=
  inferInstanceAs (Decidable (∀ n ∈ h, n.entry.isTornDown = false))

instance (h : History) : Decidable h.Latest :=
  inferInstanceAs (Decidable (h.Untorn ∧ h.accepted = []))

variable {h later earlier x s : History} {n : Note} {l : Listener} {r : Reading} {time : Number}
variable {listeners : List Listener}

theorem Stays.of_suffix (hs : Stays l h) (hx : x <:+ h) : Stays l x :=
  fun n hn => hs n (hx.subset hn)

theorem Latest.of_suffix (hl : Latest h) (hx : x <:+ h) : Latest x := by
  obtain ⟨untorn, none⟩ := hl
  refine ⟨fun n hn => untorn n (hx.subset hn), ?_⟩
  exact List.filterMap_eq_nil_iff.mpr fun n hn => List.filterMap_eq_nil_iff.mp none n (hx.subset hn)

/-- Who stays still listens. -/
theorem mem_audience_append (hs : Stays l later) (hl : l ∈ audience x) :
    l ∈ audience (later ++ x) := by
  induction later with
  | nil => exact hl
  | cons n later ih =>
    have listens := ih fun m hm => hs m (List.mem_cons_of_mem n hm)
    have stays := hs n List.mem_cons_self
    rw [List.cons_append, audience]
    split
    · exact List.mem_append_left _ listens
    · rename_i l' e
      refine (List.mem_erase_of_ne ?_).mpr listens
      rintro rfl
      rw [e] at stays
      exact absurd stays (by simp [Entry.isLeft])
    · exact listens

/-- The last reading that was accepted is the fused one. -/
theorem fused_append (hl : Latest later) :
    fused (later ++ ⟨time, .turned (.fused r)⟩ :: earlier) = some r := by
  induction later with
  | nil => rfl
  | cons n later ih =>
    have last := ih (hl.of_suffix (List.suffix_cons n later))
    obtain ⟨untorn, none⟩ := hl
    rw [List.cons_append, fused]
    split
    · rename_i r' e
      rw [accepted, List.filterMap_cons, e] at none
      cases none
    · rename_i e
      have torn := untorn n List.mem_cons_self
      rw [e] at torn
      cases torn
    · exact last

theorem heard_cons_told (time : Number) (l l' : Listener) (r : Reading) (h : History) :
    heard l (⟨time, .told l' r⟩ :: h)
      = if l' = l then (if tellsAnew h then some r else none) else heard l h := rfl

theorem freshlyTold_cons_told (time : Number) (l l' : Listener) (r : Reading) (h : History) :
    freshlyTold l (⟨time, .told l' r⟩ :: h)
      = if l' = l ∧ fresh h = true then r :: freshlyTold l h else freshlyTold l h := rfl

/-- Where no broadcast is on at first, whether one is on at last can be told from what comes
in between. -/
theorem telling_append_of_idle (idle : telling x = false) (later : History) :
    telling (later ++ x) = telling later := by
  induction later with
  | nil => exact idle
  | cons n later ih =>
    rw [List.cons_append, telling, telling]
    split
    · rfl
    · rfl
    · exact ih

theorem heard_eq_none (hn : tellsAnew h = false) : heard l h = none := by
  induction h with
  | nil => rfl
  | cons n h ih =>
    obtain ⟨-, hh⟩ := Bool.or_eq_false_iff.mp hn
    rw [heard]
    split
    · rw [show tellsAnew h = false from hh, ih hh]
      split <;> rfl
    · exact ih hh

/-- The fused reading is the last one that was accepted. -/
theorem exists_latest (hf : fused h = some r) :
    ∃ (later : History) (time : Number) (earlier : History),
      h = later ++ ⟨time, .turned (.fused r)⟩ :: earlier ∧ later.Latest := by
  induction h with
  | nil => cases hf
  | cons n h ih =>
    have step : n.entry.isTornDown = false → n.entry.fused? = none → fused h = some r →
        ∃ (later : History) (time : Number) (earlier : History),
          n :: h = later ++ ⟨time, .turned (.fused r)⟩ :: earlier ∧ later.Latest := by
      intro remains none hf
      obtain ⟨later, time, earlier, rfl, untorn, last⟩ := ih hf
      refine ⟨n :: later, time, earlier, rfl, fun m hm => ?_, ?_⟩
      · rcases List.mem_cons.mp hm with rfl | hm
        · exact remains
        · exact untorn m hm
      · rw [accepted, List.filterMap_cons, none]
        exact last
    rcases n with ⟨time, entry⟩
    cases entry with
    | turned t =>
      cases t with
      | fused r' =>
        cases hf
        exact ⟨[], time, h, rfl, fun n hn => absurd hn List.not_mem_nil, rfl⟩
      | tornDown => cases hf
      | _ => exact step rfl rfl hf
    | _ => exact step rfl rfl hf

/-- What lies aside changes nothing of what is accepted and told. -/
theorem readings_cons_of_isAside (hn : n.entry.isAside = true) (l : Listener) (h : History) :
    heard l (n :: h) = heard l h ∧ tellsAnew (n :: h) = tellsAnew h
      ∧ freshlyTold l (n :: h) = freshlyTold l h ∧ unswallowed (n :: h) = unswallowed h := by
  rcases n with ⟨time, entry⟩
  cases entry with
  | turned t =>
    cases t with
    | broadcast | hushed | fused => cases hn
    | _ => exact ⟨rfl, rfl, rfl, rfl⟩
  | told => cases hn
  | _ => exact ⟨rfl, rfl, rfl, rfl⟩

end History

/-! ### What a broadcast adds -/

variable {r r' : Reading} {wasFresh : Bool} {h h' later earlier s x : History} {l : Listener}
variable {time start stop : Number} {listeners : List Listener}

open History

/-- The notes of a broadcast, the part of the history before it left open. -/
abbrev airing (r : Reading) (wasFresh : Bool) (start stop : Number) (s x : History) : History :=
  ⟨stop, .turned .hushed⟩ :: (s ++ ⟨start, .turned (.broadcast r wasFresh)⟩ :: x)

theorem suffix_airing (r : Reading) (wasFresh : Bool) (start stop : Number) (s x : History) :
    x <:+ airing r wasFresh start stop s x :=
  ⟨⟨stop, .turned .hushed⟩ :: (s ++ [⟨start, .turned (.broadcast r wasFresh)⟩]), by simp [airing]⟩

theorem airing_append (r : Reading) (wasFresh : Bool) (start stop : Number) (s x later : History) :
    airing r wasFresh start stop s later ++ x = airing r wasFresh start stop s (later ++ x) := by
  simp [airing]

namespace Round

theorem heard (hs : Round r listeners s) (hl : l ∈ listeners) :
    History.heard l (s ++ ⟨start, .turned (.broadcast r wasFresh)⟩ :: x) = some r := by
  have anew : ∀ s, tellsAnew (s ++ ⟨start, .turned (.broadcast r wasFresh)⟩ :: x) = true := by
    intro s
    simp [tellsAnew, Entry.isBroadcast]
  induction hs with
  | start => exact absurd hl List.not_mem_nil
  | @tell listeners s time l' hs ih =>
    rw [List.cons_append, heard_cons_told]
    by_cases e : l' = l
    · rw [if_pos e, if_pos (anew s)]
    · rw [if_neg e]
      refine ih ((List.mem_append.mp hl).resolve_right fun hl => e ?_)
      exact (List.mem_singleton.mp hl).symm
  | @mute listeners s n hs hn ih =>
    rcases n with ⟨time, entry⟩
    cases entry with
    | told => cases hn
    | _ => exact ih hl

theorem fresh (hs : Round r listeners s) :
    History.fresh (s ++ ⟨start, .turned (.broadcast r wasFresh)⟩ :: x) = wasFresh := by
  induction hs with
  | start => rfl
  | tell time l' hs ih => exact ih
  | @mute listeners s n hs hn ih =>
    rcases n with ⟨time, entry⟩
    cases entry with
    | turned t =>
      cases t with
      | broadcast => cases hn
      | _ => exact ih
    | _ => exact ih

/-- In a broadcast of a fresh reading, everybody is told something new, and once. -/
theorem freshlyTold (hs : Round r listeners s) (distinct : listeners.Nodup) :
    History.freshlyTold l (s ++ ⟨start, .turned (.broadcast r wasFresh)⟩ :: x)
      = (if l ∈ listeners ∧ wasFresh = true then [r] else []) ++ History.freshlyTold l x := by
  induction hs with
  | start => rw [if_neg fun h => List.not_mem_nil h.1]; rfl
  | @tell listeners s time l' hs ih =>
    obtain ⟨distinct', -, apart⟩ := List.nodup_append.mp distinct
    rw [List.cons_append, freshlyTold_cons_told, ih distinct', hs.fresh]
    -- Listeners are distinct, so whoever is told now has not been told before.
    by_cases e : l' = l
    · have absent : l ∉ listeners := fun hl => apart l hl l' (List.mem_singleton_self l') e.symm
      cases wasFresh <;> simp [e, absent]
    · simp [e, Ne.symm e]
  | @mute listeners s n hs hn ih =>
    rcases n with ⟨time, entry⟩
    cases entry with
    | told => cases hn
    | _ => exact ih distinct

/-- What is accepted while a broadcast is on is swallowed. -/
theorem unswallowed (hs : Round r listeners s) :
    History.unswallowed (s ++ ⟨start, .turned (.broadcast r wasFresh)⟩ :: x)
      = History.unswallowed x := by
  induction hs with
  | start => rfl
  | tell time l' hs ih => exact ih
  | @mute listeners s n hs hn ih =>
    rcases n with ⟨time, entry⟩
    cases entry with
    | turned t =>
      cases t with
      | fused r' =>
        have on : telling (s ++ ⟨start, .turned (.broadcast r wasFresh)⟩ :: x) = true :=
          telling_append hs.inner
        exact (if_pos on).trans ih
      | _ => exact ih
    | _ => exact ih

theorem tellsAnew_eq_false (hs : Round r listeners s) : ∀ n ∈ s, n.entry.isBroadcast = false := by
  intro n hn
  have inner := hs.inner n hn
  cases e : n.entry with
  | turned t =>
    cases t with
    | broadcast => rw [e] at inner; cases inner
    | _ => rfl
  | _ => rfl

end Round

/-- **Where a reading is accepted that a history with a broadcast at its end tells of**:
before the broadcast, or while it is on. -/
theorem Aired.split (a : Aired r wasFresh h h')
    (e : h' = later ++ ⟨time, .turned (.fused r')⟩ :: earlier) :
    (∃ start stop s later', Round r h.audience s ∧ later = airing r wasFresh start stop s later'
        ∧ h = later' ++ ⟨time, .turned (.fused r')⟩ :: earlier)
      ∨ (earlier.telling = true ∧ later.tellsAnew = false) := by
  obtain ⟨start, stop, s, round, rfl⟩ := a.round
  rcases List.cons_eq_append_iff.mp e with ⟨-, first⟩ | ⟨later₁, rfl, rest⟩
  · cases first
  -- The reading was accepted before the entry that begins the broadcast, or after it.
  rcases List.append_eq_append_iff.mp rest with ⟨before, rfl, tail⟩ | ⟨inside, rfl, tail⟩
  · rcases List.cons_eq_append_iff.mp tail with ⟨-, first⟩ | ⟨later', rfl, before⟩
    · cases first
    · exact .inl ⟨start, stop, s, later', round, rfl, before⟩
  · rcases List.cons_eq_append_iff.mp tail with ⟨-, first⟩ | ⟨inside', rfl, during⟩
    · cases first
    · refine .inr ⟨?_, ?_⟩
      · rw [during]
        refine telling_append fun n hn => round.inner n ?_
        exact List.mem_append_right _ (List.mem_cons_of_mem _ hn)
      · refine List.any_eq_false.mpr fun n hn => ?_
        rcases List.mem_cons.mp hn with rfl | hn
        · exact Bool.false_ne_true
        · rw [round.tellsAnew_eq_false n (List.mem_append_left _ hn)]
          exact Bool.false_ne_true

/-- A reading is not swallowed where no broadcast is on, and none was on at first. -/
theorem History.unswallowed_cons (time₁ : Number) (r₁ : Reading) (idle : earlier.telling = false)
    (quiet : telling (later ++ ⟨time, .turned (.fused r)⟩ :: earlier) = false) :
    unswallowed (⟨time₁, .turned (.fused r₁)⟩ :: (later ++ [⟨time, .turned (.fused r)⟩]))
      = r₁ :: unswallowed (later ++ [⟨time, .turned (.fused r)⟩]) := by
  have before := telling_append_of_idle (x := ⟨time, .turned (.fused r)⟩ :: earlier) idle later
  have after := telling_append_of_idle (x := [⟨time, .turned (.fused r)⟩]) rfl later
  refine if_neg ?_
  rw [after, ← before, quiet]
  exact Bool.false_ne_true

/-! ### What is accepted is told -/

namespace Orderly

/-- **Who has been there since the last acceptance was told it last**, if and only if it was
not swallowed or another broadcast has come. The induction is on the broadcasts. -/
theorem heard_iff (o : Orderly h) (e : h = later ++ ⟨time, .turned (.fused r)⟩ :: earlier)
    (there : l ∈ earlier.audience) (stays : later.Stays l) (latest : later.Latest) :
    later.heard l = some r ↔ earlier.telling = false ∨ later.tellsAnew = true := by
  -- The one case in which it was not told, wherever the induction meets it.
  have swallowed : earlier.telling = true → later.tellsAnew = false →
      (later.heard l = some r ↔ earlier.telling = false ∨ later.tellsAnew = true) := by
    intro on silent
    rw [on, silent, heard_eq_none silent]
    simp
  induction o generalizing later with
  | nil => simp at e
  | @aside n h o hn ih =>
    rcases List.cons_eq_append_iff.mp e with ⟨-, first⟩ | ⟨later', rfl, rest⟩
    · cases first
      cases hn
    · have shorter : later' <:+ n :: later' := List.suffix_cons n later'
      obtain ⟨hh, ht, -, -⟩ := readings_cons_of_isAside hn l later'
      rw [hh, ht] at swallowed ⊢
      exact ih rest (stays.of_suffix shorter) (latest.of_suffix shorter) swallowed
  | @accept r₁ time₁ h h' o a ih =>
    rcases a.split e with ⟨start, stop, s, later', round, rfl, before⟩ | ⟨on, silent⟩
    · rcases List.cons_eq_append_iff.mp before with ⟨rfl, first⟩ | ⟨later'', rfl, -⟩
      · cases first
        exact iff_of_true (round.heard there) (.inl o.telling)
      -- A later acceptance would have replaced the reading.
      · cases (latest.of_suffix (suffix_airing ..)).2
    · exact swallowed on silent
  | @alert r₁ h h' o a ih =>
    rcases a.split e with ⟨start, stop, s, later', round, rfl, before⟩ | ⟨on, silent⟩
    · have shorter := suffix_airing r₁ false start stop s later'
      have listens : l ∈ h.audience :=
        before ▸ mem_audience_append (stays.of_suffix shorter) there
      have last : h.fused = some r := before ▸ fused_append (latest.of_suffix shorter)
      -- What is told is the last fused reading, which is the one in question.
      obtain rfl : r₁ = r := Option.some.inj (a.fused.symm.trans last)
      refine iff_of_true (round.heard listens) (.inr ?_)
      simp [tellsAnew, Entry.isBroadcast]
    · exact swallowed on silent

/-- **From an acceptance on that is told, who has been there is told as something new just
what is not swallowed.** The induction is on the broadcasts. -/
theorem freshlyTold_eq (o : Orderly h) (e : h = later ++ ⟨time, .turned (.fused r)⟩ :: earlier)
    (there : l ∈ earlier.audience) (stays : later.Stays l) (idle : earlier.telling = false) :
    freshlyTold l (later ++ [⟨time, .turned (.fused r)⟩])
      = unswallowed (later ++ [⟨time, .turned (.fused r)⟩]) := by
  induction o generalizing later with
  | nil => simp at e
  | @aside n h o hn ih =>
    rcases List.cons_eq_append_iff.mp e with ⟨-, first⟩ | ⟨later', rfl, rest⟩
    · cases first
      cases hn
    · obtain ⟨-, -, hf, hu⟩ := readings_cons_of_isAside hn l (later' ++ [⟨time, .turned (.fused r)⟩])
      rw [List.cons_append, hf, hu]
      exact ih rest (stays.of_suffix (List.suffix_cons n later'))
  | @accept r₁ time₁ h h' o a ih =>
    rcases a.split e with ⟨start, stop, s, later', round, rfl, before⟩ | ⟨on, -⟩
    · have shorter := suffix_airing r₁ true start stop s later'
      rw [airing_append]
      refine (round.freshlyTold a.distinct).trans (Eq.trans ?_ round.unswallowed.symm)
      rcases List.cons_eq_append_iff.mp before with ⟨rfl, first⟩ | ⟨later'', rfl, rest⟩
      · cases first
        rw [if_pos ⟨there, rfl⟩]
        rfl
      · have stays' := stays.of_suffix shorter
        have stays'' := stays'.of_suffix (List.suffix_cons _ later'')
        have listens : l ∈ audience (⟨time₁, .turned (.fused r₁)⟩ :: h) := by
          rw [before]
          exact mem_audience_append stays' there
        -- Between two broadcasts none is on, so the reading of this one is told and not swallowed.
        have counts := unswallowed_cons time₁ r₁ idle (rest ▸ o.telling)
        rw [if_pos ⟨listens, rfl⟩]
        exact (congrArg (r₁ :: ·) (ih rest stays'')).trans counts.symm
    · exact absurd (idle.symm.trans on) Bool.false_ne_true
  | @alert r₁ h h' o a ih =>
    rcases a.split e with ⟨start, stop, s, later', round, rfl, before⟩ | ⟨on, -⟩
    · rw [airing_append]
      refine (round.freshlyTold a.distinct).trans (Eq.trans ?_ round.unswallowed.symm)
      rw [if_neg (by simp)]
      exact ih before (stays.of_suffix (suffix_airing ..))
    · exact absurd (idle.symm.trans on) Bool.false_ne_true

end Orderly

/-! ### Near and far alternate -/

/-- Each reading differs from the next. -/
def Alternate (readings : List Reading) : Prop := readings.IsChain fun r r' => r.near ≠ r'.near

instance (readings : List Reading) : Decidable (Alternate readings) :=
  inferInstanceAs (Decidable (readings.IsChain fun r r' => r.near ≠ r'.near))

/-- A reading that is accepted differs from the one fused last. -/
def Differs (n : Note) (earlier : History) : Prop :=
  ∀ r, n.entry = .turned (.fused r) → earlier.fused.map (·.near) ≠ some r.near

/-- **Readings are accepted only for a change.** -/
structure Varied (v : View) : Prop where
  /-- The memory of the fusion is faithful. -/
  faithful : Faithful v
  /-- Whatever was accepted was a change. -/
  fused : v.history.Always Differs

/-- Whether nothing is accepted by an entry. -/
abbrev Entry.isUnfused (entry : Entry) : Bool := entry.fused?.isNone

variable {v v' : View}

theorem Plainly.unfused (hp : Plainly v v') : Adds Entry.isUnfused v v' := by
  refine hp.mono fun e he => ?_
  cases e with
  | turned t =>
    cases t with
    | fused => cases he
    | _ => rfl
  | _ => rfl

namespace Varied

theorem unfused (hv : Varied v) (hu : Adds Entry.isUnfused v v') (f : Faithful v') :
    Varied v' := by
  refine ⟨f, hv.fused.since hu.history fun n _ hn r e => ?_⟩
  rw [e] at hn
  cases hn

/-- Only a change is accepted. -/
theorem deed (hd : Deed v v') (hv : Varied v) : Varied v' := by
  have f := hv.faithful.deed hd
  cases hd with
  | move hm => exact hv.unfused (Plainly.move hm).unfused f
  | going hg => exact hv.unfused (Plainly.going hg).unfused f
  | telling ht => exact hv.unfused (by cases ht <;> exact .one rfl rfl rfl rfl) f
  | giving hg =>
    cases hg with
    | close hc => exact hv.unfused (Plainly.close hc).unfused f
    | reply | balk => exact hv.unfused (.one rfl rfl rfl rfl) f
  | taking ht =>
    cases ht with
    | passOver hh => exact hv.unfused (Quietly.heard hh).plainly.unfused f
    | @accept r _ u hh news =>
      -- A reading like the one fused last would have been passed over.
      have hu := hv.unfused (Quietly.heard hh).plainly.unfused (hv.faithful.heard hh)
      refine ⟨f, u.history_accept r ▸ .cons (fun r' e => ?_) hu.fused⟩
      cases e
      exact hu.faithful.fused ▸ news

end Varied

theorem Reached.varied {b : Bench} (h : Reached b) : Varied b.view := by
  refine (Law.ofInvariant Varied.deed).invariant (fun v p => ⟨p.faithful, ?_⟩) h
  rw [p.history]
  exact .nil

namespace History

theorem head?_accepted (untorn : later.Untorn) :
    (accepted (later ++ [⟨time, .turned (.fused r)⟩])).head?
      = fused (later ++ ⟨time, .turned (.fused r)⟩ :: earlier) := by
  induction later with
  | nil => rfl
  | cons n later ih =>
    have ih := ih fun m hm => untorn m (List.mem_cons_of_mem n hm)
    have remains := untorn n List.mem_cons_self
    rcases n with ⟨_, entry⟩
    cases entry with
    | turned t =>
      cases t with
      | tornDown => cases remains
      | fused => rfl
      | _ => exact ih
    | _ => exact ih

/-- **Near and far alternate in what is accepted**, as long as nothing is torn down. -/
theorem alternate_accepted (untorn : later.Untorn)
    (hd : Always Differs (later ++ ⟨time, .turned (.fused r)⟩ :: earlier)) :
    Alternate (accepted (later ++ [⟨time, .turned (.fused r)⟩])) := by
  induction later with
  | nil => exact List.isChain_singleton r
  | cons n later ih =>
    have untorn' : Untorn later := fun m hm => untorn m (List.mem_cons_of_mem n hm)
    have ih := ih untorn' hd.tail
    rw [List.cons_append, accepted, List.filterMap_cons]
    split
    · exact ih
    · rename_i r' e
      refine List.IsChain.cons ih fun r'' last same => ?_
      have last' : fused (later ++ ⟨time, .turned (.fused r)⟩ :: earlier) = some r'' :=
        (head?_accepted untorn').symm.trans last
      refine hd.head r' (Entry.eq_of_fused? e) ((congrArg (Option.map (·.near)) last').trans ?_)
      exact congrArg some same.symm

end History

/-! ### Notifications and swallowed readings -/

variable {b : Bench}

/-- **The last fused reading is known to whoever stays, unless it was swallowed.** If there
is one, it was accepted at some point of the history. Whoever listened then and has not left
since was told it last if and only if it was not accepted while a broadcast was on, or another
broadcast has come. And from any acceptance on that was not swallowed, such a listener is told,
as something new, just what is not swallowed; since near and far alternate in what is
accepted, they alternate in what is told when nothing is swallowed. -/
theorem told_iff_not_swallowed (h : Reached b) :
    (∀ r, b.fusion.lastFused = some r →
        ∃ (later : History) (time : Number) (earlier : History),
          b.history = later ++ ⟨time, .turned (.fused r)⟩ :: earlier ∧ later.Latest)
      ∧ ∀ (later : History) (time : Number) (r : Reading) (earlier : History) (l : Listener),
        b.history = later ++ ⟨time, .turned (.fused r)⟩ :: earlier →
        l ∈ earlier.audience → later.Stays l →
          (later.Latest →
            (later.heard l = some r ↔ earlier.telling = false ∨ later.tellsAnew = true))
          ∧ (earlier.telling = false →
            freshlyTold l (later ++ [⟨time, .turned (.fused r)⟩])
              = unswallowed (later ++ [⟨time, .turned (.fused r)⟩]))
          ∧ (later.Untorn → Alternate (accepted (later ++ [⟨time, .turned (.fused r)⟩]))) := by
  have varied := h.varied
  have differs : b.history.Always Differs := varied.fused
  refine ⟨fun r last => ?_, fun later time r earlier l split there stays => ⟨?_, ?_, ?_⟩⟩
  · exact exists_latest (varied.faithful.fused.symm.trans last)
  · exact h.orderly.heard_iff split there stays
  · exact h.orderly.freshlyTold_eq split there stays
  · exact fun untorn => alternate_accepted untorn (split ▸ differs)

/-- Where a note of a history is about an acceptance. -/
theorem History.split_of_fused? {k : Nat} (e : (h[k]?.bind (·.entry.fused?)) = some r) :
    ∃ time, h = h.take k ++ ⟨time, .turned (.fused r)⟩ :: h.drop (k + 1) := by
  obtain ⟨⟨time, entry⟩, hn, he⟩ := Option.bind_eq_some_iff.mp e
  obtain ⟨hk, hn⟩ := List.getElem?_eq_some_iff.mp hn
  obtain rfl := Entry.eq_of_fused? he
  refine ⟨time, ?_⟩
  rw [← hn, ← List.drop_eq_getElem_cons hk, List.take_append_drop]

/-- Sessions in which a reading is swallowed: something comes near, the secondary confirms it,
and the first listener to be told enters safe mode, upon which the secondary reports from
inside that call that nothing is near. -/
def swallowedSession (more : List Step) : Bench :=
  (Scenario.ofSensors (.standIn true [] []) (.standIn true [some true, some false] [])
    [("a", [[.safe true]])]).after
    ([.join "a", .join "b", .event .primary true none] ++ more)

theorem reached_swallowedSession (more : List Step) : Reached (swallowedSession more) :=
  Scenario.reached_after rfl (by decide +kernel) _

/-- **A reading can be swallowed.** The fused reading is that nothing is near; both listeners
were there when it was accepted and have stayed, and what they were told last is that something
is near. When something comes near again, they are told so for the second time. -/
theorem swallowed_session :
    (∃ (later : History) (time : Number) (earlier : History),
      (swallowedSession []).history = later ++ ⟨time, .turned (.fused ⟨false, 2⟩)⟩ :: earlier
        ∧ later.Latest ∧ Listener.named "b" ∈ earlier.audience ∧ later.Stays (.named "b")
        ∧ (swallowedSession []).fusion.lastFused = some ⟨false, 2⟩
        ∧ heard (.named "b") (swallowedSession []).history = some ⟨true, 1⟩)
      ∧ (swallowedSession [.event .secondary true none]).history.Untorn
      ∧ (swallowedSession [.event .secondary true none]).history.Stays (.named "b")
      ∧ ¬ Alternate
        (freshlyTold (.named "b") (swallowedSession [.event .secondary true none]).history) := by
  refine ⟨?_, by decide +kernel, by decide +kernel, by decide +kernel⟩
  obtain ⟨time, split⟩ := split_of_fused? (h := (swallowedSession []).history) (k := 2)
    (r := ⟨false, 2⟩) (by decide +kernel)
  refine ⟨_, time, _, split, ?_, ?_, ?_, ?_, ?_⟩
  all_goals decide +kernel

/-- When the listeners ask, they are told what was swallowed. -/
theorem told_iff_not_swallowed_session :
    ∃ (later : History) (time : Number) (earlier : History),
      (swallowedSession [.alert]).history = later ++ ⟨time, .turned (.fused ⟨false, 2⟩)⟩ :: earlier
        ∧ earlier.telling = true ∧ heard (.named "b") later = some ⟨false, 2⟩ := by
  obtain ⟨time, split⟩ := split_of_fused? (h := (swallowedSession [.alert]).history) (k := 6)
    (r := ⟨false, 2⟩) (by decide +kernel)
  refine ⟨_, time, _, split, by decide +kernel, ?_⟩
  have told := (told_iff_not_swallowed (reached_swallowedSession [.alert])).2 _ time _ _
    (.named "b") split (by decide +kernel) (by decide +kernel)
  exact (told.1 (by decide +kernel)).mpr (.inr (by decide +kernel))

end Proximity
