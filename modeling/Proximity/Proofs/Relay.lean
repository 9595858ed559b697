import Proximity.Proofs.Notification
import Proximity.Proofs.Records

/-!
# A fusion without a secondary

Where there is no secondary, what the primary says should go straight through to the listeners.
There are two stages on the way that drop what says nothing new: the fusion passes over a reading
of the primary that is like the one before (`Proximity.Fusion.onPrimary`), and it accepts no
reading that is like the last fused one (`Proximity.Fusion.accept`). Both forget when everything
is torn down, and only then.

So one stage would do. It is `Proximity.History.changes`, which looks at the readings of the
primary alone: a reading counts if it differs from the one before, and the first one counts after
everything was torn down. The main statement is `Proximity.relayed`:

| what | is what else |
|---|---|
| the last reading of the primary that was no repetition | the last fused reading |
| the readings that are accepted | the changes |
| the readings that are broadcast as news | the changes, if none comes in the middle of a broadcast |
| what a listener that stays is told as news | what is broadcast as news while it is there |

A secondary that is not there could still be made to report by whoever holds it. That it never
does is a condition on the history, `Proximity.History.unspoken`. Nor is any reading of the primary
left out of the history: what it tells the fusion is noted as it comes in
(`Proximity.Records.tell`), and whoever makes it report makes it tell the fusion
(`Proximity.Records.event`).
-/

namespace Proximity

open Act Session

/-! ### Changes -/

/-- Whether an entry is about no reading that comes in or is accepted. -/
def Entry.isUnread : Entry → Bool
  | .turned (.sensed _ _) | .turned (.fused _) => false
  | _ => true

/-- The reading that is broadcast as news from an entry on. -/
def Entry.news? : Entry → Option Reading
  | .turned (.broadcast r true) => some r
  | _ => none

namespace History

/-- **The changes of what the primary says**, the latest first: its readings without those that
say the same as the one before, unless everything was torn down in between. -/
def changes : History → List Reading
  | [] => []
  | n :: earlier =>
    match n.entry with
    | .turned (.sensed .primary r) =>
      if primary earlier = some r.near then changes earlier else r :: changes earlier
    | _ => changes earlier

/-- The readings that are broadcast as news, the latest first. -/
def announced (h : History) : List Reading := h.filterMap (·.entry.news?)

/-- Whether the secondary has never said anything. -/
def unspoken : History → Bool
  | [] => true
  | n :: earlier =>
    match n.entry with
    | .turned (.sensed .secondary _) => false
    | _ => unspoken earlier

/-- Whether no reading of the primary comes in the middle of a broadcast, as it might if a
listener that is told something made the primary report. -/
def unbroken : History → Bool
  | [] => true
  | n :: earlier =>
    match n.entry with
    | .turned (.sensed .primary _) => !telling earlier && unbroken earlier
    | _ => unbroken earlier

variable {h : History} {n : Note} {r : Reading} {time : Number}

/-- Where nothing comes in and nothing is accepted, there is nothing to relay. -/
theorem relay_cons_of_isUnread (hn : n.entry.isUnread = true) (h : History) :
    changes (n :: h) = changes h ∧ accepted (n :: h) = accepted h
      ∧ unswallowed (n :: h) = unswallowed h ∧ unspoken (n :: h) = unspoken h
      ∧ unbroken (n :: h) = unbroken h := by
  rcases n with ⟨time, entry⟩
  cases entry with
  | turned t =>
    cases t with
    | sensed | fused => cases hn
    | _ => exact ⟨rfl, rfl, rfl, rfl, rfl⟩
  | _ => exact ⟨rfl, rfl, rfl, rfl, rfl⟩

theorem changes_cons_of_news (news : primary h ≠ some r.near) :
    changes (⟨time, .turned (.sensed .primary r)⟩ :: h) = r :: changes h := if_neg news

theorem changes_cons_of_same (same : primary h = some r.near) :
    changes (⟨time, .turned (.sensed .primary r)⟩ :: h) = changes h := if_pos same

end History

/-! ### What a fusion relays -/

/-- **A fusion relays what the primary says.** -/
structure Relays (v : View) : Prop where
  /-- What it remembers is faithful to the history. -/
  faithful : Faithful v
  /-- It remembers the same reading as the primary's last and as the last fused one. -/
  same : v.fusion.lastPrimary = v.fusion.lastFused
  /-- Just the changes are accepted. -/
  accepted : v.history.accepted = v.history.changes
  /-- None of them is swallowed, unless one comes in the middle of a broadcast. -/
  unswallowed : v.history.unbroken = true → v.history.unswallowed = v.history.accepted

namespace Relays

variable {v v' : View}

theorem unread (h : Relays v) (hu : Adds Entry.isUnread v v') (f : Faithful v')
    (same : v'.fusion.lastPrimary = v'.fusion.lastFused) : Relays v' := by
  obtain ⟨changes, accepted, unswallowed, unbroken⟩ := hu.history.keeps
    (P := fun g => g.changes = v.history.changes ∧ g.accepted = v.history.accepted
      ∧ g.unswallowed = v.history.unswallowed ∧ g.unbroken = v.history.unbroken)
    ⟨rfl, rfl, rfl, rfl⟩ fun n g hn ih => by
      obtain ⟨changes, accepted, unswallowed, -, unbroken⟩ := History.relay_cons_of_isUnread hn g
      exact ⟨changes.trans ih.1, accepted.trans ih.2.1, unswallowed.trans ih.2.2.1,
        unbroken.trans ih.2.2.2⟩
  refine ⟨f, same, accepted.trans (h.accepted.trans changes.symm), fun whole => ?_⟩
  rw [unswallowed, accepted]
  exact h.unswallowed (unbroken.symm.trans whole)

/-- A reading like the last one of the primary is no change. -/
theorem again (h : Relays v) {r : Reading} (old : ¬ v.isNews r) :
    Relays (v.turn (.sensed .primary r)) where
  faithful := h.faithful.move (.again v r old)
  same := h.same
  accepted := by
    have repeated : v.history.primary = some r.near :=
      h.faithful.primary.symm.trans (not_not.mp old)
    exact h.accepted.trans (History.changes_cons_of_same repeated).symm
  unswallowed whole := h.unswallowed (Bool.and_eq_true_iff.mp whole).2

/-- **A change is accepted at once**, and becomes the last fused reading. -/
theorem alone (h : Relays v) {r : Reading} (news : v.isNews r) :
    Relays ((v.sense r).accept r) := by
  have changed : v.history.primary ≠ some r.near := h.faithful.primary ▸ news
  refine ⟨(h.faithful.sense r).accept r, ?_, ?_, ?_⟩
  · rw [View.accept]
    split <;> rfl
  · rw [View.history_accept]
    have grown : ((v.sense r).history).changes = r :: v.history.changes :=
      History.changes_cons_of_news changed
    exact (congrArg (r :: ·) h.accepted).trans grown.symm
  · rw [View.history_accept]
    intro whole
    obtain ⟨quiet, before⟩ := Bool.and_eq_true_iff.mp whole
    have quiet : v.history.telling = false := by simpa using quiet
    -- No broadcast is on, so the reading is not swallowed.
    exact (if_neg (ne_true_of_eq_false quiet)).trans (congrArg (r :: ·) (h.unswallowed before))

/-! ### Stopping -/

theorem same_tearDown (h : v.fusion.lastPrimary = v.fusion.lastFused) :
    v.tearDown.fusion.lastPrimary = v.tearDown.fusion.lastFused := by
  rw [View.tearDown]
  split
  · rfl
  · exact h

theorem same_drop (h : v.fusion.lastPrimary = v.fusion.lastFused) (l : Listener) :
    (v.drop l).fusion.lastPrimary = (v.drop l).fusion.lastFused := by
  rw [View.drop]
  split <;> exact h

theorem same_leave (h : v.fusion.lastPrimary = v.fusion.lastFused) (l : Listener) :
    (v.leave l).fusion.lastPrimary = (v.leave l).fusion.lastFused := by
  rw [View.leave]
  split
  · exact same_tearDown (same_drop h l)
  · exact same_drop h l

theorem same_join (h : v.fusion.lastPrimary = v.fusion.lastFused) (l : Listener) :
    (v.join l).fusion.lastPrimary = (v.join l).fusion.lastFused := by
  rw [View.join]
  split <;> exact h

/-! ### Deeds -/

/-- What another thread is refused says nothing of readings. -/
theorem fatal {entry : Entry} (h : Relays v) (he : entry.isFatal = true) :
    Relays (v.note entry) := by
  have f := h.faithful.fatal he
  obtain ⟨_, _, _, rfl⟩ := Entry.exists_of_isFatal he
  exact h.unread (.one rfl rfl rfl rfl) f h.same

theorem move (hm : Move v v') (h : Relays v) (alone : v.secondaryThere = false)
    (unspoken : v'.history.unspoken = true) : Relays v' := by
  have f := h.faithful.move hm
  cases hm with
  | again r old => exact h.again old
  | consult r _ _ there | await r _ _ there | verify r _ _ there =>
    cases alone.symm.trans there
  -- The secondary says nothing.
  | disown => cases unspoken
  | overhear r =>
    rw [View.history_second] at unspoken
    cases unspoken
  | pause => exact h.unread (.pause v rfl rfl) f (same_tearDown h.same)
  | leave name => exact h.unread (.leave v rfl rfl) f (same_leave h.same _)
  | mode on => cases on <;> exact h.unread (.one rfl rfl rfl rfl) f h.same
  | elapse | tag | link => exact h.unread (.none rfl rfl rfl) f h.same
  | sample | ready | enqueue | recheck => exact h.unread (.one rfl rfl rfl rfl) f h.same
  | refuse he => exact h.fatal he
  | @lapse t _ _ _ he =>
    have struck : Relays (v.strike t) := h.unread (.none rfl rfl rfl) { h.faithful with } h.same
    exact struck.fatal he
  | @strand timeout c _ _ _ _ he =>
    have opened : Relays (v.openCheck timeout c) :=
      h.unread (.one rfl rfl rfl rfl) { h.faithful with } h.same
    exact opened.fatal he
  | abandon near he =>
    have taken : Relays (v.take near).stopTimer :=
      h.unread (.taken v fun _ => rfl) { h.faithful with } h.same
    exact taken.fatal he
  | @forsake t _ _ _ he =>
    have taken : Relays ((v.giveUp t).take none).stopTimer :=
      h.unread (.one rfl rfl rfl rfl) { h.faithful with } h.same
    exact taken.fatal he

theorem deed (hd : Deed v v') (h : Relays v) (alone : v.secondaryThere = false)
    (unspoken : v'.history.unspoken = true) : Relays v' := by
  have f := h.faithful.deed hd
  cases hd with
  | move hm => exact h.move hm alone unspoken
  | going hg =>
    cases hg with
    | activate => exact h.unread (.one rfl rfl rfl rfl) f h.same
    | rise hr =>
      cases hr with
      | join name => exact h.unread (.join v rfl) f (same_join h.same _)
      | resume => exact h.unread (.one rfl rfl rfl rfl) f h.same
      | @begin timeout c =>
        have opened : Adds Entry.isUnread v (v.openCheck timeout c) := .one rfl rfl rfl rfl
        exact h.unread (opened.trans (.join _ rfl)) f (same_join (v := v.openCheck timeout c) h.same _)
  | taking ht =>
    cases ht with
    | @passOver r _ _ hh old =>
      cases hh with
      -- What differs from the last reading of the primary differs from the last fused one.
      | alone news =>
        have last : v.fusion.lastPrimary.map (·.near) = v.fusion.lastFused.map (·.near) :=
          congrArg (Option.map (·.near)) h.same
        exact absurd (last.trans old) news
      | gone _ _ there => cases alone.symm.trans there
      | counted =>
        rw [View.history_second] at unspoken
        cases unspoken
    | @accept r _ u hh =>
      cases hh with
      | alone news => exact h.alone news
      | gone _ _ there => cases alone.symm.trans there
      | counted =>
        rw [View.history_accept, View.history_second] at unspoken
        cases unspoken
  | telling ht => cases ht <;> exact h.unread (.one rfl rfl rfl rfl) f h.same
  | giving hg =>
    cases hg with
    | reply | balk => exact h.unread (.one rfl rfl rfl rfl) f h.same
    | close hc =>
      refine h.unread (.close hc (fun _ _ => rfl) (fun _ _ => rfl) rfl rfl) f ?_
      cases hc with
      | reading => exact same_leave (v := (v.take _).stopTimer) h.same _
      | @expiry t => exact same_leave (v := ((v.giveUp t).take none).stopTimer) h.same _
      | decline => exact h.same

end Relays

/-- No deed takes anything out of the history, or takes a sensor away. -/
theorem Deed.adds {v v' : View} (hd : Deed v v') : Adds (fun _ => true) v v' := by
  cases hd with
  | move hm => exact (Plainly.move hm).mono fun _ _ => rfl
  | going hg => exact (Plainly.going hg).mono fun _ _ => rfl
  | taking ht =>
    cases ht with
    | passOver hh => exact (Quietly.heard hh).mono fun _ _ => rfl
    | @accept r _ u hh =>
      have heard : Adds (fun _ => true) v u := (Quietly.heard hh).mono fun _ _ => rfl
      refine heard.trans ?_
      rw [View.accept]
      split <;> exact .one rfl rfl rfl rfl
  | telling ht => cases ht <;> exact .one rfl rfl rfl rfl
  | giving hg =>
    cases hg with
    | close hc => exact .close hc (fun _ _ => rfl) (fun _ _ => rfl) rfl rfl
    | reply | balk => exact .one rfl rfl rfl rfl

/-- Who has never said anything had never said anything before. -/
theorem History.unspoken_of_suffix {x h : History} (hh : h.unspoken = true) (hx : x <:+ h) :
    x.unspoken = true := by
  obtain ⟨later, rfl⟩ := hx
  induction later with
  | nil => exact hh
  | cons n later ih =>
    refine ih ?_
    rw [List.cons_append, unspoken] at hh
    split at hh
    · cases hh
    · exact hh

/-- **Every deed leaves a fusion relaying**, as long as there is no secondary and it says
nothing. -/
theorem law_relays : Law fun v v' =>
    (v.secondaryThere = false → v.history.unspoken = true → Relays v) →
      v'.secondaryThere = false → v'.history.unspoken = true → Relays v' :=
  .ofInvariant (P := fun v => v.secondaryThere = false → v.history.unspoken = true → Relays v)
    fun hd h alone unspoken => by
      have grown := hd.adds
      have alone := grown.secondary.symm.trans alone
      exact (h alone (History.unspoken_of_suffix unspoken grown.history.suffix)).deed hd alone
        unspoken

/-! ### What is broadcast as news -/

section

variable {r : Reading} {wasFresh : Bool} {h h' later s x : History} {l : Listener}
variable {start : Number} {listeners : List Listener}

open History

theorem Round.announced (hs : Round r listeners s) :
    History.announced (s ++ ⟨start, .turned (.broadcast r wasFresh)⟩ :: x)
      = (if wasFresh = true then [r] else []) ++ History.announced x := by
  have silent : History.announced s = [] := by
    refine List.filterMap_eq_nil_iff.mpr fun n hn => ?_
    have inner := hs.inner n hn
    rcases n with ⟨time, entry⟩
    cases entry with
    | turned t =>
      cases t with
      | broadcast => cases inner
      | _ => rfl
    | _ => rfl
  rw [History.announced, List.filterMap_append, show s.filterMap _ = [] from silent]
  cases wasFresh <;> rfl

theorem History.announced_cons_of_isAside {n : Note} (hn : n.entry.isAside = true) (h : History) :
    announced (n :: h) = announced h := by
  rcases n with ⟨time, entry⟩
  cases entry with
  | turned t =>
    cases t with
    | broadcast => cases hn
    | _ => rfl
  | _ => rfl

/-- Where a history with a broadcast at its end can be cut while no broadcast is on: after the
broadcast, or before it. -/
theorem Aired.split_idle (a : Aired r wasFresh h h') (e : h' = later ++ x)
    (idle : x.telling = false) :
    later = [] ∨ ∃ start stop s later', Round r h.audience s
      ∧ later = airing r wasFresh start stop s later' ∧ h = later' ++ x := by
  obtain ⟨start, stop, s, round, rfl⟩ := a.round
  rcases List.cons_eq_append_iff.mp e with ⟨none, -⟩ | ⟨later₁, rfl, rest⟩
  · exact .inl none
  rcases List.append_eq_append_iff.mp rest with ⟨before, rfl, tail⟩ | ⟨inside, rfl, tail⟩
  · rcases List.cons_eq_append_iff.mp tail with ⟨rfl, rfl⟩ | ⟨later', rfl, before⟩
    · cases idle
    · exact .inr ⟨start, stop, s, later', round, rfl, before⟩
  · rw [tail, telling_append fun n hn => round.inner n (List.mem_append_right _ hn)] at idle
    cases idle

namespace Orderly

/-- **What is broadcast as news is what is not swallowed.** -/
theorem announced_eq (o : Orderly h) : h.announced = h.unswallowed := by
  induction o with
  | nil => rfl
  | @aside n h o hn ih =>
    obtain ⟨-, -, -, unswallowed⟩ := readings_cons_of_isAside hn (.named "") h
    rw [announced_cons_of_isAside hn, unswallowed, ih]
  | @accept r time h h' o a ih =>
    obtain ⟨start, stop, s, round, rfl⟩ := a.round
    have counts : unswallowed (⟨time, .turned (.fused r)⟩ :: h) = r :: unswallowed h :=
      if_neg (ne_true_of_eq_false o.telling)
    refine round.announced.trans (Eq.trans ?_ round.unswallowed.symm)
    exact (congrArg (r :: ·) ih).trans counts.symm
  | alert o a ih =>
    obtain ⟨start, stop, s, round, rfl⟩ := a.round
    exact round.announced.trans (ih.trans round.unswallowed.symm)

/-- **Who stays is told as news just what is broadcast as news.** The induction is on the
broadcasts. -/
theorem freshlyTold_eq_announced (o : Orderly h) (e : h = later ++ x) (idle : x.telling = false)
    (there : l ∈ x.audience) (stays : later.Stays l) :
    later.freshlyTold l = later.announced := by
  induction o generalizing later with
  | nil =>
    obtain ⟨rfl, -⟩ := List.append_eq_nil_iff.mp e.symm
    rfl
  | @aside n h o hn ih =>
    rcases List.cons_eq_append_iff.mp e with ⟨rfl, -⟩ | ⟨later', rfl, rest⟩
    · rfl
    · obtain ⟨-, -, told, -⟩ := readings_cons_of_isAside hn l later'
      rw [told, announced_cons_of_isAside hn]
      exact ih rest (stays.of_suffix (List.suffix_cons n later'))
  | @accept r time h h' o a ih =>
    rcases a.split_idle e idle with rfl | ⟨start, stop, s, later', round, rfl, before⟩
    · rfl
    have stays' := stays.of_suffix (suffix_airing r true start stop s later')
    have listens : l ∈ audience (⟨time, .turned (.fused r)⟩ :: h) := by
      rw [before]
      exact mem_audience_append stays' there
    refine (round.freshlyTold a.distinct).trans (Eq.trans ?_ round.announced.symm)
    rw [if_pos ⟨listens, rfl⟩, if_pos rfl]
    -- The acceptance itself is told by the broadcast that follows it.
    rcases List.cons_eq_append_iff.mp before with ⟨rfl, -⟩ | ⟨later'', rfl, rest⟩
    · rfl
    · have before := ih rest (stays'.of_suffix (List.suffix_cons _ later''))
      exact congrArg (r :: ·) before
  | @alert r h h' o a ih =>
    rcases a.split_idle e idle with rfl | ⟨start, stop, s, later', round, rfl, before⟩
    · rfl
    refine (round.freshlyTold a.distinct).trans (Eq.trans ?_ round.announced.symm)
    rw [if_neg (by simp), if_neg (by simp)]
    exact ih before (stays.of_suffix (suffix_airing ..))

end Orderly

end

/-! ### A fusion without a secondary -/

variable {b : Bench}

/-- **Without a secondary, what the primary says is passed through.** The last reading of the
primary that was no repetition is always the last fused one. In either mode, the readings that
are accepted are the changes of what the primary says, in their order. As long as no listener
makes the primary report while it is told something, the readings that are broadcast as news are
the changes, too; and whoever listens between two broadcasts is told as news from then on just
what is broadcast as news, until it leaves.

No reading of the primary is left out of this. Whatever it tells the fusion on the owner's thread, at
whatever depth of calls, comes in as a reading before anything else happens; and if the fusion
listens to it, that is what happens when somebody makes it report. -/
theorem relayed (h : Reached b) (alone : b.sensors.secondary.available = false)
    (unspoken : b.history.unspoken = true) :
    b.fusion.lastPrimary = b.fusion.lastFused
      ∧ b.history.accepted = b.history.changes
      ∧ (b.history.unbroken = true → b.history.announced = b.history.changes)
      ∧ (∀ (later earlier : History) (l : Listener), b.history = later ++ earlier →
          earlier.telling = false → l ∈ earlier.audience → later.Stays l →
            later.freshlyTold l = later.announced)
      ∧ (∀ m, OnThread m → ∀ r depth,
        Records [.turned (.sensed .primary r), .told (.fusion .primary) r]
          (Bench.tell (react (depth + 1)) (.fusion .primary) r) m)
      ∧ ∀ near stamp depth, OnThread b → b.sensors.primary.asStandIn.listeners ≠ [] →
        ∃ r, r.near = near ∧ Records [.turned (.sensed .primary r), .told (.fusion .primary) r]
          (perform (react (depth + 1)) (.event .primary near stamp)) b := by
  have relays : Relays b.view := by
    refine law_relays.invariant (fun v p _ _ => ?_) h alone unspoken
    obtain ⟨delay, fusion⟩ := p.fusion
    refine ⟨p.faithful, ?_, ?_, fun _ => ?_⟩
    · rw [fusion]
      rfl
    all_goals
      rw [p.history]
      rfl
  refine ⟨relays.same, relays.accepted, fun whole => ?_, ?_, ?_, ?_⟩
  · exact h.orderly.announced_eq.trans ((relays.unswallowed whole).trans relays.accepted)
  · exact fun later earlier l split idle there stays =>
      h.orderly.freshlyTold_eq_announced split idle there stays
  · exact fun m home r depth => Records.tell home Role.noConfusion r depth
  · intro near stamp depth home listens
    have listens : (b.sensors.get .primary).asStandIn.listeners ≠ [] := listens
    exact Records.event (law_relays.holds h).1 home listens near stamp depth

/-- A session without a secondary: the primary reports when it is switched on and repeats
itself, one of two listeners fails when it is told the first time, and the fusion is paused and
resumed and changes its mode. -/
def relayedSession : Bench :=
  (Scenario.ofSensors (.standIn true [some true] []) .absent [("b", [[.throwError "no"]])]).after
    [.join "b", .join "a", .event .primary true none, .safe true, .event .primary false none,
      .event .primary false none, .pause, .event .primary true none, .resume, .safe false,
      .event .primary true none, .event .primary false none]

/-- In that session, what is broadcast as news are the changes; the first one is that something
is near, as is the third one, after everything was torn down. When the primary is made to report once
more, that comes in, too. -/
theorem relayed_session :
    relayedSession.sensors.secondary.available = false ∧ relayedSession.history.unspoken = true
      ∧ relayedSession.history.unbroken = true
      ∧ relayedSession.history.announced.map (·.near) = [false, true, false, true]
      ∧ ∃ r, r.near = true ∧ Records [.turned (.sensed .primary r), .told (.fusion .primary) r]
        (perform (react 1) (.event .primary true none)) relayedSession := by
  have reached : Reached relayedSession := Scenario.reached_after rfl (by decide +kernel) _
  obtain ⟨-, -, changes, -, -, reports⟩ := relayed reached (by decide +kernel) (by decide +kernel)
  refine ⟨by decide +kernel, by decide +kernel, by decide +kernel, ?_, ?_⟩
  · rw [changes (by decide +kernel)]
    decide +kernel
  · exact reports true none 0 (by decide +kernel) (by decide +kernel)

end Proximity
