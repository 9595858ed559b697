import Proximity.Proofs.Audience

/-!
# Broadcasts are orderly

However listeners call the fusion back while they are being told something, a history
falls into broadcasts and what lies between them (`Proximity.Orderly`):

* a reading is accepted while no broadcast is on, and a broadcast of it follows at once;
* somebody asks for the last fused reading, and a broadcast of it follows;
* all else lies *aside*: nothing is accepted or told by it.

In a broadcast all who listened at its start are told, each once, one after the other
(`Proximity.Round`). What comes between is what they do when they are told, and that may
be anything but another broadcast: it is *mute*. Readings may be accepted by it, which
nobody is told of then.

That histories are orderly is no property of single deeds, since a broadcast is not over
with the calls it begins with. So it is proved as a law (`Proximity.law_seemly`), which
says of everything that is done while a broadcast is on that it is mute, and of
everything else that it is orderly.
-/

namespace Proximity

open Act Session

/-- Whether an entry neither begins nor ends a broadcast. -/
def Entry.isInner : Entry → Bool
  | .turned (.broadcast _ _) | .turned .hushed => false
  | _ => true

/-- Whether an entry is about no broadcast. -/
def Entry.isMute : Entry → Bool
  | .told _ _ | .turned (.broadcast _ _) | .turned .hushed => false
  | _ => true

/-- Whether an entry is about no broadcast, nor about a reading that calls for one. -/
def Entry.isAside : Entry → Bool
  | .told _ _ | .turned (.broadcast _ _) | .turned .hushed | .turned (.fused _) => false
  | _ => true

theorem Entry.isInner_of_isMute {entry : Entry} (h : entry.isMute = true) :
    entry.isInner = true := by
  cases entry with
  | turned t => cases t <;> exact h
  | _ => rfl

theorem Entry.isMute_of_isAside {entry : Entry} (h : entry.isAside = true) :
    entry.isMute = true := by
  cases entry with
  | turned t =>
    cases t with
    | fused => rfl
    | _ => exact h
  | _ => exact h

theorem Entry.isAside_of_isPlain {entry : Entry} (h : entry.isPlain = true) :
    entry.isAside = true := by
  cases entry with
  | turned t =>
    cases t with
    | replied | balked => rfl
    | _ => exact h
  | _ => exact h

/-- **Listeners are told a reading**, each once and in their order. Between that there is
what they do when they are told. -/
inductive Round (r : Reading) : List Listener → History → Prop where
  /-- Nobody has been told yet. -/
  | start : Round r [] []
  /-- One more is told. -/
  | tell {listeners : List Listener} {s : History} (time : Number) (l : Listener) :
      Round r listeners s → Round r (listeners ++ [l]) (⟨time, .told l r⟩ :: s)
  /-- Whoever is told does something. -/
  | mute {listeners : List Listener} {s : History} {n : Note} :
      Round r listeners s → n.entry.isMute = true → Round r listeners (n :: s)

/-- **A broadcast of the last fused reading**, from its beginning to its end. -/
structure Aired (r : Reading) (fresh : Bool) (h h' : History) : Prop where
  /-- The reading is the last fused one. -/
  fused : h.fused = some r
  /-- Nobody listens twice. -/
  distinct : h.audience.Nodup
  /-- All who listen are told. -/
  round : ∃ (start stop : Number) (s : History), Round r h.audience s
    ∧ h' = ⟨stop, .turned .hushed⟩ :: (s ++ ⟨start, .turned (.broadcast r fresh)⟩ :: h)

/-- **A history without a broadcast that is still on**, broadcast by broadcast. -/
inductive Orderly : History → Prop where
  /-- Nothing has happened yet. -/
  | nil : Orderly []
  /-- Something lies aside. -/
  | aside {n : Note} {h : History} : Orderly h → n.entry.isAside = true → Orderly (n :: h)
  /-- A reading is accepted and told. -/
  | accept {r : Reading} {time : Number} {h h' : History} : Orderly h →
      Aired r true (⟨time, .turned (.fused r)⟩ :: h) h' → Orderly h'
  /-- The last fused reading is told again. -/
  | alert {r : Reading} {h h' : History} : Orderly h → Aired r false h h' → Orderly h'

variable {r : Reading} {fresh : Bool} {h h' s start : History} {n : Note}
variable {listeners : List Listener}

/-! ### Whether a broadcast is on -/

/-- What is inner begins and ends no broadcast. -/
theorem History.telling_append {new : History} (hn : ∀ n ∈ new, n.entry.isInner = true) :
    telling (new ++ h) = telling h := by
  induction new with
  | nil => rfl
  | cons n new ih =>
    refine Eq.trans ?_ (ih fun m hm => hn m (List.mem_cons_of_mem n hm))
    have inner := hn n List.mem_cons_self
    rcases n with ⟨time, entry⟩
    cases entry with
    | turned t =>
      cases t with
      | broadcast | hushed => cases inner
      | _ => rfl
    | _ => rfl

theorem History.Since.telling (hh : h.Since Entry.isMute h') : h'.telling = h.telling := by
  obtain ⟨new, rfl, hnew⟩ := hh
  exact telling_append fun n hn => Entry.isInner_of_isMute (hnew n hn)

/-- Whatever happens while listeners are being told is inner. -/
theorem Round.inner (hs : Round r listeners s) : ∀ n ∈ s, n.entry.isInner = true := by
  induction hs with
  | start => exact fun n hn => absurd hn List.not_mem_nil
  | tell time l hs ih =>
    intro n hn
    rcases List.mem_cons.mp hn with rfl | hn
    · rfl
    · exact ih n hn
  | mute hs mute ih =>
    intro n hn
    rcases List.mem_cons.mp hn with rfl | hn
    · exact Entry.isInner_of_isMute mute
    · exact ih n hn

/-- Whoever is told may do what is mute. -/
theorem Round.since (hs : Round r listeners s) (hh : History.Since Entry.isMute (s ++ start) h') :
    ∃ s', h' = s' ++ start ∧ Round r listeners s' := by
  refine hh.keeps (P := fun h' => ∃ s', h' = s' ++ start ∧ Round r listeners s') ⟨s, rfl, hs⟩ ?_
  rintro n earlier hn ⟨s', e, hs'⟩
  exact ⟨n :: s', congrArg (n :: ·) e, .mute hs' hn⟩

namespace Orderly

theorem since (o : Orderly h) (hh : h.Since Entry.isAside h') : Orderly h' :=
  hh.keeps o fun _ _ hn o => o.aside hn

theorem telling (o : Orderly h) : h.telling = false := by
  induction o with
  | nil => rfl
  | @aside n h o hn ih =>
    have mute : h.Since Entry.isMute (n :: h) :=
      (History.Since.refl _ _).cons (Entry.isMute_of_isAside hn)
    exact mute.telling.trans ih
  | accept o a ih =>
    obtain ⟨start, stop, s, -, rfl⟩ := a.round
    rfl
  | alert o a ih =>
    obtain ⟨start, stop, s, -, rfl⟩ := a.round
    rfl

end Orderly

/-! ### Everything is seemly -/

/-- **What is done leaves broadcasts in order.** -/
structure Hosted (v v' : View) : Prop where
  /-- Listeners still come in one by one. -/
  attended : Attended v'
  /-- While a broadcast is on, what is done is mute. -/
  mute : v.history.telling = true → v.history.Since Entry.isMute v'.history
  /-- Otherwise it is orderly. -/
  orderly : Orderly v.history → Orderly v'.history

/-- What is done leaves broadcasts in order, provided that listeners come in one by one. -/
def Seemly (v v' : View) : Prop := Attended v → Hosted v v'

variable {v v' v'' : View}

theorem Hosted.trans (hh : Hosted v v') (hh' : Hosted v' v'') : Hosted v v'' where
  attended := hh'.attended
  mute on := (hh.mute on).trans (hh'.mute ((hh.mute on).telling.trans on))
  orderly o := hh'.orderly (hh.orderly o)

theorem Hosted.aside (hh : Adds Entry.isAside v v') (a : Attended v') : Hosted v v' where
  attended := a
  mute _ := hh.history.mono fun _ => Entry.isMute_of_isAside
  orderly o := o.since hh.history

namespace Seemly

theorem refl (v : View) : Seemly v v := fun a => ⟨a, fun _ => .refl _ _, id⟩

theorem trans (hh : Seemly v v') (hh' : Seemly v' v'') : Seemly v v'' :=
  fun a => (hh a).trans (hh' (hh a).attended)

/-- A deed that is aside is seemly. -/
theorem deed (hd : Deed v v') (hh : Adds Entry.isAside v v') : Seemly v v' :=
  fun a => .aside hh (a.deed hd)

theorem plain (hd : Deed v v') (hp : Plainly v v') : Seemly v v' :=
  deed hd (hp.mono fun _ => Entry.isAside_of_isPlain)

theorem giving (hg : Giving v v') : Seemly v v' := by
  cases hg with
  | close hc => exact plain (.giving (.close hc)) (.close hc)
  | reply _ ticket near => exact deed (.giving (.reply v ticket near)) (.one rfl rfl rfl rfl)
  | balk _ ticket => exact deed (.giving (.balk v ticket)) (.one rfl rfl rfl rfl)

end Seemly

theorem steady_seemly : Steady Seemly :=
  ⟨Seemly.refl, .trans, fun hm => .plain (.move hm) (.move hm)⟩

/-! ### Broadcasts -/

/-- **A broadcast is on**, and some listeners have been told. -/
structure Singing (r : Reading) (start : History) (told : List Listener) (v : View) : Prop where
  /-- Listeners come in one by one. -/
  attended : Attended v
  /-- Those have been told who are told first. -/
  round : ∃ s, v.history = s ++ start ∧ Round r told s

variable {b : Bench} {u : View} {call : Reactor} {R : View → View → Prop}

/-- One more listener is told. -/
theorem Singing.tell {told : List Listener} {l : Listener} {v v' : View}
    (hv : Singing r start told v) (begun : ∃ n ∈ start, n.entry = .turned (.broadcast r fresh))
    (on : start.telling = true) (shows : (Entry.told l r).isHistoric = true)
    (hosts : Seemly (v.note (.told l r)) v') : Singing r start (told ++ [l]) v' := by
  obtain ⟨s, history, round⟩ := hv.round
  have begun : ∃ n ∈ v.history, n.entry = .turned (.broadcast r fresh) := by
    obtain ⟨n, hn, e⟩ := begun
    exact ⟨n, history ▸ List.mem_append_right s hn, e⟩
  have noted : Round r (told ++ [l]) (⟨v.clock.now, .told l r⟩ :: s) := round.tell _ l
  have hosted := hosts (hv.attended.deed (.telling (.tell v begun shows)))
  have history' : (v.note (.told l r)).history = (⟨v.clock.now, .told l r⟩ :: s) ++ start := by
    rw [View.note, history]
    rfl
  have mute := hosted.mute (by rw [history', History.telling_append noted.inner, on])
  rw [history'] at mute
  exact ⟨hosted.attended, noted.since mute⟩

/-- **One listener is told after the other**, and then the program goes on. The induction
is on the listeners that are still to be told. -/
theorem leads_round (C : Reacts Seemly call) {told : List Listener} (listeners : List Listener)
    {k : Unit → Act Unit} (w : Wired b) (hv : Singing r start told b.view)
    (begun : ∃ n ∈ start, n.entry = .turned (.broadcast r fresh)) (on : start.telling = true)
    (shows : ∀ l ∈ listeners, (Entry.told l r).isHistoric = true)
    (goesOn : ∀ b', Wired b' → b.history <:+ b'.history →
      Singing r start (told ++ listeners) b'.view → Leads R u (k ()) b') :
    Leads R u (listeners.forM (fun l => Fusion.tellGuarded call r l) >>= k) b := by
  induction listeners generalizing b told with
  | nil => exact .read rfl (goesOn b w List.suffix_rfl ((List.append_nil told).symm ▸ hv))
  | cons l listeners ih =>
    have shown := shows l List.mem_cons_self
    obtain ⟨b₁, e₁, hv₁, s₁⟩ := exec_tellGuarded (b := b) call r l
    obtain ⟨w₁, g₁, r₁⟩ := C (.listener l r) (noted b (.told l r)) ((beside_noted b _).wired w)
    have grows : b.history <:+ b₁.history :=
      ((beside_noted b _).grows.trans g₁).trans s₁.grows
    have sung : Singing r start (told ++ [l]) b₁.view := by
      rw [view_noted shown, ← hv₁] at r₁
      exact hv.tell begun on shown r₁
    -- `goesOn` speaks of all who are told from `b` on, the first of them included.
    have rest : Leads R u (listeners.forM (fun l => Fusion.tellGuarded call r l) >>= k) b₁ := by
      refine ih (s₁.wired w₁) sung (fun l' hl' => shows l' (List.mem_cons_of_mem l hl')) ?_
      intro b' w' g' hv'
      have all := goesOn b' w' (grows.trans g')
      rw [List.append_assoc] at hv'
      exact all hv'
    rw [forM_cons]
    exact .of_beside (exec_bind_assoc ..) (.refl b) (.follow e₁ grows rest)

/-- What a call for a broadcast comes to: nothing, or all listeners are told the last fused
reading. -/
inductive Airing (fresh : Bool) (v v' : View) : Prop where
  /-- There is a broadcast on already. -/
  | busy : v.history.telling = true → v'.history = v.history → Airing fresh v v'
  /-- No reading has been fused. -/
  | silent : v.history.fused = none → v'.history = v.history → Airing fresh v v'
  /-- All listeners are told. -/
  | told {r : Reading} : v.history.telling = false → Aired r fresh v.history v'.history →
      Airing fresh v v'

/-- **A broadcast tells all listeners**, unless there is one on already or nothing to tell. -/
theorem leads_broadcast (C : Reacts Seemly call) (w : Wired b) (h : OnThread b) (fresh : Bool)
    (a : Attended b.view) :
    Leads (fun _ v' => Attended v' ∧ Airing fresh b.view v') u (Fusion.broadcast call fresh) b := by
  cases idle : b.fusion.telling with
  | true =>
    have busy : b.view.history.telling = true := a.faithful.telling.symm.trans idle
    exact .ends (ends_broadcast_of_telling call h fresh idle) w ⟨a, .busy busy rfl⟩
  | false =>
    have quiet : b.view.history.telling = false := a.faithful.telling.symm.trans idle
    cases fused : b.fusion.lastFused with
    | none =>
      have unknown : b.view.history.fused = none := a.faithful.fused.symm.trans fused
      exact .ends (ends_broadcast_of_none call h fresh idle fused) w ⟨a, .silent unknown rfl⟩
    | some r =>
      have known : b.view.history.fused = some r := a.faithful.fused.symm.trans fused
      refine .passes (passes_broadcast call h fresh idle fused) w fun b₁ hv₁ _ w₁ => ?_
      have hailed : Attended b₁.view := hv₁ ▸ a.deed (.telling (.hail b.view fresh idle fused))
      have begun : ∃ n ∈ (⟨b.clock.now, .turned (.broadcast r fresh)⟩ :: b.history : History),
          n.entry = .turned (.broadcast r fresh) := ⟨_, List.mem_cons_self, rfl⟩
      have nobody : Singing r (⟨b.clock.now, .turned (.broadcast r fresh)⟩ :: b.history) [] b₁.view :=
        ⟨hailed, [], congrArg View.history hv₁, .start⟩
      refine leads_round C b.fusion.listeners w₁ nobody begun rfl ?_ ?_
      · exact fun l hl => Entry.isHistoric_told (a.outer hl) r
      · intro b₂ w₂ _ hv₂
        obtain ⟨s, history, round⟩ := hv₂.round
        refine .ends ends_hush w₂ ⟨hv₂.attended.deed (.telling (.hush b₂.view)), ?_⟩
        have listeners : b.fusion.listeners = b.history.audience := a.faithful.listeners
        rw [List.nil_append, listeners] at round
        refine .told quiet ⟨known, ?_, b.clock.now, b₂.view.clock.now, s, round, ?_⟩
        · exact listeners ▸ a.distinct
        · exact congrArg (⟨b₂.view.clock.now, .turned .hushed⟩ :: ·) history

/-! ### The law -/

theorem hosted_alert (a : Attended v') (hb : Airing false v v') : Hosted v v' := by
  refine ⟨a, fun on => ?_, fun o => ?_⟩
  · cases hb with
    | busy _ same | silent _ same => exact same ▸ .refl _ _
    | told off => exact absurd (off.symm.trans on) Bool.false_ne_true
  · cases hb with
    | busy _ same | silent _ same => exact same ▸ o
    | told _ aired => exact o.alert aired

/-- A reading that is accepted is told, or else it is mute. -/
theorem hosted_accept {time : Number} (a : Attended v'')
    (accepted : v'.history = ⟨time, .turned (.fused r)⟩ :: v.history)
    (hb : Airing true v' v'') : Hosted v v'' := by
  have telling : v'.history.telling = v.history.telling := by rw [accepted]; rfl
  have fused : v'.history.fused = some r := by rw [accepted]; rfl
  refine ⟨a, fun on => ?_, fun o => ?_⟩
  · -- A broadcast is on: nobody is told, and nothing but the reading is added.
    cases hb with
    | busy _ same =>
      rw [same, accepted]
      exact (History.Since.refl _ _).cons rfl
    | silent unknown => cases fused.symm.trans unknown
    | told off => exact absurd (off.symm.trans (telling.trans on)) Bool.false_ne_true
  · -- None is on, since the history is orderly: the reading is told at once.
    cases hb with
    | busy on => exact absurd (o.telling.symm.trans (telling.symm.trans on)) Bool.false_ne_true
    | silent unknown => cases fused.symm.trans unknown
    | @told r' _ aired =>
      obtain rfl : r = r' := Option.some.inj (fused.symm.trans aired.fused)
      rw [accepted] at aired
      exact o.accept aired

/-- **Leaving broadcasts in order is a law.** -/
theorem law_seemly : Law Seemly where
  toSteady := steady_seemly
  rise {depth v b} C w _ hr := by
    have begun : Seemly v b.view := .plain (.going (.rise hr)) (.going (.rise hr))
    refine steady_seemly.leads (steady_seemly.keeps_activate C fun v => ?_) w begun
    exact .plain (.going (.activate v)) (.going (.activate v))
  accept {depth r v b} C w h heard := by
    -- The bench stays wired in any case; how broadcasts are left rests on `Attended v`.
    have tells := Steady.free.keeps_broadcast C.free (fun _ => trivial) true
    refine .on (Steady.free.leads_accept w h heard (fun _ => trivial) tells) fun a => ?_
    have quiet : Plainly v b.view := (Quietly.heard heard).plainly
    have counts : Hosted v b.view :=
      .aside (quiet.mono fun _ => Entry.isAside_of_isPlain)
        (a.unjoined (Quietly.heard heard).unjoined (a.faithful.heard heard))
    by_cases same : b.view.fusion.lastFused.map (·.near) = some r.near
    · exact .ends (ends_accept_of_same _ h same) w counts
    · refine .passes (passes_accept _ h same) w fun b₁ hv₁ s₁ w₁ => ?_
      have a₁ : Attended b₁.view := hv₁ ▸ a.deed (.taking (.accept heard same))
      obtain ⟨w₂, g₂, a₂, airing⟩ := leads_broadcast (u := v) C w₁ (s₁.onThread h) true a₁
      exact ⟨w₂, g₂, counts.trans (hosted_accept a₂ (hv₁ ▸ b.view.history_accept r) airing)⟩
  alert {depth} C b w := by
    refine .on (Steady.free.keeps_broadcast C.free (fun _ => trivial) false b w) fun a => ?_
    by_cases h : OnThread b
    · obtain ⟨w₁, g₁, a₁, airing⟩ := leads_broadcast (u := b.view) C w h false a
      exact ⟨w₁, g₁, hosted_alert a₁ airing⟩
    · refine .refused ((refused_assertOwner h).bind _) w fun entry he => ?_
      exact steady_seemly.move (.refuse b.view he) a
  answer C w hc := steady_seemly.leads_answers C .giving w hc

/-- **Wherever one gets, broadcasts are in order.** -/
theorem Reached.orderly (h : Reached b) : Orderly b.history := by
  obtain ⟨-, v, pristine, seemly⟩ := law_seemly.holds h
  refine (seemly pristine.attended).orderly ?_
  rw [pristine.history]
  exact .nil

end Proximity
