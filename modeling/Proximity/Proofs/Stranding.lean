import Proximity.Proofs.Relay
import Proximity.Proofs.Forfeit

/-!
# Checks that are refused

Whoever asks a probe is queued, a timer is set, and then the probe joins its fusion. On another
thread than the owner's the last of these is refused, and the first two are not undone: the
check fails, and yet it is on (`Proximity.take_check`). The probe is *adrift* then: it has a
check on and does not listen (`Proximity.Adrift`).

It stays adrift until there is an answer for all who wait. Until then whoever asks is queued and
nothing more, on the owner's thread, too, so that the probe does not come to listen and hears no
reading; and the answer is for the caller who was refused as well as for the others. This is
said of two views by `Proximity.Drift`, of which there are two cases: either the probe is still
adrift, or it has come to an answer.

That a probe which does not listen hears nothing is no property of deeds, but of broadcasts
(`Proximity.Orderly.listened`): whoever is told a reading listened when the broadcast of it
began.
-/

namespace Proximity

open Act Session History

/-! ### A probe that is adrift -/

/-- Whether an entry is neither about an answer that is due nor about the probe that joins. -/
def Entry.isAloof : Entry → Bool
  | .turned (.resolved _ _) | .turned (.joined .probe) => false
  | _ => true

/-- **A probe is adrift**: it has a check on and does not listen. -/
structure Adrift (v : View) : Prop where
  /-- There is somebody to ask. -/
  there : v.primaryThere = true
  /-- A check is on. -/
  checking : v.checking = true
  /-- The probe does not listen. -/
  absent : .probe ∉ v.fusion.listeners

/-- **What becomes of a probe that is adrift.** -/
inductive Drift (v v' : View) : Prop where
  /-- It is still adrift, and those who waited still wait. -/
  | waits : v.history.Since Entry.isAloof v'.history → Adrift v' → v.waiting <+: v'.waiting →
      Drift v v'
  /-- It has come to an answer for those who waited, among others. -/
  | answers {earlier : History} {time : Number} {tickets : List Nat} {near : Option Bool} :
      v.history.Since Entry.isAloof earlier →
      ⟨time, .turned (.resolved tickets near)⟩ :: earlier <:+ v'.history →
      v.waiting.map (·.ticket) <+: tickets → Drift v v'

/-- What is done to a probe that is adrift. -/
structure Drifting (v v' : View) : Prop where
  /-- The history has grown. -/
  grows : v.history <:+ v'.history
  /-- The probe is adrift until there is an answer. -/
  drift : Adrift v → Drift v v'

variable {v v' v'' : View}

namespace Drift

theorem refl (a : Adrift v) : Drift v v := .waits (.refl _ _) a (List.prefix_refl _)

theorem trans (d : Drift v v') (grows : v'.history <:+ v''.history)
    (d' : Adrift v' → Drift v' v'') : Drift v v'' := by
  cases d with
  | answers since answer queue => exact .answers since (answer.trans grows) queue
  | waits since adrift queue =>
    cases d' adrift with
    | waits since' adrift' queue' => exact .waits (since.trans since') adrift' (queue.trans queue')
    | answers since' answer queue' =>
      exact .answers (since.trans since') answer ((queue.map _).trans queue')

/-- What spares the probe leaves it adrift, unless it joins. -/
theorem spared (a : Adrift v) (h : Spared v v') (hs : v.history.Since Entry.isAloof v'.history) :
    Drift v v' := by
  obtain ⟨waiting, checking, -, -, there⟩ := View.desk_eq h.desk
  have queue : v.waiting <+: v'.waiting := waiting ▸ List.prefix_refl _
  exact .waits hs ⟨there.trans a.there, checking.trans a.checking, mt h.probe.mp a.absent⟩ queue

/-- There is an answer for all who wait. -/
theorem taken {time : Number} {near : Option Bool}
    (answer : ⟨time, .turned (.resolved (v.waiting.map (·.ticket)) near)⟩ :: v.history
      <:+ v'.history) : Drift v v' :=
  .answers (.refl _ _) answer (List.prefix_refl _)

/-- What another thread is refused does not matter. -/
theorem begun {u : View} (a : Adrift v) (h : Begun v u) {entry : Entry} (he : entry.isFatal = true) :
    Drift v (u.note entry) := by
  obtain ⟨_, _, _, rfl⟩ := Entry.exists_of_isFatal he
  cases h with
  | nothing => exact .waits ((History.Since.refl _ _).cons rfl) { a with } (List.prefix_refl _)
  | struck t => exact .waits ((History.Since.refl _ _).cons rfl) { a with } (List.prefix_refl _)
  | opened _ _ idle => cases idle.symm.trans a.checking
  | taken near => exact .taken (List.suffix_cons _ _)
  | gaveUp t => exact .taken (List.suffix_cons _ _)

end Drift

namespace Drifting

theorem refl (v : View) : Drifting v v := ⟨List.suffix_rfl, .refl⟩

theorem trans (h : Drifting v v') (h' : Drifting v' v'') : Drifting v v'' :=
  ⟨h.grows.trans h'.grows, fun a => (h.drift a).trans h'.grows h'.drift⟩

/-- What spares the probe and admits nobody. -/
theorem spared (h : Spared v v') (hu : Adds Entry.isUnjoined v v') : Drifting v v' := by
  refine ⟨hu.history.suffix, fun a => .spared a h ((h.history.and hu.history).mono ?_)⟩
  intro entry he
  obtain ⟨spare, unjoined⟩ := Bool.and_eq_true_iff.mp he
  cases entry with
  | turned t =>
    cases t with
    | resolved => cases spare
    | joined => cases unjoined
    | _ => rfl
  | _ => rfl

theorem move (h : Move v v') (hu : Adds Entry.isUnjoined v v') : Drifting v v' := by
  rcases h.spared_or_refused with hs | ⟨u, entry, begun, he, rfl⟩ | ⟨timeout, c, _, _, _, rfl⟩
  · exact spared hs hu
  · exact ⟨hu.history.suffix, fun a => .begun a begun he⟩
  · refine ⟨hu.history.suffix, fun a => ?_⟩
    exact .waits ((History.Since.refl _ _).cons rfl) { a with } (List.prefix_append _ _)

theorem rise (h : Rise v v') : Drifting v v' := by
  cases h with
  | join name =>
    have joins : Adds Entry.isAloof v (v.join (.named name)) := .join v rfl
    exact ⟨joins.history.suffix, fun a => .spared a (.join v nofun) joins.history⟩
  | resume =>
    have resumes : v.history.Since Entry.isAloof v.resume.history :=
      (History.Since.refl _ _).cons rfl
    exact ⟨resumes.suffix, fun a => .spared a (.one rfl rfl rfl) resumes⟩
  | @begin timeout c there idle ticket =>
    refine ⟨(Plainly.going (.rise (.begin v timeout there idle ticket))).history.suffix, ?_⟩
    exact fun a => absurd (idle.symm.trans a.checking) Bool.false_ne_true

/-- A check is over. -/
theorem close {near : Option Bool} {waiting : List Caller} (h : Close near v waiting v') :
    Drifting v v' := by
  have grows := (Plainly.close h).history.suffix
  have left : ∀ u : View, u.history <:+ (u.leave .probe).history := by
    intro u
    have leaves : Adds (fun _ => true) u (u.leave .probe) := .leave u rfl rfl
    exact leaves.history.suffix
  refine ⟨grows, fun a => ?_⟩
  cases h with
  | reading => exact .taken (left (v.take near).stopTimer)
  | @expiry t _ _ none =>
    subst none
    exact .taken (left ((v.giveUp t).take none).stopTimer)
  | decline _ gone => cases gone.symm.trans a.there

theorem deed (hd : Deed v v') : Drifting v v' := by
  rcases hd.admits_or with hu | hr
  · cases hd with
    | move hm => exact move hm hu
    | going hg =>
      cases hg with
      | rise hr => exact rise hr
      | activate => exact spared (.one rfl rfl rfl) hu
    | taking ht => exact spared (.taking ht) hu
    | telling ht => exact spared (.telling ht) hu
    | giving hg =>
      cases hg with
      | close hc => exact close hc
      | reply | balk =>
        exact ⟨hu.history.suffix, fun a =>
          .waits ((History.Since.refl _ _).cons rfl) { a with } (List.prefix_refl _)⟩
  · exact rise hr

end Drifting

/-- **A probe stays adrift until there is an answer**, whatever is done. -/
theorem law_drifting : Law Drifting := .ofDeeds Drifting.refl .trans .deed

/-! ### A probe that listens -/

/-- **A probe that listens has a check on.** -/
structure Purposeful (v : View) : Prop where
  /-- Listeners come in one by one. -/
  attended : Attended v
  /-- If the probe listens, a check is on. -/
  checking : .probe ∈ v.fusion.listeners → v.checking = true

namespace Purposeful

theorem spared (p : Purposeful v) (h : Spared v v') (a : Attended v') : Purposeful v' := by
  obtain ⟨-, checking, -⟩ := View.desk_eq h.desk
  exact ⟨a, fun listens => checking.trans (p.checking (h.probe.mp listens))⟩

/-- A probe that has left does not listen. -/
theorem absent_leave (distinct : v.fusion.listeners.Nodup) :
    .probe ∉ (v.leave .probe).fusion.listeners := by
  have gone : .probe ∉ v.fusion.listeners.erase .probe := distinct.not_mem_erase
  have dropped : .probe ∉ (v.drop .probe).fusion.listeners := by
    rw [View.drop]
    split <;> exact gone
  rw [View.leave]
  split
  · exact mt (Spared.tearDown _).probe.mp dropped
  · exact dropped

theorem deed (hd : Deed v v') (p : Purposeful v) : Purposeful v' := by
  have a := p.attended.deed hd
  cases hd with
  | move hm =>
    rcases hm.spared_or_refused with hs | ⟨u, entry, begun, he, rfl⟩ | ⟨timeout, c, _, _, _, rfl⟩
    · exact p.spared hs a
    · refine ⟨a, ?_⟩
      cases begun with
      | opened => exact fun _ => rfl
      | _ => exact p.checking
    · exact ⟨a, p.checking⟩
  | going hg =>
    cases hg with
    | activate => exact p.spared (.one rfl rfl rfl) a
    | rise hr =>
      cases hr with
      | join name => exact p.spared (.join v nofun) a
      | resume => exact p.spared (.one rfl rfl rfl) a
      | @begin timeout c =>
        refine ⟨a, fun _ => ?_⟩
        rw [View.join]
        split <;> rfl
  | taking ht => exact p.spared (.taking ht) a
  | telling ht => exact p.spared (.telling ht) a
  | giving hg =>
    cases hg with
    | reply | balk => exact ⟨a, p.checking⟩
    | close hc =>
      cases hc with
      | reading =>
        exact ⟨a, fun listens => absurd listens (absent_leave (v := (v.take _).stopTimer)
          p.attended.distinct)⟩
      | @expiry t =>
        exact ⟨a, fun listens => absurd listens
          (absent_leave (v := ((v.giveUp t).take none).stopTimer) p.attended.distinct)⟩
      | decline => exact ⟨a, p.checking⟩

end Purposeful

variable {b : Bench}

theorem Reached.purposeful (h : Reached b) : Purposeful b.view := by
  refine (Law.ofInvariant Purposeful.deed).invariant (fun v p => ⟨p.attended, ?_⟩) h
  obtain ⟨delay, fusion⟩ := p.fusion
  rw [fusion]
  exact fun listens => absurd listens List.not_mem_nil

/-! ### Who is told -/

section Told

variable {r : Reading} {h later newer older x s : History} {l : Listener} {time : Number}
variable {listeners : List Listener}

/-- Whoever is told in a broadcast is one of those who listened at its start. -/
theorem Round.mem_of_told {r' : Reading} (hs : Round r listeners s) {n : Note} (hn : n ∈ s)
    (e : n.entry = .told l r') : l ∈ listeners := by
  induction hs with
  | start => exact absurd hn List.not_mem_nil
  | @tell listeners s time l' hs ih =>
    rcases List.mem_cons.mp hn with rfl | hn
    · cases e
      exact List.mem_append_right _ (List.mem_singleton_self _)
    · exact List.mem_append_left _ (ih hn)
  | mute hs mute ih =>
    rcases List.mem_cons.mp hn with rfl | hn
    · rw [e] at mute
      cases mute
    · exact ih hn

/-- Where a history with a broadcast at its end tells of somebody who is told: before the
broadcast, or by it. -/
theorem Aired.listened {wasFresh : Bool} {h' : History} {r' : Reading} (a : Aired r wasFresh h h')
    (e : h' = newer ++ ⟨time, .told l r'⟩ :: older) :
    (∃ newer', h = newer' ++ ⟨time, .told l r'⟩ :: older)
      ∨ ∃ s start, older = s ++ ⟨start, .turned (.broadcast r wasFresh)⟩ :: h
        ∧ (∀ n ∈ s, n.entry.isInner = true) ∧ l ∈ h.audience := by
  obtain ⟨start, stop, s, round, rfl⟩ := a.round
  rcases List.cons_eq_append_iff.mp e with ⟨-, first⟩ | ⟨newer₁, rfl, rest⟩
  · cases first
  rcases List.append_eq_append_iff.mp rest with ⟨before, rfl, tail⟩ | ⟨inside, rfl, tail⟩
  · rcases List.cons_eq_append_iff.mp tail with ⟨-, first⟩ | ⟨newer', rfl, before⟩
    · cases first
    · exact .inl ⟨newer', before⟩
  · rcases List.cons_eq_append_iff.mp tail with ⟨-, first⟩ | ⟨inside', rfl, during⟩
    · cases first
    · refine .inr ⟨inside', start, during, fun n hn => ?_, ?_⟩
      · exact round.inner n (List.mem_append_right _ (List.mem_cons_of_mem _ hn))
      · exact round.mem_of_told (List.mem_append_right _ List.mem_cons_self) rfl

/-- **Whoever is told a reading listened when the broadcast of it began.** The induction is on
the broadcasts. -/
theorem Orderly.listened (o : Orderly h) (e : h = newer ++ ⟨time, .told l r⟩ :: older) :
    ∃ s start r' wasFresh x, older = s ++ ⟨start, .turned (.broadcast r' wasFresh)⟩ :: x
      ∧ (∀ n ∈ s, n.entry.isInner = true) ∧ l ∈ History.audience x := by
  induction o generalizing newer with
  | nil => simp at e
  | @aside n h o hn ih =>
    rcases List.cons_eq_append_iff.mp e with ⟨-, first⟩ | ⟨newer', rfl, rest⟩
    · cases first
      cases hn
    · exact ih rest
  | @accept r₁ time₁ h h' o a ih =>
    rcases a.listened e with ⟨newer', before⟩ | ⟨s, start, rfl, inner, listens⟩
    · rcases List.cons_eq_append_iff.mp before with ⟨-, first⟩ | ⟨newer'', rfl, rest⟩
      · cases first
      · exact ih rest
    · exact ⟨s, start, r₁, true, _, rfl, inner, listens⟩
  | @alert r₁ h h' o a ih =>
    rcases a.listened e with ⟨newer', before⟩ | ⟨s, start, rfl, inner, listens⟩
    · exact ih before
    · exact ⟨s, start, r₁, false, _, rfl, inner, listens⟩

/-- Who does not join is not among those who listen. -/
theorem History.not_mem_audience_append (absent : l ∉ x.audience)
    (away : ∀ n ∈ later, n.entry ≠ .turned (.joined l)) : l ∉ History.audience (later ++ x) := by
  induction later with
  | nil => exact absent
  | cons n later ih =>
    have before := ih fun m hm => away m (List.mem_cons_of_mem n hm)
    rw [List.cons_append, History.audience]
    split
    · rename_i l' e
      intro listens
      rcases List.mem_append.mp listens with listens | last
      · exact before listens
      · rw [List.mem_singleton.mp last] at away
        exact away n List.mem_cons_self e
    · exact mt List.mem_of_mem_erase before
    · exact before

/-- **Who does not listen and does not join is told nothing**, if no broadcast is on at
first. -/
theorem Orderly.untold (o : Orderly h) (e : h = newer ++ (later ++ x)) (idle : x.telling = false)
    (absent : l ∉ x.audience) (away : ∀ n ∈ later, n.entry ≠ .turned (.joined l)) :
    ∀ n ∈ later, ∀ r, n.entry ≠ .told l r := by
  rintro ⟨time, entry⟩ hn r rfl
  obtain ⟨late, early, rfl⟩ := List.append_of_mem hn
  have split : h = (newer ++ late) ++ ⟨time, .told l r⟩ :: (early ++ x) := by simp [e]
  obtain ⟨s, start, r', wasFresh, y, e', inner, listens⟩ := o.listened split
  -- The broadcast began after `x`, where somebody has to have joined, or before its end.
  rcases List.append_eq_append_iff.mp e' with ⟨s', rfl, tail⟩ | ⟨early', rfl, tail⟩
  · rw [tail, telling_append fun n hn => inner n (List.mem_append_right _ hn)] at idle
    cases idle
  · rcases List.cons_eq_append_iff.mp tail with ⟨rfl, rfl⟩ | ⟨early'', rfl, rfl⟩
    · cases idle
    · refine History.not_mem_audience_append absent (fun n hn => away n ?_) listens
      simp [hn]

end Told

/-! ### A check on another thread -/

/-- Who asks a probe next. -/
def Bench.caller (b : Bench) (name : String) (script : List Step) : Caller :=
  ⟨b.probe.lastTicket + 1, name, .callback script⟩

section Check

variable (call : Reactor) (w : Wired b) (there : b.sensors.primary.available = true)
  (name : String) (timeout : Number) (script : List Step)
include w there

/-- Who asks while others wait, waits with them. -/
theorem ends_check_of_checking (checking : b.probe.checking = true) :
    Ends (Probe.check call name timeout script) b ()
      ((b.view.ask timeout).queue (b.caller name script)) := by
  refine (ends_newTicket timeout).bind fun b₁ hv₁ s₁ => ?_
  have there₁ : b₁.view.primaryThere = true := (congrArg View.primaryThere hv₁).trans there
  have checking₁ : b₁.view.checking = true := (congrArg View.checking hv₁).trans checking
  exact (ends_ask_of_checking call (s₁.wired w) timeout _ there₁ checking₁).congr (by rw [hv₁]; rfl)

/-- **Who asks first, on another thread than the owner's, is refused** when the probe is to join
the fusion, and waits nevertheless. -/
theorem exec_check_of_owner (idle : b.probe.checking = false) {owner : Number}
    (ho : b.owner = some owner) (ht : b.thread.same owner = false) :
    ∃ b', exec (Probe.check call name timeout script) b
        = (.error (.offThread owner b.thread), b')
      ∧ b'.view = (b.view.openCheck timeout (b.caller name script)).note
        (refusal owner b.thread) := by
  obtain ⟨b₁, e₁, hv₁, s₁⟩ := ends_newTicket (b := b) timeout
  have there₁ : b₁.view.primaryThere = true := (congrArg View.primaryThere hv₁).trans there
  have idle₁ : b₁.view.checking = false := (congrArg View.checking hv₁).trans idle
  obtain ⟨b₂, e₂, hv₂, s₂⟩ := passes_ask call (s₁.wired w) timeout (b.caller name script) there₁ idle₁
  have beside := s₁.trans s₂
  have thread : b₂.thread = b.thread := beside.thread
  obtain ⟨b₃, e₃, hv₃, -⟩ :=
    ends_report (b := noted b₂ (refusal owner b.thread)) (.offThread owner b.thread) []
  -- Joining asks for the owner's thread before anything else.
  have refused : exec Bench.assertOwner b₂ = (.error (.offThread owner b.thread), b₃) := by
    have refused := exec_assertOwner_of_owner (b := b₂) (beside.owner.trans ho) (thread ▸ ht)
    rw [thread, e₃] at refused
    exact refused
  have joins : exec (Target.join call .probe) b₂ = (.error (.offThread owner b.thread), b₃) := by
    refine (exec_bind_of_ok (exec_get b₂)).trans ?_
    rw [(beside.wired w).target]
    exact exec_bind_of_error refused
  refine ⟨b₃, (exec_bind_of_ok e₁).trans (e₂.trans joins), ?_⟩
  rw [hv₃, view_noted rfl, hv₂, hv₁]
  rfl

end Check

/-- Nobody comes to an answer, the probe does not join, and it is told nothing. -/
def History.Deaf (h : History) : Prop :=
  ∀ n ∈ h, n.entry.isAloof = true ∧ ∀ r, n.entry ≠ .told .probe r

/-- **A probe that is adrift hears nothing** until it comes to an answer, and that answer is for
all who have waited. -/
theorem deaf_until_answer (h : Reached b) (a : Adrift b.view) (steps : List Step) :
    ∃ new, (run steps b).history = new ++ b.history
      ∧ (new.Deaf ∧ Adrift (run steps b).view ∧ b.probe.waiting <+: (run steps b).probe.waiting
        ∨ ∃ newer time tickets near meanwhile,
          new = newer ++ ⟨time, .turned (.resolved tickets near)⟩ :: meanwhile
            ∧ History.Deaf meanwhile ∧ b.probe.waiting.map (·.ticket) <+: tickets) := by
  have idle : b.history.telling = false := h.orderly.telling
  have absent : .probe ∉ b.history.audience :=
    (show b.fusion.listeners = b.history.audience from h.faithful.listeners) ▸ a.absent
  have deaf : ∀ newer meanwhile : History,
      (run steps b).history = newer ++ (meanwhile ++ b.history) →
      (∀ n ∈ meanwhile, n.entry.isAloof = true) → meanwhile.Deaf := by
    intro newer meanwhile e aloof n hn
    refine ⟨aloof n hn, (h.run steps).orderly.untold e idle absent (fun m hm joins => ?_) n hn⟩
    have aloof := aloof m hm
    rw [joins] at aloof
    cases aloof
  obtain ⟨-, drifting⟩ := law_drifting.leads_steps (law_drifting.holds h).1 steps
  cases drifting.drift a with
  | waits since adrift queue =>
    obtain ⟨new, e, aloof⟩ := since
    exact ⟨new, e, .inl ⟨deaf [] new e aloof, adrift, queue⟩⟩
  | @answers earlier time tickets near since answer queue =>
    obtain ⟨meanwhile, rfl, aloof⟩ := since
    obtain ⟨newer, e⟩ := answer
    have split : (run steps b).history
        = newer ++ ⟨time, .turned (.resolved tickets near)⟩ :: meanwhile ++ b.history := by
      rw [List.append_assoc]
      exact e.symm
    refine ⟨_, split, .inr ⟨newer, time, tickets, near, meanwhile, rfl, ?_, queue⟩⟩
    refine deaf (newer ++ [⟨time, .turned (.resolved tickets near)⟩]) meanwhile ?_ aloof
    simp [split]

/-- **A check that is refused is not undone.** On another thread than the owner's, a check of a
fusion that is there fails if and only if the probe has none on already. It fails with the two
threads and leaves the fusion alone, but the caller is queued, the timer is set, and the check
is on. Whatever is done after that, on any thread: until there is an answer the probe does not
come to listen and is told nothing, and the caller who was refused still waits; and the first
answer is for that caller, too. -/
theorem check_refused (h : Reached b) (probed : b.probed = true)
    (there : b.sensors.primary.available = true) (off : ¬ OnThread b) (name : String)
    (timeout : Number) (script : List Step) :
    (b.probe.checking = true →
      (take (.check name timeout script) b).answer = .ok .none
        ∧ (take (.check name timeout script) b).bench.view
          = (b.view.ask timeout).queue (b.caller name script))
      ∧ (b.probe.checking = false → ∃ owner b', b.owner = some owner
        ∧ (take (.check name timeout script) b) = ⟨.error (.offThread owner b.thread), b'⟩
        ∧ b'.fusion = b.fusion
        ∧ b'.probe.waiting = b.probe.waiting ++ [b.caller name script]
        ∧ b'.probe.checking = true
        ∧ b'.clock = b.clock.set timeout .giveUp
        ∧ ∀ steps, ∃ new, (run steps b').history = new ++ b'.history
          ∧ (new.Deaf ∧ Adrift (run steps b').view
              ∧ b.caller name script ∈ (run steps b').probe.waiting
            ∨ ∃ newer time tickets near meanwhile,
              new = newer ++ ⟨time, .turned (.resolved tickets near)⟩ :: meanwhile
                ∧ History.Deaf meanwhile ∧ (b.caller name script).ticket ∈ tickets)) := by
  have w : Wired b := (law_drifting.holds h).1
  let call := react (depth b (.check name timeout script))
  have performed : exec (perform call (.check name timeout script)) b
      = exec (quietly (Probe.check call name timeout script)) b := by
    refine (exec_bind_of_ok (exec_get b)).trans ?_
    rw [if_pos probed]
  have taken : take (.check name timeout script) b
      = ⟨(exec (quietly (Probe.check call name timeout script)) b).1,
        (exec (quietly (Probe.check call name timeout script)) b).2⟩ := by
    rw [← performed]
    rfl
  refine ⟨fun checking => ?_, fun idle => ?_⟩
  · obtain ⟨b', e, hv, -⟩ := ends_check_of_checking call w there name timeout script checking
    have quiet : exec (quietly (Probe.check call name timeout script)) b = (.ok .none, b') :=
      exec_bind_of_ok e
    rw [taken, quiet]
    exact ⟨rfl, hv⟩
  · obtain ⟨owner, ho, ht⟩ := exists_owner_of_not off
    obtain ⟨b', e, hv⟩ := exec_check_of_owner call w there name timeout script idle ho ht
    have quiet : exec (quietly (Probe.check call name timeout script)) b
        = (.error (.offThread owner b.thread), b') := exec_bind_of_error e
    rw [quiet] at taken
    have reached : Reached b' := by
      have reached := h.take (.check name timeout script)
      rwa [taken] at reached
    have adrift : Adrift b'.view := by
      rw [hv]
      refine ⟨there, rfl, fun listens => ?_⟩
      have checking : b.probe.checking = true := h.purposeful.checking listens
      exact absurd (idle.symm.trans checking) Bool.false_ne_true
    have waiting : b'.probe.waiting = b.probe.waiting ++ [b.caller name script] :=
      congrArg View.waiting hv
    have mine : b.caller name script ∈ b'.probe.waiting :=
      waiting ▸ List.mem_append_right _ (List.mem_singleton_self _)
    refine ⟨owner, b', ho, taken, congrArg View.fusion hv, waiting, adrift.checking,
      congrArg View.clock hv, fun steps => ?_⟩
    obtain ⟨new, e, cases⟩ := deaf_until_answer reached adrift steps
    refine ⟨new, e, cases.imp (fun still => ⟨still.1, still.2.1, still.2.2.subset mine⟩) ?_⟩
    rintro ⟨newer, time, tickets, near, meanwhile, split, deaf, queue⟩
    exact ⟨newer, time, tickets, near, meanwhile, split, deaf,
      queue.subset (List.mem_map_of_mem mine)⟩

/-- Sessions in which somebody asks on another thread than the owner's, and somebody else on the
owner's thread after that. -/
def refusedSession (more : List Step) : Bench :=
  (Scenario.ofSensors (.standIn true [] []) .absent []).after ([.thread 7] ++ more)

theorem reached_refusedSession (more : List Step) : Reached (refusedSession more) :=
  Scenario.reached_after rfl (by decide +kernel) _

/-- **A check that fails leaves something behind.** The caller is refused, and yet the check is on,
with a timer; when somebody asks on the owner's thread, the probe does not come to listen, and
nobody is answered when the primary reports; in the end, both are told that their time is up. -/
theorem refused_session :
    (refusedSession []).probe.checking = false
      ∧ (refusedSession []).clock.pending = []
      ∧ ((take (.check "first" 50 []) (refusedSession [])).answer matches .error (.offThread _ _))
      ∧ (refusedSession [.check "first" 50 []]).probe.checking = true
      ∧ (refusedSession [.check "first" 50 []]).probe.waiting.map (·.ticket) = [1]
      ∧ (refusedSession [.check "first" 50 []]).clock.pending.length = 1
      ∧ (refusedSession [.check "first" 50 [], .thread 0, .check "second" 50 [],
          .event .primary true none]).fusion.listeners = []
      ∧ (refusedSession [.check "first" 50 [], .thread 0, .check "second" 50 [],
          .event .primary true none]).history.replies = []
      ∧ (refusedSession [.check "first" 50 [], .thread 0, .check "second" 50 [],
          .event .primary true none, .advance 50]).history.replies = [(1, none), (2, none)] := by
  decide +kernel

/-- The caller is refused with the two threads, and still waits when the primary has reported. -/
theorem check_refused_session :
    (refusedSession []).probed = true ∧ (refusedSession []).sensors.primary.available = true
      ∧ ¬ OnThread (refusedSession [])
      ∧ ∃ b', take (.check "first" 50 []) (refusedSession []) = ⟨.error (.offThread 0 7), b'⟩
        ∧ b'.fusion = (refusedSession []).fusion
        ∧ ∃ c ∈ (run [.thread 0, .event .primary true none] b').probe.waiting, c.ticket = 1 := by
  have probed : (refusedSession []).probed = true := by decide +kernel
  have there : (refusedSession []).sensors.primary.available = true := by decide +kernel
  have off : ¬ OnThread (refusedSession []) := by decide +kernel
  obtain ⟨owner, b', ho, taken, fusion, -, -, -, later⟩ :=
    (check_refused (reached_refusedSession []) probed there off "first" 50 []).2 (by decide +kernel)
  have zero : (refusedSession []).owner = some 0 := by decide +kernel
  have seven : (refusedSession []).thread = 7 := by decide +kernel
  obtain rfl : owner = 0 := Option.some.inj (ho.symm.trans zero)
  rw [seven] at taken
  refine ⟨probed, there, off, b', taken, fusion, ?_⟩
  obtain ⟨new, e, ⟨-, -, waits⟩ | ⟨newer, time, tickets, near, meanwhile, rfl, -, -⟩⟩ :=
    later [.thread 0, .event .primary true none]
  · exact ⟨_, waits, by decide +kernel⟩
  · -- Nobody comes to an answer in these two steps.
    have none : (run [.thread 0, .event .primary true none]
        (take (.check "first" 50 []) (refusedSession [])).bench).history.batches = [] := by
      decide +kernel
    rw [taken, e, batches_append, batches_append, batches] at none
    simp at none

end Proximity
