import Proximity.Proofs.Kin

/-!
# A fusion and its twin in tandem

Whatever a fusion does on a tame bench, its twin does on a bench that is kin to it. The file
follows the fusion through everything that it can do: telling its listeners, rechecking, taking
readings, going to work and stopping, calls from outside, and time that passes.

Only going to work can tell the two apart, since a fusion joins its sensors when it does so for
the first time (`Proximity.Kin.rouse`):

| the fusion has joined them | the twin has | what happens |
|---|---|---|
| yes | yes | neither joins them again |
| no | no | both join them, which is noted on both (`Proximity.Kin.greet`) |
| yes | no | the twin joins them, which is its greeting (`Proximity.Kin.greetLater`) |

After that they never differ again. The main result is `Proximity.AtRest.run`: tame steps keep
benches kin with nothing going on, and answer alike on both.
-/

namespace Proximity

open Act Session

variable {α : Type} {R : Bench → Bench → Prop} {b b' : Bench}

/-! ### Telling the listeners -/

/-- **Whatever listeners from outside do when they are told something, they do alike.** -/
def Deferent (call : Reactor) : Prop :=
  ∀ {J J' : List Note} {s : Stage} {b b' : Bench} (name : String) (r : Reading),
    Kin J J' s b b' → Alike (Kin J J' s) (call (.listener (.named name) r)) b b'

namespace Kin

variable {J J' : List Note} {s : Stage} {call : Reactor}

theorem complain (k : Kin J J' s b b') (fault : Fault) :
    Agrees (Kin J J' s) (Fusion.complain fault) b b' :=
  k.readFusion (fun _ _ => rfl) <| (k.log _ _ _ _).bind fun _ _ _ k => k.report fault _

theorem tellGuarded (k : Kin J J' s b b') (C : Deferent call) (r : Reading) {l : Listener}
    (hl : l ∈ s.listeners) : Agrees (Kin J J' s) (Fusion.tellGuarded call r l) b b' := by
  obtain ⟨name, rfl⟩ := k.sound.named l hl
  refine Alike.tryCatch ?_ fun fault _ _ k => k.complain fault
  exact (Alike.of_agrees (k.note _)).bind fun _ _ _ k => C name r k

theorem broadcast (k : Kin J J' s b b') (C : Deferent call) (fresh : Bool) :
    Agrees (Kin J J' s) (Fusion.broadcast call fresh) b b' := by
  refine k.assertOwner.bind fun _ b b' k => ?_
  refine k.readFusion (fun _ _ => rfl) ?_
  split
  · have set : ∀ {b b'} (on : Bool), Kin J J' s b b' → Agrees (Kin J J' s)
        (Bench.modifyFusion fun f => { f with telling := on }) b b' := fun on k =>
      k.modifyFusion (fun _ _ => rfl) (fun _ => ⟨rfl, rfl, rfl, rfl⟩) k.blank
    have heard : b.fusion.listeners = s.listeners := k.listeners
    refine (set true k).bind fun _ c c' k => ?_
    cases b.fusion.lastFused with
    | none => exact set false k
    | some r =>
      refine Agrees.bind ?_ fun _ _ _ k => set false k
      refine (k.turn _).bind fun _ _ _ k => ?_
      refine Agrees.bind (.forM k fun l hl _ _ k => ?_) fun _ _ _ k => k.turn _
      exact k.tellGuarded C r (heard ▸ hl)
  · exact .pure () k

theorem accept (k : Kin J J' s b b') (C : Deferent call) (working : s.active = true)
    (r : Reading) : Agrees (Kin J J' s) (Fusion.accept call r) b b' := by
  refine k.assertOwner.bind fun _ b b' k => ?_
  refine k.readFusion (fun _ _ => rfl) ?_
  have adopt : ∀ {b b'}, Kin J J' s b b' → Agrees (Kin J J' s) (Fusion.adopt call r) b b' := by
    intro b b' k
    refine (k.turn _).bind fun _ _ _ k => ?_
    refine Agrees.bind ?_ fun _ _ _ (k : Kin J J' s _ _) => k.broadcast C true
    refine k.modifyFusion (fun _ _ => rfl) (fun _ => ⟨rfl, rfl, rfl, rfl⟩) fun idle => ?_
    exact absurd working (ne_true_of_eq_false idle)
  split
  · split
    · exact (k.sensorPause call .secondary).bind fun _ _ _ k => adopt k
    · exact adopt k
  · exact .pure () k

/-! ### Rechecks -/

/-- After that no recheck is waited for. -/
theorem cancelRecheck (k : Kin J J' s b b') :
    Agrees (fun c c' => Kin J J' s c c' ∧ c.fusion.pendingRecheck = none) Fusion.cancelRecheck
      b b' := by
  refine k.readFusion (fun _ _ => rfl) ?_
  split
  · rename_i idle
    exact .pure () ⟨k, idle⟩
  · refine (k.cancel _).bind fun _ c c' k => ?_
    refine .of_exec (exec_modifyFusion _ c) (exec_modifyFusion _ c') ⟨?_, rfl⟩
    refine k.change (g := fun f => { f with pendingRecheck := none }) (fun _ _ => rfl)
      (fun _ => ⟨rfl, rfl, rfl, rfl⟩) fun idle => ?_
    exact ⟨(k.blank idle).1, (k.blank idle).2.1, rfl⟩

theorem scheduleRecheck (k : Kin J J' s b b') (working : s.active = true) :
    Agrees (Kin J J' s) Fusion.scheduleRecheck b b' := by
  refine k.cancelRecheck.bind fun _ b b' ⟨k, _⟩ => ?_
  refine k.readFusion (fun _ _ => rfl) ?_
  refine (k.schedule _ _).bind fun id _ _ k => ?_
  refine k.modifyFusion (fun _ _ => rfl) (fun _ => ⟨rfl, rfl, rfl, rfl⟩) fun idle => ?_
  exact absurd working (ne_true_of_eq_false idle)

theorem recheck (k : Kin J J' s b b') (id : Nat) :
    Agrees (Kin J J' s) (Fusion.recheck call id) b b' := by
  refine k.assertOwner.bind fun _ b b' k => ?_
  refine k.readFusion (fun _ _ => rfl) ?_
  have look : ∀ {b b'}, Kin J J' s b b' → Agrees (Kin J J' s) (do
      Fusion.logAbout "Re-checking secondary sensor"
      Bench.turn .rechecked
      Sensor.resume call .secondary) b b' := fun k =>
    (k.logAbout _).bind fun _ _ _ k => (k.turn _).bind fun _ _ _ k =>
      k.sensorResume call .secondary
  split
  · refine Agrees.bind ?_ fun _ _ _ k => look k
    refine k.modifyFusion (fun _ _ => rfl) (fun _ => ⟨rfl, rfl, rfl, rfl⟩) fun idle => ?_
    exact ⟨(k.blank idle).1, (k.blank idle).2.1, rfl⟩
  · exact look k

/-! ### Readings -/

theorem onPrimary (k : Kin J J' s b b') (C : Deferent call) (working : s.active = true)
    (r : Reading) : Agrees (Kin J J' s) (Fusion.onPrimary call r) b b' := by
  refine k.assertOwner.bind fun _ _ _ k => ?_
  refine (k.turn _).bind fun _ b b' k => ?_
  refine k.readFusion (fun _ _ => rfl) ?_
  split
  · refine Agrees.bind ?_ fun _ b b' (k : Kin J J' s b b') => ?_
    · refine k.modifyFusion (fun _ _ => rfl) (fun _ => ⟨rfl, rfl, rfl, rfl⟩) fun idle => ?_
      exact absurd working (ne_true_of_eq_false idle)
    · refine k.readFusion (fun _ _ => rfl) (k.readAvailable ?_)
      split
      · refine (k.logAbout _).bind fun _ _ _ k => ?_
        split
        · exact k.sensorResume call .secondary
        · exact .pure () k
      · split
        · exact (k.logAbout _).bind fun _ _ _ k => k.accept C working r
        · split
          · refine (k.logAbout _).bind fun _ _ _ k => ?_
            exact k.cancelRecheck.bind fun _ _ _ ⟨k, _⟩ => k.sensorResume call .secondary
          · exact k.accept C working r
  · exact .pure () k

theorem onSecondary (k : Kin J J' s b b') (C : Deferent call) (working : s.active = true)
    (r : Reading) : Agrees (Kin J J' s) (Fusion.onSecondary call r) b b' := by
  have finish : ∀ {b b'}, Kin J J' s b b' →
      Agrees (Kin J J' s) (Fusion.onSecondary.finish call r) b b' := by
    intro b b' k
    refine (k.logAbout _).bind fun _ b b' k => k.readFusion (fun _ _ => rfl) ?_
    split
    · exact k.accept C working r
    · exact .pure () k
  refine k.assertOwner.bind fun _ _ _ k => ?_
  refine (k.turn _).bind fun _ b b' k => ?_
  refine k.readFusion (fun _ _ => rfl) ?_
  dsimp only
  split
  · refine (k.sensorPause call .secondary).bind fun _ _ _ k => ?_
    split
    · exact k.cancelRecheck.mono fun _ _ ⟨k, _⟩ => k
    · exact (k.scheduleRecheck working).bind fun _ _ _ k => finish k
  · exact finish k

/-! ### Going to work and stopping -/

/-- Both join their sensors. -/
theorem greet (k : Kin J J' s b b') (unlinked : s.linked = false) (unlinked' : s.linked' = false) :
    Kin J J' { s with linked := true, linked' := true } b.greeted b'.greeted := by
  have sole' := k.tame'.sole
  obtain ⟨sensors, journal, rfl⟩ := k.twin
  obtain ⟨pre, post, e, e'⟩ := k.echo
  have greeting : (b.twin s.linked' sensors journal).greeting = b.greeting := by
    have written := fun role c => Sensor.records_of_renewed (k.same role) role c
    have first : sensors.primary.records .primary .join
        = b.sensors.primary.records .primary .join := written .primary .join
    have off : sensors.secondary.records .secondary .pause
        = b.sensors.secondary.records .secondary .pause := written .secondary .pause
    have second : sensors.secondary.records .secondary .join
        = b.sensors.secondary.records .secondary .join := written .secondary .join
    simp only [Bench.greeting, Bench.twin, first, off, second]
  have heard := k.heard
  have heard' := k.heard'
  rw [unlinked] at heard
  rw [unlinked'] at heard'
  exact { k with
    twin := ⟨_, _, rfl⟩
    tame := { k.tame with
      mute := fun role => (Sensor.isMute_of_renewed (b.renewed_greeted role)).trans
        (k.tame.mute role) }
    sound := { k.sound with
      working := fun _ => ⟨rfl, rfl⟩
      later := fun _ => rfl
      ungreeted := fun unlinked => absurd unlinked.symm Bool.false_ne_true }
    linked := rfl
    same := fun role => (Bench.renewed_greeted _ role).trans
      ((k.same role).trans (b.renewed_greeted role).symm)
    heard := b.heard_greeted heard k.tame.sole
    heard' := Bench.heard_greeted heard' sole'
    present := fun some =>
      (Sensor.available_of_renewed (b.renewed_greeted .primary)).trans (k.present some)
    echo := by
      refine ⟨pre, b.greeting ++ post, ?_, ?_⟩
      · rw [List.append_assoc, ← e]
        rfl
      · rw [List.append_assoc, ← e', ← greeting]
        rfl }

/-- The twin joins its sensors later. -/
theorem greetLater (k : Kin J J' s b b') (linked : s.linked = true)
    (unlinked' : s.linked' = false) :
    Kin J J' { s with linked := true, linked' := true, greeting := b'.greeting } b b'.greeted := by
  have sole' := k.tame'.sole
  obtain ⟨sensors, journal, rfl⟩ := k.twin
  obtain ⟨pre, post, e, e'⟩ := k.echo
  have heard' := k.heard'
  rw [unlinked'] at heard'
  exact { k with
    twin := ⟨_, _, rfl⟩
    sound := { k.sound with
      working := fun _ => ⟨rfl, rfl⟩
      later := fun _ => rfl
      greeting := Bench.greeting_sublist _
      ungreeted := nofun }
    linked := k.linked.trans linked
    same := fun role => (Bench.renewed_greeted _ role).trans (k.same role)
    heard := linked ▸ k.heard
    heard' := Bench.heard_greeted heard' sole'
    echo := by
      refine ⟨post ++ pre, [], ?_, ?_⟩
      · rw [List.nil_append, List.append_assoc, ← e]
      · rw [k.sound.ungreeted unlinked'] at e'
        rw [List.nil_append, List.append_assoc]
        exact congrArg _ e' }

/-- Both make their sensors report, which both have joined after that. -/
theorem rouse (k : Kin J J' s b b') (call : Reactor) :
    Agrees (fun c c' => ∃ greeting,
        Kin J J' { s with linked := true, linked' := true, greeting } c c')
      (Fusion.rouse call) b b' := by
  have report : ∀ {t : Stage} {b b' : Bench}, Kin J J' t b b' → Agrees (Kin J J' t) (do
      Fusion.logAbout "Registering sensor listener"
      Sensor.resume call .primary) b b' := fun k =>
    (k.logAbout _).bind fun _ _ _ k => k.sensorResume call .primary
  have hb := exec_rouse call k.tame.mute
  have hb' := exec_rouse call k.tame'.mute
  rw [k.linked] at hb
  rw [k.connected'] at hb'
  cases linked : s.linked with
  | true =>
    rw [linked] at hb
    cases linked' : s.linked' with
    | true =>
      rw [linked'] at hb'
      have same : ({ s with linked := true, linked' := true } : Stage) = s := by
        rcases s with ⟨_, _, _, l, l', _⟩
        cases (linked : l = true)
        cases (linked' : l' = true)
        rfl
      exact .follow hb hb' ((report k).mono fun c c' k => ⟨s.greeting, same ▸ k⟩)
    | false =>
      rw [linked'] at hb'
      exact .follow hb hb' ((report (k.greetLater linked linked')).mono fun c c' k => ⟨_, k⟩)
  | false =>
    have linked' : s.linked' = false :=
      Bool.eq_false_iff.mpr fun on => Bool.false_ne_true (linked.symm.trans (k.sound.later on))
    rw [linked] at hb
    rw [linked'] at hb'
    exact .follow hb hb' ((report (k.greet linked linked')).mono fun c c' k => ⟨_, k⟩)

end Kin

/-- **A stage at which nothing is going on**: the fusions are at work, unless they are paused or
nobody listens. -/
def Stage.Settled (s : Stage) : Prop := s.active = false → s.paused = true ∨ s.listeners = []

/-- **Two benches are kin, and nothing is going on** on them. -/
def AtRest (J J' : List Note) (b b' : Bench) : Prop := ∃ s, Kin J J' s b b' ∧ s.Settled

namespace Kin

variable {J J' : List Note} {s : Stage}

theorem activate (k : Kin J J' s b b') (call : Reactor) :
    Agrees (AtRest J J') (Fusion.activate call) b b' := by
  refine k.assertOwner.bind fun _ b b' k => ?_
  refine k.readFusion (fun _ _ => rfl) ?_
  split
  · refine (k.rouse call).bind fun _ c c' ⟨greeting, k⟩ => ?_
    have k := k.enter true s.paused s.listeners (g := fun f => { f with active := true })
      (fun _ _ => rfl)
      { k.sound with working := fun _ => ⟨rfl, rfl⟩ } ⟨rfl, k.paused, k.listeners, rfl⟩ nofun
      k.present
    refine .step (exec_modifyFusion _ c) (exec_modifyFusion _ c') ?_
    exact (k.turn _).mono fun _ _ k => ⟨_, k, nofun⟩
  · rename_i unwanted
    refine .pure () ⟨s, k, fun idle => ?_⟩
    rw [k.active, k.paused, k.listeners, idle] at unwanted
    cases paused : s.paused with
    | true => exact .inl rfl
    | false =>
      rw [paused] at unwanted
      exact .inr (by simpa using unwanted)

theorem tearDown (k : Kin J J' s b b') (call : Reactor) :
    Agrees (Kin J J' { s with active := false }) (Fusion.tearDown call) b b' := by
  refine k.assertOwner.bind fun _ b b' k => ?_
  refine k.readFusion (fun _ _ => rfl) ?_
  split
  · refine (k.logAbout _).bind fun _ _ _ k => ?_
    refine (k.sensorPause call .primary).bind fun _ _ _ k => ?_
    refine (k.sensorPause call .secondary).bind fun _ _ _ k => ?_
    refine k.cancelRecheck.bind fun _ c c' ⟨k, idle⟩ => ?_
    have k := k.enter false s.paused s.listeners
      (g := fun f => { f with lastPrimary := none, lastFused := none, active := false })
      (fun _ _ => rfl) { k.sound with working := nofun } ⟨rfl, k.paused, k.listeners, rfl⟩
      (fun _ => ⟨rfl, rfl, idle⟩) k.present
    exact .step (exec_modifyFusion _ c) (exec_modifyFusion _ c') (k.turn _)
  · rename_i idle
    have idle : s.active = false := by simpa [k.active] using idle
    have same : { s with active := false } = s := by
      rcases s with ⟨a, _, _, _, _, _⟩
      cases (idle : a = false)
      rfl
    exact .pure () (same ▸ k)

/-! ### Calls -/

theorem pause (k : Kin J J' s b b') (call : Reactor) :
    Agrees (AtRest J J') (Fusion.pause call) b b' := by
  refine k.assertOwner.bind fun _ _ _ k => ?_
  refine (k.turn _).bind fun _ c c' k => ?_
  have k := k.enter s.active true s.listeners (g := fun f => { f with paused := true })
    (fun _ _ => rfl) { k.sound with } ⟨k.active, rfl, k.listeners, rfl⟩ k.blank k.present
  refine .step (exec_modifyFusion _ c) (exec_modifyFusion _ c') ?_
  exact (k.tearDown call).mono fun _ _ k => ⟨_, k, fun _ => .inl rfl⟩

theorem resume (k : Kin J J' s b b') (call : Reactor) :
    Agrees (AtRest J J') (Fusion.resume call) b b' := by
  refine k.assertOwner.bind fun _ _ _ k => ?_
  refine (k.turn _).bind fun _ c c' k => ?_
  have k := k.enter s.active false s.listeners (g := fun f => { f with paused := false })
    (fun _ _ => rfl) { k.sound with } ⟨k.active, rfl, k.listeners, rfl⟩ k.blank k.present
  exact .step (exec_modifyFusion _ c) (exec_modifyFusion _ c') (k.activate call)

theorem setSafe (k : Kin J J' s b b') (call : Reactor) (on : Bool) :
    Agrees (Kin J J' s) (Fusion.setSafe call on) b b' := by
  refine k.assertOwner.bind fun _ _ _ k => ?_
  refine (k.turn _).bind fun _ _ _ k => ?_
  refine Agrees.bind (k.modifyFusion (fun _ _ => rfl) (fun _ => ⟨rfl, rfl, rfl, rfl⟩) k.blank)
    fun _ _ _ k => ?_
  cases on with
  | true => exact k.sensorResume call .secondary
  | false => exact k.sensorPause call .secondary

theorem tagAs (k : Kin J J' s b b') (text : Option String) :
    Agrees (Kin J J' s) (Fusion.tagAs text) b b' := by
  refine Agrees.bind (k.modifyFusion (fun _ _ => rfl) (fun _ => ⟨rfl, rfl, rfl, rfl⟩) k.blank)
    fun _ _ _ k => ?_
  exact (k.sensorTagAs .primary _).bind fun _ _ _ k => k.sensorTagAs .secondary _

theorem retime (k : Kin J J' s b b') (call : Reactor) (delay : Number) :
    Agrees (Kin J J' s) (Fusion.retime call delay) b b' := by
  refine k.assertOwner.bind fun _ _ _ k => ?_
  exact (k.sensorRetime call .primary delay).bind fun _ _ _ k =>
    k.sensorRetime call .secondary delay

theorem join (k : Kin J J' s b b') (settled : s.Settled) (call : Reactor) (name : String) :
    Agrees (AtRest J J') (Fusion.join call (.named name)) b b' := by
  refine k.assertOwner.bind fun _ b b' k => k.readAvailable ?_
  split
  · rename_i there
    refine k.readFusion (fun _ _ => rfl) ?_
    split
    · exact (k.logAbout _).bind fun _ _ _ k => k.activate call
    · have k := k.noted (.turned (.joined (.named name)))
      have k := k.enter s.active s.paused (s.listeners ++ [.named name])
        (g := fun f => { f with listeners := f.listeners ++ [.named name] }) (fun _ _ => rfl)
        { k.sound with
          named := fun l hl => (List.mem_append.mp hl).elim (k.sound.named l) fun hl =>
            ⟨name, List.mem_singleton.mp hl⟩ }
        ⟨k.active, k.paused, congrArg (· ++ _) k.listeners, rfl⟩ k.blank fun _ => there
      refine .step (exec_note _ b) (exec_note _ b') ?_
      exact .step (exec_modifyFusion _ _) (exec_modifyFusion _ _) (k.activate call)
  · exact .pure () ⟨s, k, settled⟩

theorem leave (k : Kin J J' s b b') (settled : s.Settled) (call : Reactor) (l : Listener) :
    Agrees (AtRest J J') (Fusion.leave call l) b b' := by
  have drop : ∀ {b b'}, Kin J J' s b b' →
      Agrees (AtRest J J') (Fusion.leave.drop call l) b b' := by
    intro b b' k
    have k := k.enter s.active s.paused (s.listeners.erase l)
      (g := fun f => { f with listeners := f.listeners.erase l }) (fun _ _ => rfl)
      { k.sound with named := fun l' hl => k.sound.named l' (List.mem_of_mem_erase hl) }
      ⟨k.active, k.paused, congrArg (·.erase l) k.listeners, rfl⟩ k.blank
      fun some => k.present fun none => some (by rw [none]; rfl)
    refine .step (exec_modifyFusion _ _) (exec_modifyFusion _ _) ?_
    refine k.readFusion (fun _ _ => rfl) ?_
    split
    · rename_i alone
      rw [k.listeners] at alone
      exact (k.tearDown call).mono fun _ _ k =>
        ⟨_, k, fun _ => .inr (List.isEmpty_iff.mp alone)⟩
    · refine .pure () ⟨_, k, fun idle => (settled idle).imp_right fun none => ?_⟩
      exact congrArg (·.erase l) none
  refine k.assertOwner.bind fun _ b b' k => k.readFusion (fun _ _ => rfl) ?_
  split
  · exact (k.turn _).bind fun _ _ _ k => drop k
  · exact drop k

/-! ### Harmless steps -/

/-- A harmless step answers alike on both, unless it asks for a text. -/
theorem reply (k : Kin J J' s b b') {step : Step} (noText : step ≠ .text) :
    step.reply b' = step.reply b := by
  obtain ⟨sensors, journal, rfl⟩ := k.twin
  have there : sensors.primary.available = b.sensors.primary.available :=
    Sensor.available_of_renewed (k.same .primary)
  cases step with
  | near =>
    rw [Step.reply, Step.reply, Fusion.near, Fusion.near]
    exact there ▸ rfl
  | flags =>
    rw [Step.reply, Step.reply]
    exact there ▸ rfl
  | text => exact absurd rfl noText
  | cancel name direct => cases direct <;> rfl
  | _ => rfl

theorem harmless (k : Kin J J' s b b') (call : Reactor) {step : Step}
    (harmless : step.isHarmless = true) (noText : step ≠ .text) :
    Alike (Kin J J' s) (perform call step) b b' :=
  .of_exec ((exec_harmless k.tame call harmless).trans (by rw [k.reply noText]))
    (exec_harmless k.tame' call harmless) k

/-- What a harmless step answers makes no difference when nobody heeds it. -/
theorem unheeded (k : Kin J J' s b b') (call : Reactor) {step : Step}
    (harmless : step.isHarmless = true) :
    Alike (Kin J J' s) (do let _ ← perform call step) b b' := by
  by_cases text : step = .text
  · subst text
    exact .of_exec rfl rfl k
  · exact (k.harmless call harmless text).bind fun _ _ _ k => .of_agrees (.pure () k)

end Kin

/-- **Listeners from outside follow their scripts**, which are harmless. -/
theorem deferent_react (depth : Nat) : Deferent (react depth) := by
  intro J J' s b b' name r k
  cases depth with
  | zero => exact .of_agrees (.pure () k)
  | succ depth =>
    have k' := k.rescript
      (g := fun scripts => scripts.map fun s => if s.1 = name then (s.1, s.2.tail) else s)
      (forall_mem_scripts k.tame.scripts name)
    have harmless := forall_mem_script k.tame.scripts name
    obtain ⟨sensors, journal, rfl⟩ := k.twin
    refine .follow (exec_bind_of_ok rfl) (exec_bind_of_ok rfl) (.forM k' fun step hs _ _ k => ?_)
    exact k.unheeded _ (harmless step hs)

/-! ### Time -/

/-- **What a fusion does of a reading while it is at work, a twin does alike.** -/
def Attentive (call : Reactor) : Prop :=
  ∀ {J J' : List Note} {s : Stage} {b b' : Bench} (role : Role) (r : Reading),
    Kin J J' s b b' → s.active = true →
      Agrees (Kin J J' s) (call (.listener (.fusion role) r)) b b'

theorem attentive_react (depth : Nat) : Attentive (react depth) := by
  intro J J' s b b' role r k working
  cases depth with
  | zero => exact .pure () k
  | succ depth =>
    cases role with
    | primary => exact k.onPrimary (deferent_react depth) working r
    | secondary => exact k.onSecondary (deferent_react depth) working r
    | sole => exact .pure () k

namespace Kin

variable {J J' : List Note} {s : Stage}

theorem strike (k : Kin J J' s b b') (t : Timer) : Agrees (Kin J J' s) (Timer.strike t) b b' := by
  refine (k.modifyClock fun u hu => k.tame.tasks u (List.mem_of_mem_filter hu)).bind
    fun _ _ _ k => ?_
  exact (k.note _).bind fun _ _ _ k => k.modifyClock k.tame.tasks

/-- The induction is on the number of timers that may fire. -/
theorem fireUntil (k : Kin J J' s b b') (call : Reactor) (limit : Number) (bound : Nat) :
    Agrees (Kin J J' s) (Timer.fireUntil call limit bound) b b' := by
  induction bound generalizing b b' with
  | zero => exact .pure () k
  | succ bound ih =>
    refine k.read (fun _ _ _ => rfl) ?_
    cases e : b.clock.next? limit with
    | none => exact .pure () k
    | some t =>
      have task : t.task = .recheck :=
        k.tame.tasks t (List.mem_of_mem_filter (Clock.mem_of_earliest? e))
      refine Agrees.bind ?_ fun _ _ _ k => ih k
      refine (k.strike t).bind fun _ _ _ k => ?_
      rw [Timer.run, task]
      exact k.recheck t.id

theorem advance (k : Kin J J' s b b') (call : Reactor) (millis : Number) (bound : Nat) :
    Agrees (Kin J J' s) (Timer.advance call millis bound) b b' := by
  refine k.read (fun _ _ _ => rfl) ?_
  exact (k.fireUntil call _ bound).bind fun _ _ _ k => k.modifyClock k.tame.tasks

/-! ### Reports -/

theorem unrest_eq (k : Kin J J' s b b') : b'.unrest = b.unrest := by
  have mute := fun role => Sensor.unrest_of_isMute (k.tame.mute role)
  have mute' := fun role => Sensor.unrest_of_isMute (k.tame'.mute role)
  have quiet : ∀ role, Bench.sensorUnrest (b'.sensors.get role)
      = Bench.sensorUnrest (b.sensors.get role) := fun role => (mute' role).trans (mute role).symm
  obtain ⟨sensors, journal, rfl⟩ := k.twin
  have h₁ : Bench.sensorUnrest sensors.primary = Bench.sensorUnrest b.sensors.primary :=
    quiet .primary
  have h₂ : Bench.sensorUnrest sensors.secondary = Bench.sensorUnrest b.sensors.secondary :=
    quiet .secondary
  have h₃ : Bench.sensorUnrest sensors.sole = Bench.sensorUnrest b.sensors.sole := quiet .sole
  rw [Bench.unrest, Bench.unrest, ← h₁, ← h₂, ← h₃]
  rfl

/-- A stand-in tells a reading to the fusion at work, or to nobody. -/
theorem tellAll (k : Kin J J' s b b') {call : Reactor} (A : Attentive call) {role : Role}
    {listeners : List Listener} (only : ∀ l ∈ listeners, l = .fusion role ∧ s.active = true)
    (r : Reading) : Agrees (Kin J J' s) (Bench.tellAll call listeners r) b b' := by
  refine .forM k fun l hl _ _ k => ?_
  obtain ⟨rfl, working⟩ := only l hl
  exact (k.note _).bind fun _ _ _ k => A role r k working

/-- The stand-ins at a place report to the same listeners on both. -/
theorem emit (k : Kin J J' s b b') {call : Reactor} (A : Attentive call) {role : Role}
    {t t' : StandIn} (e : b.sensors.get role = .standIn t) (e' : b'.sensors.get role = .standIn t')
    (same : t'.listeners = t.listeners)
    (only : ∀ l ∈ t.listeners, l = .fusion role ∧ s.active = true) (near : Bool)
    (stamp : Option Int) : Agrees (Kin J J' s) (StandIn.emit call role near stamp) b b' := by
  have get : exec (StandIn.get role) b = (.ok t, b) := by rw [exec_standInGet, e]; rfl
  have get' : exec (StandIn.get role) b' = (.ok t', b') := by rw [exec_standInGet, e']; rfl
  cases stamp with
  | some stamp =>
    refine .follow (exec_bind_of_ok get) ((exec_bind_of_ok get').trans ?_)
      (k.tellAll A only ⟨near, stamp⟩)
    rw [same]
  | none =>
    have numbers : t'.reports = t.reports := by
      have h := k.same role
      rw [e, e'] at h
      simp only [Sensor.renewed, Sensor.standIn.injEq, StandIn.mk.injEq] at h
      exact h.2.2.2.2.2
    have k := k.equip role (g := fun t => { t with reports := t.reports + 1 })
      (fun _ => ⟨rfl, rfl⟩) (fun _ => rfl) fun t u h => by
        simp only [Sensor.renewed, Sensor.standIn.injEq, StandIn.mk.injEq] at h ⊢
        simpa using h
    have next : ∀ {c : Bench} {u : StandIn}, c.sensors.get role = .standIn u →
        exec (StandIn.get role) { c with
            sensors := c.sensors.modify role (·.mapStandIn fun t =>
              { t with reports := t.reports + 1 }) }
          = (.ok { u with reports := u.reports + 1 }, { c with
            sensors := c.sensors.modify role (·.mapStandIn fun t =>
              { t with reports := t.reports + 1 }) }) := fun {c u} h => by
      rw [exec_standInGet, Sensors.get_modify_self, h]
      rfl
    refine .step (exec_modifySensor role _ b) (exec_modifySensor role _ b') ?_
    refine .follow (exec_bind_of_ok (next e)) ((exec_bind_of_ok (next e')).trans ?_)
      (k.tellAll A only ⟨near, _⟩)
    rw [same, numbers]

/-- **A report that comes in time** reaches both fusions, or none. -/
theorem event (k : Kin J J' s b b') {call : Reactor} (A : Attentive call) (role : Role)
    (near : Bool) (stamp : Option Int) (timely : (Step.event role near stamp).isTimely b = true) :
    Alike (Kin J J' s) (Sensor.emit call role near stamp) b b' := by
  have same := k.same role
  have mute := k.tame.mute role
  cases e : b.sensors.get role with
  | standIn t =>
    cases e' : b'.sensors.get role with
    | standIn t' =>
      have heard := k.heard role t e
      have heard' := k.heard' role t' e'
      have both : t'.listeners = t.listeners
          ∧ ∀ l ∈ t.listeners, l = .fusion role ∧ s.active = true := by
        cases active : s.active with
        | true =>
          obtain ⟨linked, linked'⟩ := k.sound.working active
          rw [heard, heard', linked, linked']
          exact ⟨rfl, fun l hl => ⟨List.mem_singleton.mp hl, rfl⟩⟩
        | false =>
          -- The sensor would report too early if the fusion listened to it.
          have linked : s.linked = false := Bool.eq_false_iff.mpr fun linked => by
            rw [Step.isTimely, k.active, active, e] at timely
            simp [Sensor.listeners, heard, linked] at timely
          have linked' : s.linked' = false := Bool.eq_false_iff.mpr fun linked' =>
            Bool.false_ne_true (linked.symm.trans (k.sound.later linked'))
          rw [heard, heard', linked, linked']
          exact ⟨rfl, nofun⟩
      refine .of_agrees (.follow ((exec_bind_of_ok (exec_getSensor role b)).trans ?_)
        ((exec_bind_of_ok (exec_getSensor role b')).trans ?_)
        (k.emit A e e' both.1 both.2 near stamp))
      · rw [e]
      · rw [e']
    | _ =>
      rw [e, e'] at same
      cases same
  | hysteresis h =>
    rw [e] at mute
    cases mute
  | absent | unplanned =>
    have e' := Sensor.eq_of_renewed (same.trans (congrArg _ e)) nofun
    exact .of_exec ((exec_bind_of_ok (exec_getSensor role b)).trans (by rw [e]; rfl))
      ((exec_bind_of_ok (exec_getSensor role b')).trans (by rw [e']; rfl)) k

/-! ### Steps -/

end Kin

/-- Only a stand-in outside a fusion says what it has written down. -/
theorem exec_receipt (tame : b.Tame) : exec receipt b = (.ok .none, b) := by
  refine (exec_bind_of_ok (exec_get b)).trans ((exec_bind_of_ok (exec_get b)).trans ?_)
  rw [tame.target]
  rfl

namespace Kin

variable {J J' : List Note} {s : Stage}

/-- An action on the target is one on the fusion. -/
theorem aim (k : Kin J J' s b b') {f : Bench → Act α} {act : Act α}
    (aimed : ∀ c : Bench, c.target = .fusion → f c = act) (h : Agrees R act b b') :
    Agrees R (get >>= f) b b' :=
  .follow ((exec_bind_of_ok (exec_get b)).trans (by rw [aimed b k.tame.target]))
    ((exec_bind_of_ok (exec_get b')).trans (by rw [aimed b' k.tame'.target])) h

/-- **A tame step ends alike on both**, unless it asks for a text, and nothing is going on after
it. -/
theorem perform (k : Kin J J' s b b') (settled : s.Settled) {call : Reactor} (C : Deferent call)
    (A : Attentive call) {step : Step} (tame : step.isTame = true)
    (timely : step.isTimely b = true) (noText : step ≠ .text) :
    Alike (AtRest J J') (Session.perform call step) b b' := by
  have stay : ∀ c c', Kin J J' s c c' → AtRest J J' c c' := fun _ _ k => ⟨s, k, settled⟩
  cases step with
  | join name =>
    refine .of_agrees (.quietly ?_)
    exact k.aim (fun _ h => by simp only [h]) (k.join settled call name)
  | leave name =>
    refine .of_agrees (.quietly ?_)
    exact k.aim (fun _ h => by simp only [h]) (k.leave settled call (.named name))
  | pause =>
    refine .of_agrees (.quietly ?_)
    exact k.aim (fun _ h => by simp only [h]) (k.pause call)
  | resume =>
    refine .of_agrees (.quietly ?_)
    exact k.aim (fun _ h => by simp only [h]) (k.resume call)
  | alert =>
    have alerted : Agrees (Kin J J' s) (Fusion.alert call) b b' := k.broadcast C false
    refine .of_agrees ?_
    exact k.aim (fun _ h => by simp only [h]) (.quietly (alerted.mono stay))
  | safe on =>
    refine .of_agrees ?_
    exact k.aim (fun _ h => by simp only [h]) (.quietly ((k.setSafe call on).mono stay))
  | tag text =>
    have tagged : Agrees (Kin J J' s) (Target.tagAs text) b b' :=
      k.aim (fun _ h => by simp only [h]) (k.tagAs text)
    refine .of_agrees (tagged.bind fun _ _ _ k => ?_)
    exact .of_exec (exec_receipt k.tame) (exec_receipt k.tame') (stay _ _ k)
  | delay delay =>
    have retimed : Agrees (Kin J J' s) (Target.retime call delay) b b' :=
      k.aim (fun _ h => by simp only [h]) (k.retime call delay)
    refine .of_agrees (retimed.bind fun _ _ _ k => ?_)
    exact .of_exec (exec_receipt k.tame) (exec_receipt k.tame') (stay _ _ k)
  | event role near stamp =>
    exact ((k.event A role near stamp timely).bind fun _ _ _ k => .of_agrees (.pure _ k)).mono stay
  | advance millis =>
    have firings : firings b' = firings b := by
      have unrest := k.unrest_eq
      obtain ⟨sensors, journal, rfl⟩ := k.twin
      exact congrArg (b.clock.pending.length + · + 1) unrest
    refine .of_agrees (.follow (exec_bind_of_ok (exec_get b))
      ((exec_bind_of_ok (exec_get b')).trans (by rw [firings])) ?_)
    exact (k.advance call millis _).bind fun _ _ _ k => .pure _ (stay _ _ k)
  | text => exact absurd rfl noText
  | thread | check | query | probeTag => cases tame
  | _ => exact (k.harmless call rfl noText).mono stay

end Kin

namespace AtRest

variable {J J' : List Note}

/-- A tame step leaves nothing going on, and answers alike unless it asks for a text. -/
theorem take (h : AtRest J J' b b') {step : Step} (tame : step.isTame = true)
    (timely : step.isTimely b = true) :
    AtRest J J' (Session.take step b).bench (Session.take step b').bench
      ∧ (step ≠ .text → (Session.take step b').answer = (Session.take step b).answer) := by
  obtain ⟨s, k, settled⟩ := h
  have deep : depth b' step = depth b step := by rw [depth, depth, k.unrest_eq]
  by_cases text : step = .text
  · subst text
    exact ⟨⟨s, k, settled⟩, fun other => absurd rfl other⟩
  · obtain ⟨outcome, related⟩ := k.perform settled (deferent_react (depth b step))
      (attentive_react (depth b step)) tame timely text
    refine ⟨?_, fun _ => ?_⟩
    · rw [Session.take, Session.take, deep]
      exact related
    · rw [Session.take, Session.take, deep]
      exact outcome.symm

/-- **Tame steps leave nothing going on, and answer alike.** The induction is on the steps. -/
theorem run (h : AtRest J J' b b') {steps : List Step} (tame : ∀ step ∈ steps, step.isTame = true)
    (timely : timely steps b = true) :
    AtRest J J' (Session.run steps b) (Session.run steps b')
      ∧ answers steps b' = answers steps b := by
  induction steps generalizing b b' with
  | nil => exact ⟨h, rfl⟩
  | cons step steps ih =>
    rw [Session.timely, Bool.and_eq_true] at timely
    obtain ⟨taken, answer⟩ := h.take (tame step List.mem_cons_self) timely.1
    have later : ∀ step ∈ steps, step.isTame = true := fun step hs =>
      tame step (List.mem_cons_of_mem _ hs)
    obtain ⟨rest, others⟩ := ih taken later timely.2
    refine ⟨rest, ?_⟩
    cases step with
    | text => exact others
    | _ => exact congrArg₂ List.cons (answer (by intro same; cases same)) others

end AtRest

end Proximity
