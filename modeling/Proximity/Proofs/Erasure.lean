import Proximity.Proofs.Lockstep
import Proximity.Proofs.Reached

/-!
# Calls from other threads

A fusion that is confined belongs to one thread. Everything that changes it
(`Proximity.Fusion.Operation`) asserts that this thread calls before it does anything else, so a
call from another one fails with the two threads, and the bench stays as it was, but for the
refusal that is noted (`Proximity.Fusion.Operation.guarded`). Since nothing reads what is noted, such
calls can be *erased*:

| where the call is made | what is erased |
|---|---|
| from outside, as a step | the step, with its answer (`Proximity.Session.kept`) |
| by a listener, a callback or a task | the call, which fails all the same (`Proximity.Session.shielded`) |
| by a sensor, with a reading | the call, which fails all the same |

What is left of the session answers the same and comes to the same bench
(`Proximity.off_thread_erased`). A probe that calls from another thread is refused in either
session, and that leaves no other trace, too.

One call is missing from the operations: a tag is taken on any thread.
-/

namespace Proximity

open Act Session

variable {α β : Type}

/-! ### What is refused -/

/-- **What a fusion does on its owner's thread only**: all calls that change it but the one for a
tag, and what it does with the readings of its sensors. -/
inductive Fusion.Operation where
  /-- A listener joins. -/
  | join (l : Listener)
  /-- A listener leaves. -/
  | leave (l : Listener)
  /-- It is paused. -/
  | pause
  /-- It is resumed. -/
  | resume
  /-- It tells its last reading again. -/
  | alert
  /-- It gets a sampling delay. -/
  | retime (delay : Number)
  /-- It is told whether its secondary may stay on. -/
  | setSafe (on : Bool)
  /-- The primary reports. -/
  | onPrimary (r : Reading)
  /-- The secondary reports. -/
  | onSecondary (r : Reading)

/-- What is done in an operation. -/
def Fusion.Operation.act (call : Reactor) : Fusion.Operation → Act Unit
  | join l => Fusion.join call l
  | leave l => Fusion.leave call l
  | pause => Fusion.pause call
  | resume => Fusion.resume call
  | alert => Fusion.alert call
  | retime delay => Fusion.retime call delay
  | setSafe on => Fusion.setSafe call on
  | onPrimary r => Fusion.onPrimary call r
  | onSecondary r => Fusion.onSecondary call r

/-- The operation of the fusion that a step from outside asks for, if it asks for one. -/
def Step.operation? : Step → Option Fusion.Operation
  | join name => some (.join (.named name))
  | leave name => some (.leave (.named name))
  | pause => some .pause
  | resume => some .resume
  | alert => some .alert
  | delay time => some (.retime time)
  | safe on => some (.setSafe on)
  | _ => none

/-- **An action is rebuffed on a bench**: it fails with the thread of the owner and the one that
calls, and leaves the bench as it was but for the refusal that it notes. -/
structure Rebuffed (act : Act α) (owner : Number) (b : Bench) : Prop where
  /-- It fails with the two threads. -/
  answer : (exec act b).1 = .error (.offThread owner b.thread)
  /-- It leaves the bench as it was. -/
  bench : (after act b).unrefused = b.unrefused

/-- **An action is guarded**: off the owner's thread a fusion rebuffs it. -/
structure Guarded (act : Act α) : Prop where
  /-- Off the owner's thread it is rebuffed. -/
  rebuffed : ∀ {b : Bench} {owner}, b.target = .fusion → b.owner = some owner →
    b.thread.same owner = false → Rebuffed act owner b

theorem Rebuffed.exec {act : Act α} {owner : Number} {b : Bench} (h : Rebuffed act owner b) :
    exec act b = (.error (.offThread owner b.thread), after act b) := Prod.ext h.answer rfl

theorem Rebuffed.bind {x : Act α} {owner : Number} {b : Bench} (h : Rebuffed x owner b)
    (f : α → Act β) : Rebuffed (x >>= f) owner b := by
  have e := exec_bind_of_error h.exec (f := f)
  exact ⟨by rw [e], by rw [after, e]; exact h.bench⟩

namespace Guarded

theorem bind {x : Act α} (h : Guarded x) (f : α → Act β) : Guarded (x >>= f) :=
  ⟨fun hb ho ht => (h.rebuffed hb ho ht).bind f⟩

/-- What is done with a fusion counts where a target is asked for. -/
theorem aimed {f : Bench → Act α} {act : Act α} (h : Guarded act)
    (fusion : ∀ b, b.target = .fusion → f b = act) : Guarded (get >>= f) := by
  refine ⟨fun {b owner} hb ho ht => ?_⟩
  have e : exec (get >>= f) b = exec act b := by rw [exec_bind_of_ok (exec_get b), fusion b hb]
  obtain ⟨answer, bench⟩ := h.rebuffed hb ho ht
  exact ⟨e ▸ answer, by rw [after, e]; exact bench⟩

/-- Noting a refusal leaves no other trace. -/
theorem assertOwner : Guarded Bench.assertOwner := by
  refine ⟨fun {b owner} _ ho ht => ?_⟩
  have e := exec_assertOwner_of_owner ho ht
  refine ⟨by rw [e], ?_⟩
  rw [after, e, exec_report]
  split <;> simp [Bench.unrefused, noted, refusal, Entry.isRefusal]

end Guarded

/-- **Every operation is guarded**: it asserts that the owner's thread calls before it does
anything else. -/
theorem Fusion.Operation.guarded (call : Reactor) (op : Fusion.Operation) :
    Guarded (op.act call) := by
  cases op <;> exact Guarded.assertOwner.bind _

/-- A step that asks for an operation is guarded as that is. -/
theorem guarded_perform (call : Reactor) {step : Step} (h : step.operation?.isSome = true) :
    Guarded (perform call step) := by
  have guarded := Fusion.Operation.guarded call
  cases step with
  | join name =>
    exact .bind (.aimed (guarded (.join (.named name))) fun b hb => by rw [hb]; rfl) _
  | leave name =>
    exact .bind (.aimed (guarded (.leave (.named name))) fun b hb => by rw [hb]; rfl) _
  | pause => exact .bind (.aimed (guarded .pause) fun b hb => by rw [hb]; rfl) _
  | resume => exact .bind (.aimed (guarded .resume) fun b hb => by rw [hb]; rfl) _
  | alert => exact .aimed (.bind (guarded .alert) _) fun b hb => by rw [hb]; rfl
  | delay time => exact .bind (.aimed (guarded (.retime time)) fun b hb => by rw [hb]; rfl) _
  | safe on => exact .aimed (.bind (guarded (.setSafe on)) _) fun b hb => by rw [hb]; rfl
  | _ => exact absurd h Bool.false_ne_true

/-! ### Erased calls -/

namespace Session

/-- **An action without what it does off the owner's thread**, where it fails at once. -/
def shielded (act : Act α) : Act α := do
  let b ← get
  match b.owner with
  | none => act
  | some owner => if b.thread.same owner then act else throw (.offThread owner b.thread)

/-- Takes a step, with the operations of the fusion shielded. -/
def shieldedPerform (call : Reactor) (step : Step) : Act Answer :=
  if step.operation?.isSome then shielded (perform call step) else perform call step

/-- Takes the steps of a script, with the operations of the fusion shielded. -/
def shieldedPerformAll (call : Reactor) (script : List Step) : Act Unit :=
  script.forM fun step => do
    let _ ← shieldedPerform call step

/-- What becomes of a call when the fusion is shielded. -/
def shieldedDispatch (call : Reactor) : Reactor
  | .listener (.named name) _ => do shieldedPerformAll call (← nextScript name)
  | .listener (.fusion .primary) r => shielded (Fusion.onPrimary call r)
  | .listener (.fusion .secondary) r => shielded (Fusion.onSecondary call r)
  | .listener (.fusion .sole) _ => pure ()
  | .listener .probe r => Probe.onReading call r
  | .reply c _ =>
    match c.reply with
    | .callback script => shieldedPerformAll call script
    | .promise => pure ()
  | .task script => shieldedPerformAll call script

/-- What becomes of a call at some depth when the fusion is shielded. -/
def shieldedReact : Nat → Reactor
  | 0 => Reactor.silent
  | depth + 1 => shieldedDispatch (shieldedReact depth)

/-- **Takes a step on a bench whose fusion is shielded**: off the owner's thread no call from a
script and no reading of a sensor gets to it. -/
def shieldedTake (step : Step) (b : Bench) : Outcome :=
  let (answer, bench) := (shieldedPerform (shieldedReact (depth b step)) step).run.run b
  ⟨answer, bench⟩

/-- What some steps answer, and the bench after them, given how a step is taken. -/
def play (taken : Step → Bench → Outcome) : List Step → Bench → List (Except Fault Answer) × Bench
  | [], b => ([], b)
  | step :: steps, b =>
    let outcome := taken step b
    let (answers, final) := play taken steps outcome.bench
    (outcome.answer :: answers, final)

/-- Whether a step is refused: it asks for an operation, and another thread calls. -/
def Refuses (b : Bench) (step : Step) : Prop := step.operation?.isSome = true ∧ ¬ OnThread b

instance (b : Bench) (step : Step) : Decidable (Refuses b step) := instDecidableAnd

/-- **The steps that are not refused**, with what they answer. -/
def kept : List Step → Bench → List (Step × Except Fault Answer)
  | [], _ => []
  | step :: steps, b =>
    let outcome := take step b
    if Refuses b step then kept steps outcome.bench
    else (step, outcome.answer) :: kept steps outcome.bench

end Session

/-! ### Erasing makes no difference -/

/-- On the owner's thread nothing is shielded. -/
theorem exec_shielded_of_onThread {b : Bench} (h : OnThread b) (act : Act α) :
    exec (shielded act) b = exec act b := by
  refine (exec_bind_of_ok (exec_get b)).trans ?_
  cases ho : b.owner with
  | none => rfl
  | some owner => exact congrArg (exec · b) (if_pos (h owner ho))

theorem exec_shielded_of_owner {b : Bench} {owner : Number} (ho : b.owner = some owner)
    (ht : b.thread.same owner = false) (act : Act α) :
    exec (shielded act) b = (.error (.offThread owner b.thread), b) := by
  refine (exec_bind_of_ok (exec_get b)).trans ?_
  rw [ho]
  refine congrArg (exec · b) (if_neg ?_)
  rw [ht]
  exact Bool.false_ne_true

/-- **A guarded action may be shielded.** Off the owner's thread it fails in any case, and only
the refusal is not noted. -/
theorem Parallel.shielded {x x' : Act α} (h : Parallel x x') (g : Guarded x) :
    Parallel x (Session.shielded x') := by
  refine ⟨fun {b b'} m => ?_⟩
  have thread : OnThread b' ↔ OnThread b := by rw [m.eq]; rfl
  by_cases on : OnThread b
  · rw [Meet, exec_shielded_of_onThread (thread.mpr on)]
    exact h.meet m
  · obtain ⟨owner, ho, ht⟩ := exists_owner_of_not on
    have rebuffed := g.rebuffed m.target ho ht
    have thread' : b'.thread = b.thread := by rw [m.eq]
    have e : exec (Session.shielded x') b' = (.error (.offThread owner b.thread), b') := by
      rw [← thread']
      exact exec_shielded_of_owner (by rw [m.eq]; exact ho) (by rw [thread']; exact ht) x'
    exact ⟨_, _, _, rebuffed.exec, e, (congrArg Bench.target rebuffed.bench).trans m.target,
      rebuffed.bench.trans m.unrefused⟩

section Shielding

variable {call call' : Reactor} (C : Reactor.Parallel call call')
include C

theorem Parallel.shieldedPerform (step : Step) :
    Parallel (Session.perform call step) (Session.shieldedPerform call' step) := by
  rw [Session.shieldedPerform]
  split
  · rename_i operation
    exact (perform C step).shielded (guarded_perform call operation)
  · exact perform C step

theorem Parallel.shieldedPerformAll (script : List Step) :
    Parallel (performAll call script) (Session.shieldedPerformAll call' script) :=
  .forM script fun step => .bind (shieldedPerform C step) fun _ => .pure ()

/-- Whatever is called, calls of the fusion may be shielded inside it. -/
theorem Reactor.Parallel.shieldedDispatch :
    Reactor.Parallel (dispatch call) (Session.shieldedDispatch call') := by
  intro c
  cases c with
  | listener l r =>
    cases l with
    | named name => exact .bind (.nextScript name) fun script => .shieldedPerformAll C script
    | fusion role =>
      cases role with
      | primary => exact (Parallel.onPrimary C r).shielded ((Fusion.Operation.onPrimary r).guarded call)
      | secondary =>
        exact (Parallel.onSecondary C r).shielded ((Fusion.Operation.onSecondary r).guarded call)
      | sole => exact .pure ()
    | probe => exact .answerAll C _
  | reply c near =>
    rw [dispatch, Session.shieldedDispatch]
    cases c.reply with
    | callback script => exact .shieldedPerformAll C script
    | promise => exact .pure ()
  | task script => exact .shieldedPerformAll C script

end Shielding

/-- The induction is on the depth of the calls. -/
theorem parallel_shieldedReact (depth : Nat) :
    Reactor.Parallel (react depth) (shieldedReact depth) := by
  induction depth with
  | zero => exact fun _ => .pure ()
  | succ depth ih => exact ih.shieldedDispatch

/-! ### Steps -/

variable {b b' : Bench}

/-- **A step may be taken with the fusion shielded.** -/
theorem take_shielded (m : Matches b b') (step : Step) :
    (take step b).answer = (shieldedTake step b').answer
      ∧ Matches (take step b).bench (shieldedTake step b').bench := by
  have deep : depth b' step = depth b step := by rw [m.eq]; rfl
  have parallel := Parallel.shieldedPerform (parallel_shieldedReact (depth b step)) step
  obtain ⟨answer, c, c', e, e', left⟩ := parallel.meet m
  rw [← deep] at e'
  have taken : take step b = ⟨answer, c⟩ := congrArg (fun p => Outcome.mk p.1 p.2) e
  have taken' : shieldedTake step b' = ⟨answer, c'⟩ := congrArg (fun p => Outcome.mk p.1 p.2) e'
  rw [taken, taken']
  exact ⟨rfl, left⟩

/-- **A step that is refused may be left out.** -/
theorem take_refused {owner : Number} (hb : b.target = .fusion) (ho : b.owner = some owner)
    (ht : b.thread.same owner = false) {step : Step} (h : step.operation?.isSome = true) :
    (take step b).answer = .error (.offThread owner b.thread)
      ∧ (take step b).bench.unrefused = b.unrefused :=
  have rebuffed := (guarded_perform (react (depth b step)) h).rebuffed hb ho ht
  ⟨rebuffed.answer, rebuffed.bench⟩

/-- A step goes the same on benches that match: either goes as with the fusion shielded. -/
theorem take_matches (m : Matches b b') (step : Step) :
    (take step b).answer = (take step b').answer
      ∧ Matches (take step b).bench (take step b').bench := by
  have m' : Matches b' b' := ⟨by rw [m.eq]; exact m.target, rfl⟩
  obtain ⟨answer, left⟩ := take_shielded m step
  obtain ⟨answer', left'⟩ := take_shielded m' step
  exact ⟨answer.trans answer'.symm, left.target, left.unrefused.trans left'.unrefused.symm⟩

/-- What is left of a session goes on as the whole of it, if each step does. The induction is on the
steps. -/
theorem play_kept {taken : Step → Bench → Outcome}
    (follows : ∀ {b b'}, Matches b b' → ∀ step,
      (take step b).answer = (taken step b').answer
        ∧ Matches (take step b).bench (taken step b').bench)
    (m : Matches b b') (steps : List Step) :
    (play taken ((kept steps b).map Prod.fst) b').1 = (kept steps b).map Prod.snd
      ∧ Matches (run steps b) (play taken ((kept steps b).map Prod.fst) b').2 := by
  induction steps generalizing b b' with
  | nil => exact ⟨rfl, m⟩
  | cons step steps ih =>
    rw [run_cons, kept]
    by_cases refuses : Refuses b step
    · rw [if_pos refuses]
      obtain ⟨owner, ho, ht⟩ := exists_owner_of_not refuses.2
      have unrefused := (take_refused m.target ho ht refuses.1).2
      exact ih ⟨(congrArg Bench.target unrefused).trans m.target, unrefused.trans m.unrefused⟩
    · rw [if_neg refuses]
      obtain ⟨answer, left⟩ := follows m step
      obtain ⟨answers, final⟩ := ih left
      exact ⟨congrArg₂ List.cons answer.symm answers, final⟩

/-! ### Tags -/

/-- A sensor takes a tag, or loses it, whoever calls. -/
theorem yields_sensorTag (role : Role) (text : Option String) (b : Bench) :
    Yields (Sensor.tagAs role text) b fun _ c => c.fusion = b.fusion ∧ c.target = b.target := by
  refine .step (exec_getSensor role b) ?_
  cases b.sensors.get role with
  | standIn s => exact ⟨_, _, rfl, rfl, rfl⟩
  | hysteresis h => exact ⟨_, _, rfl, rfl, rfl⟩
  | absent => exact ⟨_, _, rfl, rfl, rfl⟩
  | unplanned => exact ⟨_, _, rfl, rfl, rfl⟩

/-- **A tag is taken on any thread.** -/
theorem take_tag (hb : b.target = .fusion) (text : Option String) :
    (take (.tag text) b).answer = .ok .none ∧ (take (.tag text) b).bench.fusion.tag = text := by
  have taken : Yields (perform (react (depth b (.tag text))) (.tag text)) b
      fun answer c => answer = .none ∧ c.fusion.tag = text := by
    have tagged : Yields (Target.tagAs text) b
        fun _ c => c.fusion.tag = text ∧ c.target = .fusion := by
      refine .step (exec_get b) ?_
      rw [hb]
      refine .step (exec_modifyFusion _ b) ?_
      refine (yields_sensorTag .primary _ _).bind fun _ c hc => ?_
      obtain ⟨u, d, e, hd⟩ := yields_sensorTag .secondary (some (text.getD "null" ++ ":secondary")) c
      exact ⟨u, d, e, by rw [hd.1, hc.1], by rw [hd.2, hc.2]; exact hb⟩
    refine tagged.bind fun _ c hc => .step (exec_get c) (.step (exec_get c) ?_)
    rw [hc.2]
    exact .pure ⟨rfl, hc.1⟩
  obtain ⟨answer, c, e, rfl, tag⟩ := taken
  have outcome : take (.tag text) b = ⟨.ok .none, c⟩ :=
    congrArg (fun p => Outcome.mk p.1 p.2) e
  rw [outcome]
  exact ⟨rfl, tag⟩

/-! ### Sessions -/

/-- **Calls from other threads are erased**, on every bench of a fusion and for every session on it,
all but those for a tag:

* off the owner's thread every operation of the fusion fails with the two threads, whoever calls
  and from wherever, and leaves the bench as it was but for the noted refusal; and so does every
  step from outside that asks for one;
* leave out all steps that are refused, and let no script and no sensor get at the fusion from
  another thread either: the other steps answer what they answered, and one comes to the same
  bench – the same fusion, sensors and timers, and the same journal but for the refusals;
* a tag, however, is taken from whatever thread it comes. -/
theorem off_thread_erased {b : Bench} (hb : b.target = .fusion) :
    (∀ owner, b.owner = some owner → b.thread.same owner = false →
        (∀ call, ∀ op : Fusion.Operation, Rebuffed (op.act call) owner b)
        ∧ ∀ step, step.operation?.isSome = true →
            (take step b).answer = .error (.offThread owner b.thread)
              ∧ (take step b).bench.unrefused = b.unrefused)
      ∧ (∀ taken ∈ [take, shieldedTake], ∀ steps,
          (play taken ((kept steps b).map Prod.fst) b).1 = (kept steps b).map Prod.snd
          ∧ (play taken ((kept steps b).map Prod.fst) b).2.unrefused = (run steps b).unrefused)
      ∧ ∀ text, (take (.tag text) b).answer = .ok .none
          ∧ (take (.tag text) b).bench.fusion.tag = text := by
  refine ⟨fun owner ho ht => ⟨fun call op => (op.guarded call).rebuffed hb ho ht, fun step h => ?_⟩,
    fun taken mem steps => ?_, take_tag hb⟩
  · exact take_refused hb ho ht h
  · have same : Matches b b := ⟨hb, rfl⟩
    have played : (play taken ((kept steps b).map Prod.fst) b).1 = (kept steps b).map Prod.snd
        ∧ Matches (run steps b) (play taken ((kept steps b).map Prod.fst) b).2 := by
      rcases List.mem_cons.mp mem with rfl | mem
      · exact play_kept take_matches same steps
      · obtain rfl := List.mem_singleton.mp mem
        exact play_kept take_shielded same steps
    exact ⟨played.1, played.2.unrefused.symm⟩

/-- Sessions with a fusion of two sensors, of which a listener tries to pause the fusion from
another thread as soon as it is told something. -/
def strangerSession (steps : List Step) : Bench :=
  { Scenario.ofSensors (.standIn true [] []) (.standIn true [] []) [("a", [[.thread 7, .pause]])] with
    probe := none }.after steps

/-- Another thread tries to take the listener away and to keep the secondary on. Then the listener
is told a reading, and leaves its thread behind; the next reading of the primary comes from
there. -/
def intrusion : List Step :=
  [.join "a", .thread 7, .leave "a", .safe true, .thread 0, .event .primary true none,
    .event .secondary true none, .event .primary false none, .thread 0, .event .primary false none]

/-- Two of the steps are refused, and two calls from inside the others; the reading that the fusion
has heard at the end on its own thread is the fused one with and without them. -/
theorem off_thread_erased_session :
    (strangerSession []).target = .fusion
      ∧ (kept intrusion (strangerSession [])).length + 2 = intrusion.length
      ∧ (run intrusion (strangerSession [])).fusion.lastFused = some ⟨false, 3⟩
      ∧ (play shieldedTake ((kept intrusion (strangerSession [])).map Prod.fst)
            (strangerSession [])).2.unrefused
          = (run intrusion (strangerSession [])).unrefused := by
  have fusion : (strangerSession []).target = .fusion := by decide +kernel
  have erased := (off_thread_erased fusion).2.1 shieldedTake (by simp) intrusion
  exact ⟨fusion, by decide +kernel, by decide +kernel, erased.2⟩

/-- **A tag from another thread stays.** The call is not refused, and without it the fusion has no
tag in the end. -/
theorem off_thread_tag_session :
    ¬ OnThread (strangerSession [.thread 7])
      ∧ ((take (.tag (some "x")) (strangerSession [.thread 7])).answer matches .ok .none)
      ∧ (strangerSession [.thread 7, .tag (some "x"), .thread 0]).fusion.tag = some "x"
      ∧ (strangerSession [.thread 7, .thread 0]).fusion.tag = none := by
  decide +kernel

end Proximity
