import Mathlib.Logic.Basic
import Proximity.Session

/-!
# How actions end

An action on a bench is a program over a state that may fail and keeps what it has
changed. Everything that is proved about actions goes back to
`Proximity.Act.exec`, which says how an action ends on a bench and which bench it
leaves. This file says what `exec` is for the few ways in which actions are put
together, and for the primitive ones.

The primitive actions compute: `simp` with the lemmas below turns a stretch of a
program that calls nobody into the bench that it leaves. A longer program that succeeds is
taken apart with the rules for `Proximity.Yields`, one for each way of putting actions together;
two programs that end alike, with those for `Proximity.Meet`.
-/

namespace Proximity

namespace Act

variable {α β : Type}

/-- **How an action ends on a bench**, and the bench that it leaves. -/
def exec (act : Act α) (b : Bench) : Except Fault α × Bench := act.run.run b

/-- The bench that an action leaves, whether it fails or not. -/
def after (act : Act α) (b : Bench) : Bench := (exec act b).2

/-! ### Ways of putting actions together -/

@[simp] theorem exec_pure (a : α) (b : Bench) : exec (pure a) b = (.ok a, b) := rfl

/-- A failure leaves the bench as it is. -/
theorem exec_throw (e : Fault) (b : Bench) : exec (throw e : Act α) b = (.error e, b) := rfl

/-- An action is followed by the next one unless it fails. -/
theorem exec_bind (x : Act α) (f : α → Act β) (b : Bench) :
    exec (x >>= f) b =
      match exec x b with
      | (.ok a, b') => exec (f a) b'
      | (.error e, b') => (.error e, b') := by
  simp only [exec, Bind.bind, ExceptT.bind, ExceptT.mk, ExceptT.run, ExceptT.bindCont,
    StateT.bind, StateT.run]
  rcases x b with ⟨_ | _, _⟩ <;> rfl

/-- A failure is handled on the bench that the failing action has left. -/
theorem exec_tryCatch (x : Act α) (f : Fault → Act α) (b : Bench) :
    exec (tryCatch x f) b =
      match exec x b with
      | (.ok a, b') => (.ok a, b')
      | (.error e, b') => exec (f e) b' := by
  simp only [exec, tryCatch, tryCatchThe, MonadExceptOf.tryCatch, ExceptT.tryCatch, Bind.bind,
    ExceptT.mk, ExceptT.run, StateT.bind, StateT.run]
  rcases x b with ⟨_ | _, _⟩ <;> rfl

variable {x : Act α} {f : α → Act β} {b b' : Bench}

/-- What succeeds hands its answer to the next action. -/
theorem exec_bind_of_ok {a : α} (h : exec x b = (.ok a, b')) :
    exec (x >>= f) b = exec (f a) b' := by
  rw [exec_bind, h]

/-- What fails is not gone on with. -/
theorem exec_bind_of_error {e : Fault} (h : exec x b = (.error e, b')) :
    exec (x >>= f) b = (.error e, b') := by
  rw [exec_bind, h]

/-- What ends well did so all along. -/
theorem exists_of_exec_bind_eq_ok {c : β} {b'' : Bench} (h : exec (x >>= f) b = (.ok c, b'')) :
    ∃ a b', exec x b = (.ok a, b') ∧ exec (f a) b' = (.ok c, b'') := by
  rcases e : exec x b with ⟨_ | a, b'⟩
  · cases (exec_bind_of_error e).symm.trans h
  · exact ⟨a, b', rfl, (exec_bind_of_ok e).symm.trans h⟩

theorem exec_bind_assoc {γ : Type} (x : Act α) (f : α → Act β) (g : β → Act γ) (b : Bench) :
    exec (x >>= f >>= g) b = exec (x >>= fun a => f a >>= g) b := by
  simp only [exec_bind]
  rcases exec x b with ⟨_ | _, _⟩ <;> rfl

/-- A list of one takes one action. -/
theorem exec_forM_singleton (f : α → Act Unit) (a : α) (b : Bench) :
    exec ([a].forM f) b = exec (f a) b := by
  refine (exec_bind (f a) (fun _ => pure ()) b).trans ?_
  rcases exec (f a) b with ⟨_ | _, _⟩ <;> rfl

theorem forM_cons (f : α → Act Unit) (a : α) (l : List α) :
    (a :: l).forM f = (f a >>= fun _ => l.forM f) := rfl

/-! ### Primitive actions -/

@[simp] theorem exec_get (b : Bench) : exec get b = (.ok b, b) := rfl

@[simp] theorem exec_modify (g : Bench → Bench) (b : Bench) :
    exec (modify g) b = (.ok (), g b) := rfl

@[simp] theorem exec_getFusion (b : Bench) : exec Bench.getFusion b = (.ok b.fusion, b) := rfl

@[simp] theorem exec_getProbe (b : Bench) : exec Bench.getProbe b = (.ok b.probe, b) := rfl

@[simp] theorem exec_getSensor (role : Role) (b : Bench) :
    exec (Bench.getSensor role) b = (.ok (b.sensors.get role), b) := rfl

@[simp] theorem exec_isAvailable (role : Role) (b : Bench) :
    exec (Sensor.isAvailable role) b = (.ok (b.sensors.get role).available, b) := rfl

@[simp] theorem exec_modifyFusion (g : Fusion → Fusion) (b : Bench) :
    exec (Bench.modifyFusion g) b = (.ok (), { b with fusion := g b.fusion }) := rfl

@[simp] theorem exec_modifyProbe (g : Probe → Probe) (b : Bench) :
    exec (Bench.modifyProbe g) b = (.ok (), { b with probe := g b.probe }) := rfl

@[simp] theorem exec_modifyClock (g : Clock → Clock) (b : Bench) :
    exec (Bench.modifyClock g) b = (.ok (), { b with clock := g b.clock }) := rfl

@[simp] theorem exec_modifySensor (role : Role) (g : Sensor → Sensor) (b : Bench) :
    exec (Bench.modifySensor role g) b
      = (.ok (), { b with sensors := b.sensors.modify role g }) := rfl

/-- A bench with one more entry in its journal. -/
def noted (b : Bench) (entry : Entry) : Bench :=
  { b with journal := ⟨b.clock.now, entry⟩ :: b.journal }

@[simp] theorem exec_note (entry : Entry) (b : Bench) :
    exec (Bench.note entry) b = (.ok (), noted b entry) := rfl

/-- A log record is noted, or nothing is. -/
theorem exec_log (severity : Severity) (origin message : String)
    (metadata : List (String × Tree)) (b : Bench) :
    exec (Bench.log severity origin message metadata) b
      = (.ok (), if severity.reaches b.threshold
          then noted b (.logged severity origin message metadata) else b) := by
  simp only [Bench.log, exec_bind, exec_get]
  split <;> rfl

/-- A report is noted, or nothing is. -/
theorem exec_report (fault : Fault) (extra : List (String × Tree)) (b : Bench) :
    exec (Bench.report fault extra) b
      = (.ok (), if b.tracking
          then noted b (.tracked (.capture fault.message (.record extra))) else b) := by
  simp only [Bench.report, exec_bind, exec_get]
  split <;> rfl

/-! ### Confinement -/

/-- Whether the owner's thread calls, if there is an owner. -/
def OnThread (b : Bench) : Prop := ∀ owner, b.owner = some owner → b.thread.same owner = true

instance (b : Bench) : Decidable (OnThread b) :=
  decidable_of_iff (b.owner.all (b.thread.same ·) = true) (Option.all_eq_true _ _)

/-- On the owner's thread nothing is refused. -/
theorem exec_assertOwner (h : OnThread b) : exec Bench.assertOwner b = (.ok (), b) := by
  simp only [Bench.assertOwner, exec_bind, exec_get]
  cases ho : b.owner with
  | none => rfl
  | some owner => simp [h owner ho]

/-- The entry about a call from another thread. -/
def refusal (owner caller : Number) : Entry :=
  .logged .fatal "execution" (Fault.offThread owner caller).message
    [("expectedThreadId", .number owner), ("actualThreadId", .number caller)]

/-- Off the owner's thread there is an owner, and another thread calls. -/
theorem exists_owner_of_not (h : ¬ OnThread b) :
    ∃ owner, b.owner = some owner ∧ b.thread.same owner = false := by
  simpa only [OnThread, not_forall, Bool.not_eq_true, exists_prop] using h

/-- **Off the owner's thread a call is refused**, which is noted with the two
threads. -/
theorem exec_assertOwner_of_owner {owner : Number} (ho : b.owner = some owner)
    (ht : b.thread.same owner = false) :
    exec Bench.assertOwner b = (.error (.offThread owner b.thread),
      (exec (Bench.report (.offThread owner b.thread) []) (noted b (refusal owner b.thread))).2) := by
  have reached : Severity.fatal.reaches b.threshold = true := by
    cases b.threshold <;> rfl
  have logged : exec (Bench.log .fatal "execution" (Fault.offThread owner b.thread).message
      [("expectedThreadId", .number owner), ("actualThreadId", .number b.thread)]) b
        = (.ok (), noted b (refusal owner b.thread)) := by
    rw [exec_log, if_pos reached]
    rfl
  have reported : exec (Bench.report (.offThread owner b.thread) [])
      (noted b (refusal owner b.thread)) = (.ok (), _) := exec_report ..
  rw [reported, Bench.assertOwner, exec_bind_of_ok (exec_get b), ho]
  dsimp only
  rw [ht, if_pos (show (!false) = true from rfl)]
  exact (exec_bind_of_ok logged).trans ((exec_bind_of_ok reported).trans (exec_throw _ _))

/-- **A call from another thread fails**, when it has been recorded as fatal and reported. -/
theorem exec_assertOwner_of_not (h : ¬ OnThread b) :
    ∃ owner, exec Bench.assertOwner b = (.error (.offThread owner b.thread),
      (exec (Bench.report (.offThread owner b.thread) []) (noted b (refusal owner b.thread))).2) := by
  obtain ⟨owner, ho, ht⟩ := exists_owner_of_not h
  exact ⟨owner, exec_assertOwner_of_owner ho ht⟩

/-! ### Scripts -/

section Scripts

variable {P : Step → Prop} {scripts : List (String × List (List Step))}
  (h : ∀ entry ∈ scripts, ∀ script ∈ entry.2, ∀ step ∈ script, P step) (name : String)
include h

/-- What holds of all steps in scripts holds of those that a listener takes next. -/
theorem forall_mem_script : ∀ step ∈ ((scripts.lookup name).getD []).headD [], P step := by
  intro step hs
  cases e : scripts.lookup name with
  | none =>
    rw [e] at hs
    cases hs
  | some own =>
    rw [e] at hs
    obtain ⟨before, after, found, -⟩ := List.lookup_eq_some_iff.mp e
    have mem : (name, own) ∈ scripts := found ▸ List.mem_append_right _ List.mem_cons_self
    cases own with
    | nil => cases hs
    | cons script _ => exact h _ mem script List.mem_cons_self step hs

/-- It holds of those that are left when the listener has taken them, too. -/
theorem forall_mem_scripts :
    ∀ entry ∈ scripts.map fun s => if s.1 = name then (s.1, s.2.tail) else s,
      ∀ script ∈ entry.2, ∀ step ∈ script, P step := by
  intro entry mem script hs
  obtain ⟨old, hold, rfl⟩ := List.mem_map.mp mem
  refine h old hold script ?_
  split at hs
  · exact List.mem_of_mem_tail hs
  · exact hs

end Scripts

end Act

open Act

variable {α β : Type} {b : Bench}

/-! ### Steps from outside -/

/-- What comes of a step is what comes of its action. -/
theorem Session.take_of_exec {step : Step} {o : Except Fault Answer} {b' : Bench}
    (e : exec (perform (react (depth b step)) step) b = (o, b')) : take step b = ⟨o, b'⟩ :=
  congrArg (fun o : Except Fault Answer × Bench => (⟨o.1, o.2⟩ : Outcome)) e

/-- The step that lets the time pass does so, and has nothing to answer. -/
theorem exec_perform_advance (call : Reactor) (millis : Number) (b : Bench) :
    exec (Session.perform call (.advance millis)) b
      = exec (Timer.advance call millis (Session.firings b) >>= fun _ => pure .none) b :=
  exec_bind_of_ok (exec_get b)

/-- When no timer is due, the clock is left alone. -/
theorem exec_fireUntil_of_none {limit : Number} (call : Reactor) (bound : Nat)
    (none : b.clock.next? limit = none) :
    exec (Timer.fireUntil call limit (bound + 1)) b = (.ok (), b) := by
  rw [Timer.fireUntil, exec_bind_of_ok (exec_get b), none]
  rfl

/-- The next timer that is due fires before all others. -/
theorem exec_fireUntil_of_some {limit : Number} (call : Reactor) (bound : Nat) {t : Timer}
    (next : b.clock.next? limit = some t) :
    exec (Timer.fireUntil call limit (bound + 1)) b
      = exec (Timer.fire call t >>= fun _ => Timer.fireUntil call limit bound) b := by
  rw [Timer.fireUntil, exec_bind_of_ok (exec_get b), next]

/-! ### Ending alike -/

/-- **Two actions end alike on two benches**, whether they fail or not, and leave benches that are
related. -/
def Meet (R : Bench → Bench → Prop) (x x' : Act α) (b b' : Bench) : Prop :=
  ∃ o c c', exec x b = (o, c) ∧ exec x' b' = (o, c') ∧ R c c'

namespace Meet

variable {R : Bench → Bench → Prop} {x x' : Act α} {f f' : α → Act β} {b' : Bench}

theorem pure (a : α) (r : R b b') : Meet R (pure a) (pure a) b b' := ⟨_, _, _, rfl, rfl, r⟩

theorem throw (fault : Fault) (r : R b b') : Meet R (throw fault : Act α) (throw fault) b b' :=
  ⟨_, _, _, rfl, rfl, r⟩

/-- What comes next starts from the benches that are left, unless there was a failure. -/
theorem bind (hx : Meet R x x' b b') (hf : ∀ a c c', R c c' → Meet R (f a) (f' a) c c') :
    Meet R (x >>= f) (x' >>= f') b b' := by
  obtain ⟨o, c, c', e, e', r⟩ := hx
  cases o with
  | error fault => exact ⟨_, _, _, exec_bind_of_error e, exec_bind_of_error e', r⟩
  | ok a =>
    rw [Meet, exec_bind_of_ok e, exec_bind_of_ok e']
    exact hf a c c' r

/-- A failure is handled on the benches that are left. -/
theorem tryCatch {g g' : Fault → Act α} (hx : Meet R x x' b b')
    (hg : ∀ fault c c', R c c' → Meet R (g fault) (g' fault) c c') :
    Meet R (tryCatch x g) (tryCatch x' g') b b' := by
  obtain ⟨o, c, c', e, e', r⟩ := hx
  rw [Meet, exec_tryCatch, exec_tryCatch, e, e']
  cases o with
  | error fault => exact hg fault c c' r
  | ok a => exact ⟨_, _, _, rfl, rfl, r⟩

/-- What is done one after the other ends alike if each of it does. The induction is on the
list. -/
theorem forM {g g' : α → Act Unit} {l : List α} (r : R b b')
    (h : ∀ a ∈ l, ∀ c c', R c c' → Meet R (g a) (g' a) c c') :
    Meet R (l.forM g) (l.forM g') b b' := by
  induction l generalizing b b' with
  | nil => exact .pure () r
  | cons a l ih =>
    rw [forM_cons, forM_cons]
    exact (h a List.mem_cons_self b b' r).bind fun _ c c' r =>
      ih r fun a ha => h a (List.mem_cons_of_mem _ ha)

end Meet

/-! ### Success -/

/-- **An action succeeds on a bench**, with a result and a bench of which something holds. -/
def Yields (act : Act α) (b : Bench) (Q : α → Bench → Prop) : Prop :=
  ∃ a b', exec act b = (.ok a, b') ∧ Q a b'

namespace Yields

variable {x : Act α} {f : α → Act β} {a : α} {b' : Bench} {P : α → Bench → Prop}
  {Q : β → Bench → Prop}

theorem pure {a : β} (q : Q a b) : Yields (pure a) b Q := ⟨a, b, rfl, q⟩

/-- A weaker result will do. -/
theorem mono {Q' : β → Bench → Prop} {act : Act β} (h : Yields act b Q)
    (hQ : ∀ a b', Q a b' → Q' a b') : Yields act b Q' := by
  obtain ⟨a, b', e, q⟩ := h
  exact ⟨a, b', e, hQ a b' q⟩

/-- What an action comes down to may be taken in its place. -/
theorem of_exec {act rest : Act β} (e : exec act b = exec rest b') (h : Yields rest b' Q) :
    Yields act b Q := by
  obtain ⟨a, b'', e', q⟩ := h
  exact ⟨a, b'', e.trans e', q⟩

/-- What comes after an action that succeeds starts from the bench that it leaves. -/
theorem step (e : exec x b = (.ok a, b')) (h : Yields (f a) b' Q) : Yields (x >>= f) b Q :=
  .of_exec (exec_bind_of_ok e) h

/-- **One after the other**, actions that succeed do. -/
theorem bind (hx : Yields x b P) (hf : ∀ a b', P a b' → Yields (f a) b' Q) :
    Yields (x >>= f) b Q := by
  obtain ⟨a, b', e, p⟩ := hx
  exact .step e (hf a b' p)

/-- What one after the other succeeds, succeeds. The induction is on the list, and carries
what holds of the bench. -/
theorem forM {I : Bench → Prop} {f : α → Act Unit} (l : List α)
    (h : ∀ a ∈ l, ∀ b, I b → Yields (f a) b fun _ => I) (i : I b) :
    Yields (l.forM f) b fun _ => I := by
  induction l generalizing b with
  | nil => exact .pure i
  | cons a l ih =>
    rw [forM_cons]
    exact .bind (h a List.mem_cons_self b i) fun _ b' i' =>
      ih (fun a' ha' => h a' (List.mem_cons_of_mem a ha')) i'

end Yields

end Proximity
