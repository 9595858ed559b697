import Proximity.Proofs.Handing
import Proximity.Proofs.Isolation
import Proximity.Proofs.Probing

/-!
# How answers are dealt out

When a probe comes to an answer, because it has been told a reading or because its timer has fired
(`Proximity.Resolves`), it first puts its own affairs in order: nobody waits any longer, no check is
on, there is no timer, and the probe does not listen (`Proximity.Disengaged`). Only then does it deal
the answer out to those who waited, one after the other in the order of asking (`Proximity.Dealt`):

| who asked | what is done |
|---|---|
| with a promise | the promise is settled, unless it has been |
| with a callback that comes back | the callback is called with the answer, and takes its steps |
| with a callback that fails | the same, and that is the end |

So the answer is dealt out to some of those who waited, and to all of them if nobody fails
(`Proximity.Bench.DealsOut`). It makes no difference at what depth of calls this happens, what the
callbacks do meanwhile, and whether a broadcast is on (`Proximity.Poised.dealsOut`).
-/

namespace Proximity

open Act Session

/-- **A probe comes to an answer.** -/
inductive Resolves (depth : Nat) (b : Bench) : Act Unit → Option Bool → Prop where
  /-- It is told a reading. -/
  | reading (r : Reading) : Resolves depth b (react (depth + 1) (.listener .probe r)) (some r.near)
  /-- Its timer fires. -/
  | expiry {t : Timer} : t ∈ b.clock.pending → t.task = .giveUp →
      Resolves depth b (Timer.fire (react depth) t) none

/-- **A probe is idle.** -/
structure Disengaged (b : Bench) : Prop where
  /-- Nobody waits. -/
  waiting : b.probe.waiting = []
  /-- No check is on. -/
  checking : b.probe.checking = false
  /-- It has no timer. -/
  timer : b.probe.timer = none
  /-- It does not listen. -/
  absent : .probe ∉ b.fusion.listeners

/-- A bench on which it has been noted that somebody is given an answer. -/
def Bench.replied (b : Bench) (c : Caller) (near : Option Bool) : Bench :=
  noted b (.turned (.replied c.ticket near))

/-- A bench on which it has been noted that somebody is called with an answer. -/
def Bench.called (b : Bench) (c : Caller) (near : Option Bool) : Bench :=
  noted (b.replied c near) (.answered c.ticket c.name near)

/-- **An answer is dealt out**, from one bench to another one, to those who are listed and to nobody
else. Callbacks take their steps as they are run; if one of them fails, that is the last one. -/
inductive Dealt (run : List Step → Act Unit) (near : Option Bool) :
    List Caller → Except Fault Unit → Bench → Bench → Prop where
  /-- Nobody is left. -/
  | done (b : Bench) : Dealt run near [] (.ok ()) b b
  /-- A promise is settled. -/
  | kept {c : Caller} {rest : List Caller} {o : Except Fault Unit} {b b' : Bench} :
      c.reply = .promise → Dealt run near rest o ((b.replied c near).settle c (.ok near)) b' →
      Dealt run near (c :: rest) o b b'
  /-- A callback is called, and comes back. -/
  | called {c : Caller} {script : List Step} {rest : List Caller} {o : Except Fault Unit}
      {b b₁ b' : Bench} :
      c.reply = .callback script → exec (run script) (b.called c near) = (.ok (), b₁) →
      Dealt run near rest o b₁ b' → Dealt run near (c :: rest) o b b'
  /-- A callback is called, and fails. -/
  | failed {c : Caller} {script : List Step} {fault : Fault} {b b₁ : Bench} :
      c.reply = .callback script → exec (run script) (b.called c near) = (.error fault, b₁) →
      Dealt run near [c] (.error fault) b (noted b₁ (.turned (.balked c.ticket)))

/-- **Answers are dealt out.** Whatever answer a probe comes to on the owner's thread, and at whatever
depth, it is idle before anybody is given the answer. Then those who waited are given it in the order
of asking, all of them if nobody fails, and calls may be made afterwards. -/
def Bench.DealsOut (b : Bench) : Prop :=
  ∀ depth act near, OnThread b → Resolves (depth + 1) b act near →
    ∃ served rest o ended b', b.probe.waiting = served ++ rest ∧ Disengaged ended
      ∧ exec act b = (o, b') ∧ Dealt (performAll (react depth)) near served o ended b'
      ∧ (o = .ok () → rest = []) ∧ Poised b'

variable {b b' : Bench} {call : Reactor} {near : Option Bool} {depth : Nat} {act : Act Unit}

theorem exec_answer_of_promise {c : Caller} (promise : c.reply = .promise) :
    exec (Probe.answer call near c) b = (.ok (), (b.replied c near).settle c (.ok near)) := by
  rw [Probe.answer, Bench.turn, exec_bind_of_ok (exec_note _ b), promise]
  exact exec_settle ..

section

variable {c : Caller} {script : List Step} {b₁ : Bench} (callback : c.reply = .callback script)
include callback

theorem exec_answer_of_callback : exec (Probe.answer call near c) b
    = exec (tryCatch (call (.reply c near)) fun fault => do
        Bench.turn (.balked c.ticket)
        throw fault) (b.called c near) := by
  rw [Probe.answer, Bench.turn, exec_bind_of_ok (exec_note _ b), callback]
  exact exec_bind_of_ok (exec_note _ _)

theorem exec_answer_of_called (e : exec (call (.reply c near)) (b.called c near) = (.ok (), b₁)) :
    exec (Probe.answer call near c) b = (.ok (), b₁) := by
  rw [exec_answer_of_callback callback, exec_tryCatch, e]

/-- A callback that fails fails its caller, too. -/
theorem exec_answer_of_failed {fault : Fault}
    (e : exec (call (.reply c near)) (b.called c near) = (.error fault, b₁)) :
    exec (Probe.answer call near c) b
      = (.error fault, noted b₁ (.turned (.balked c.ticket))) := by
  rw [exec_answer_of_callback callback, exec_tryCatch, e]
  rfl

end

/-- A callback takes its steps when it is called. -/
theorem react_reply {c : Caller} {script : List Step} (callback : c.reply = .callback script)
    (near : Option Bool) (depth : Nat) :
    react (depth + 1) (.reply c near) = performAll (react depth) script := by
  rcases c with ⟨ticket, name, reply⟩
  cases callback
  rfl

/-- **An answer is dealt out to some, and to all if nobody fails.** The induction is on those who
are still to be given it. -/
theorem exists_dealt (depth : Nat) (near : Option Bool) (waiting : List Caller) (b : Bench) :
    ∃ served rest o b', waiting = served ++ rest
      ∧ exec (waiting.forM fun c => Probe.answer (react (depth + 1)) near c) b = (o, b')
      ∧ Dealt (performAll (react depth)) near served o b b' ∧ (o = .ok () → rest = []) := by
  induction waiting generalizing b with
  | nil => exact ⟨[], [], _, _, rfl, rfl, .done b, fun _ => rfl⟩
  | cons c waiting ih =>
    rw [forM_cons]
    cases reply : c.reply with
    | promise =>
      obtain ⟨served, rest, o, b', all, e, dealt, complete⟩ :=
        ih ((b.replied c near).settle c (.ok near))
      exact ⟨c :: served, rest, o, b', congrArg (c :: ·) all,
        (exec_bind_of_ok (exec_answer_of_promise reply)).trans e, .kept reply dealt, complete⟩
    | callback script =>
      have same : exec (react (depth + 1) (.reply c near)) (b.called c near)
          = exec (performAll (react depth) script) (b.called c near) := by
        rw [react_reply reply]
      rcases e : exec (performAll (react depth) script) (b.called c near) with ⟨fault | _, b₁⟩
      · have left := exec_answer_of_failed reply (same.trans e)
        exact ⟨[c], waiting, _, _, rfl, exec_bind_of_error left, .failed reply e, nofun⟩
      · have left := exec_answer_of_called reply (same.trans e)
        obtain ⟨served, rest, o, b', all, e', dealt, complete⟩ := ih b₁
        exact ⟨c :: served, rest, o, b', congrArg (c :: ·) all, (exec_bind_of_ok left).trans e',
          .called reply e dealt, complete⟩

/-- A probe that leaves a fusion does not listen to it any longer, and remembers the same. -/
theorem View.leave_probe {v : View} (distinct : v.fusion.listeners.Nodup) :
    (v.leave .probe).desk = v.desk ∧ .probe ∉ (v.leave .probe).fusion.listeners := by
  have dropped : (v.drop .probe).desk = v.desk ∧ .probe ∉ (v.drop .probe).fusion.listeners := by
    rw [View.drop]
    split <;> exact ⟨rfl, distinct.not_mem_erase⟩
  rw [View.leave]
  split
  · have spared := Spared.tearDown (v.drop .probe)
    exact ⟨spared.desk.trans dropped.1, mt spared.probe.mp dropped.2⟩
  · exact dropped

/-- **When a check is over, its probe is idle.** -/
theorem Disengaged.of_close {v : View} (distinct : v.fusion.listeners.Nodup)
    (closed : b.view = v.close near) : Disengaged b := by
  obtain ⟨desk, absent⟩ := ((v.take near).stopTimer).leave_probe distinct
  obtain ⟨waiting, -, timer, -⟩ := View.desk_eq desk
  exact ⟨(congrArg View.waiting closed).trans waiting, congrArg View.checking closed,
    (congrArg View.timer closed).trans timer,
    (congrArg (·.fusion.listeners) closed).symm ▸ absent⟩

namespace Resolves

/-- **A probe is idle before anybody is given the answer.** -/
theorem exists_idle (h : Resolves depth b act near) (p : Poised b) (home : OnThread b) :
    ∃ ended, Disengaged ended ∧ exec act b
      = exec (b.probe.waiting.forM fun c => Probe.answer (react depth) near c) ended := by
  cases h with
  | reading r =>
    obtain ⟨ended, e, closed, -⟩ := passes_answerAll (react depth) p.wired home (some r.near)
    exact ⟨ended, .of_close p.attended.distinct closed, e⟩
  | @expiry t _ task =>
    obtain ⟨ended, e, closed, -⟩ : Passes (Timer.fire (react depth) t) b
        ((b.view.giveUp t).close none)
        (b.probe.waiting.forM fun c => Probe.answer (react depth) none c) := by
      refine .after (ends_strike t) fun b₁ hv₁ s₁ => ?_
      simp only [Timer.run, task]
      refine .after (ends_modifyProbe View.forgetTimer fun _ => rfl) fun b₂ hv₂ s₂ => ?_
      refine .read (exec_getProbe b₂) (.after (ends_log (by decide) _ _ _) fun b₃ hv₃ s₃ => ?_)
      have s := (s₁.trans s₂).trans s₃
      have view : b₃.view = b.view.giveUp t := by rw [hv₃, hv₂, hv₁]; rfl
      have waiting : b₃.view.waiting = b.view.waiting := by rw [view]; rfl
      rw [← view, ← show b₃.probe.waiting = b.probe.waiting from waiting]
      exact passes_answerAll _ (s.wired p.wired) (s.onThread home) none
    have distinct : (b.view.giveUp t).fusion.listeners.Nodup := p.attended.distinct
    exact ⟨ended, .of_close distinct closed, e⟩

/-- Calls may be made afterwards. -/
theorem poised (h : Resolves depth b act near) (p : Poised b) : Poised (after act b) := by
  cases h with
  | reading r => exact p.react (depth + 1) _
  | expiry pending =>
    have led := law_seemly.keeps_fire (law_seemly.reacts depth) p.wired pending
    exact ⟨led.wired, (led.related p.attended).attended⟩

end Resolves

/-- **An answer that comes is dealt out by an idle probe**, in the order of asking, to all who waited
or up to the first who fails. -/
theorem Poised.dealsOut (p : Poised b) : b.DealsOut := fun depth act near home h => by
  obtain ⟨ended, idle, e⟩ := h.exists_idle p home
  obtain ⟨served, rest, o, b', all, e', dealt, complete⟩ :=
    exists_dealt depth near b.probe.waiting ended
  have left : after act b = b' := congrArg Prod.snd (e.trans e')
  exact ⟨served, rest, o, ended, b', all, idle, e.trans e', dealt, complete, left ▸ h.poised p⟩

end Proximity
