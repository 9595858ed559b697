import Proximity.Proofs.Parallel

/-!
# Everything is done in parallel

A fusion, its probe and the timers do the same on two benches that match, and so does every step
from outside (`Proximity.Parallel.perform`), whatever parallel reactors there are. The proofs have
the shape of the program: nothing on a bench reads the journal.
-/

namespace Proximity

open Act Session

namespace Parallel

variable {α : Type}

/-! ### The fusion and the probe where they call nobody -/

theorem logAbout (message : String) : Parallel (Fusion.logAbout message) (Fusion.logAbout message) :=
  .bind getFusion fun _ => log ..

theorem complain (fault : Fault) : Parallel (Fusion.complain fault) (Fusion.complain fault) :=
  .bind getFusion fun _ => .bind (log ..) fun _ => report ..

theorem cancelRecheck : Parallel Fusion.cancelRecheck Fusion.cancelRecheck := by
  refine .bind getFusion fun f => ?_
  cases f.pendingRecheck with
  | none => exact .pure ()
  | some id => exact .bind (cancel id) fun _ => modifyFusion _

/-- A recheck takes the place of the one before it, on both benches. -/
theorem scheduleRecheck : Parallel Fusion.scheduleRecheck Fusion.scheduleRecheck :=
  .bind cancelRecheck fun _ => .bind getFusion fun _ => .bind (schedule ..) fun _ => modifyFusion _

theorem fusionTag (text : Option String) : Parallel (Fusion.tagAs text) (Fusion.tagAs text) :=
  .bind (modifyFusion _) fun _ => .bind (sensorTag ..) fun _ => sensorTag ..

/-- A promise is settled on both benches, if it has not been. -/
theorem settle (c : Caller) (outcome : Except Fault (Option Bool)) :
    Parallel (Probe.settle c outcome) (Probe.settle c outcome) :=
  .bind getProbe fun _ => .ite (.bind (modifyProbe _) fun _ => .bind getProbe fun _ =>
    .ite (modifyProbe _) (note _)) (.pure ())

/-- What was settled unseen comes out on both. -/
theorem watch (c : Caller) : Parallel (Probe.watch c) (Probe.watch c) := by
  refine .bind getProbe fun p => .bind (modifyProbe _) fun _ => ?_
  cases p.unseen.lookup c.ticket with
  | none => exact .pure ()
  | some outcome => exact note _

/-- The timer of a check is called off. -/
theorem stopTimer : Parallel Probe.stopTimer Probe.stopTimer := by
  refine .bind getProbe fun p => ?_
  cases p.timer with
  | none => exact .pure ()
  | some id => exact .bind (cancel id) fun _ => modifyProbe _

/-- The same ticket is given out. -/
theorem newTicket (timeout : Number) : Parallel (Probe.newTicket timeout) (Probe.newTicket timeout) :=
  .bind (modifyProbe _) fun _ => .bind getProbe fun _ => .bind (turn _) fun _ => .pure _

/-- What the target refuses, a fusion refuses on both benches. -/
theorem refuse (name : String) : Parallel (Target.refuse name : Act α) (Target.refuse name) := by
  refine .read (fun _ _ => rfl) fun b hb => ?_
  rw [hb]
  exact .throw _

/-! ### Steps that call nobody -/

/-- A step without an answer is no exception. -/
theorem quietly {x x' : Act Unit} (h : Parallel x x') :
    Parallel (Session.quietly x) (Session.quietly x') :=
  .bind h fun _ => .pure _

/-- What is meant for a fusion is done, as the target is one. -/
theorem onFusion (name : String) {x x' : Act Answer} (h : Parallel x x') :
    Parallel (Session.onFusion name x) (Session.onFusion name x') := by
  refine .read (fun _ _ => rfl) fun b hb => ?_
  rw [hb]
  exact h

/-- A fusion is no target for what only timers answer. -/
theorem onTimers (name : String) (x x' : Act Answer) :
    Parallel (Session.onTimers name x) (Session.onTimers name x') := by
  refine .read (fun _ _ => rfl) fun b hb => ?_
  rw [hb]
  exact refuse name

/-- There is a probe on both benches or on neither. -/
theorem onProbe (name : String) {x x' : Act Answer} (h : Parallel x x') :
    Parallel (Session.onProbe name x) (Session.onProbe name x') :=
  .read (fun _ _ => rfl) fun _ _ => .ite h (.throw _)

/-- The same handles were kept. -/
theorem handle (name asked : String) :
    Parallel (Session.handle name asked) (Session.handle name asked) := by
  refine .read (fun _ _ => rfl) fun b _ => ?_
  cases b.handles.lookup name with
  | none => exact .throw _
  | some id => exact .pure id

theorem receipt : Parallel Session.receipt Session.receipt := by
  refine .read (fun _ _ => rfl) fun b hb => .read (fun _ _ => rfl) fun c _ => ?_
  rw [hb]
  exact .pure _

/-- Whatever the target is asked, a fusion is asked. -/
theorem targetTag (text : Option String) : Parallel (Target.tagAs text) (Target.tagAs text) := by
  refine .read (fun _ _ => rfl) fun b hb => ?_
  rw [hb]
  exact fusionTag text

/-- A fusion gives the same account of itself. -/
theorem flags : Parallel Session.flags Session.flags := by
  refine .read (fun _ _ => rfl) fun b hb => ?_
  rw [hb]
  exact .read (fun _ _ => rfl) fun _ _ => .bind (isAvailable _) fun _ => .pure _

section Calls

variable {call call' : Reactor} (C : Reactor.Parallel call call')
include C

/-! ### The fusion -/

/-- The same listeners are told, and the failures of the same ones are logged. -/
theorem announce (r : Reading) (fresh : Bool) (listeners : List Listener) :
    Parallel (Fusion.announce call r fresh listeners) (Fusion.announce call' r fresh listeners) :=
  .bind (turn _) fun _ =>
    .bind (.forM listeners fun l => .tryCatch (tell C l r) complain) fun _ => turn _

/-- **A broadcast is on for both or for neither.** -/
theorem broadcast (fresh : Bool) :
    Parallel (Fusion.broadcast call fresh) (Fusion.broadcast call' fresh) := by
  refine .bind assertOwner fun _ => .bind getFusion fun f => .ite ?_ (.pure ())
  refine .bind (modifyFusion _) fun _ => ?_
  cases f.lastFused with
  | none => exact modifyFusion _
  | some r => exact .bind (announce C r fresh _) fun _ => modifyFusion _

/-- **A reading is news for both or for neither.** -/
theorem accept (r : Reading) : Parallel (Fusion.accept call r) (Fusion.accept call' r) := by
  have adopt : Parallel (Fusion.adopt call r) (Fusion.adopt call' r) :=
    .bind (turn _) fun _ => .bind (modifyFusion _) fun _ => broadcast C true
  exact .bind assertOwner fun _ => .bind getFusion fun f =>
    .ite (.ite (.bind (sensorPause C _) fun _ => adopt) adopt) (.pure ())

/-- The secondary is looked at again. -/
theorem recheck (id : Nat) : Parallel (Fusion.recheck call id) (Fusion.recheck call' id) := by
  have look : Parallel
      (Fusion.logAbout "Re-checking secondary sensor" >>= fun _ =>
        Bench.turn .rechecked >>= fun _ => Sensor.resume call .secondary)
      (Fusion.logAbout "Re-checking secondary sensor" >>= fun _ =>
        Bench.turn .rechecked >>= fun _ => Sensor.resume call' .secondary) :=
    .bind (logAbout _) fun _ => .bind (turn _) fun _ => sensorResume C _
  exact .bind assertOwner fun _ => .bind getFusion fun _ =>
    .ite (.bind (modifyFusion _) fun _ => look) look

/-- **The primary reports to both**, and both make the same of it. -/
theorem onPrimary (r : Reading) : Parallel (Fusion.onPrimary call r) (Fusion.onPrimary call' r) := by
  refine .bind assertOwner fun _ => .bind (turn _) fun _ => .bind getFusion fun _ =>
    .ite (.bind (modifyFusion _) fun _ => ?_) (.pure ())
  refine .bind getFusion fun f => .bind (isAvailable _) fun available => ?_
  refine .ite ?_ (.ite ?_ (.ite ?_ (accept C r)))
  · exact .bind (logAbout _) fun _ => .ite (sensorResume C _) (.pure ())
  · exact .bind (logAbout _) fun _ => accept C r
  · exact .bind (logAbout _) fun _ => .bind cancelRecheck fun _ => sensorResume C _

/-- **The secondary reports to both**, and both make the same of it. -/
theorem onSecondary (r : Reading) :
    Parallel (Fusion.onSecondary call r) (Fusion.onSecondary call' r) := by
  have finish : Parallel (Fusion.onSecondary.finish call r) (Fusion.onSecondary.finish call' r) :=
    .bind (logAbout _) fun _ => .bind getFusion fun _ => .ite (accept C r) (.pure ())
  refine .bind assertOwner fun _ => .bind (turn _) fun _ => .bind getFusion fun f =>
    .ite (.bind (sensorPause C _) fun _ => .ite cancelRecheck ?_) finish
  exact .bind scheduleRecheck fun _ => finish

/-- Both join their sensors. -/
theorem connect : Parallel (Fusion.connect call) (Fusion.connect call') := by
  have ready : Parallel (Fusion.ready call) (Fusion.ready call') :=
    .bind getFusion fun _ => .ite (.bind (sensorPause C _) fun _ => turn _) (turn _)
  exact .bind (sensorJoin C _ _) fun _ => .bind ready fun _ => .bind (sensorJoin C _ _) fun _ =>
    modifyFusion _

/-- Both join their sensors if that has not been done before, and resume the primary. -/
theorem rouse : Parallel (Fusion.rouse call) (Fusion.rouse call') := by
  have wake : Parallel
      (Fusion.logAbout "Registering sensor listener" >>= fun _ => Sensor.resume call .primary)
      (Fusion.logAbout "Registering sensor listener" >>= fun _ => Sensor.resume call' .primary) :=
    .bind (logAbout _) fun _ => sensorResume C _
  exact .bind getFusion fun _ => .ite (.bind (connect C) fun _ => wake) wake

/-- **Both go to work**, or neither does. -/
theorem activate : Parallel (Fusion.activate call) (Fusion.activate call') :=
  .bind assertOwner fun _ => .bind getFusion fun _ =>
    .ite (.bind (rouse C) fun _ => .bind (modifyFusion _) fun _ => turn _) (.pure ())

/-- **Both stop working**, or neither does. -/
theorem tearDown : Parallel (Fusion.tearDown call) (Fusion.tearDown call') := by
  refine .bind assertOwner fun _ => .bind getFusion fun _ => .ite ?_ (.pure ())
  exact .bind (logAbout _) fun _ => .bind (sensorPause C _) fun _ => .bind (sensorPause C _) fun _ =>
    .bind cancelRecheck fun _ => .bind (modifyFusion _) fun _ => turn _

theorem fusionRetime (delay : Number) :
    Parallel (Fusion.retime call delay) (Fusion.retime call' delay) :=
  .bind assertOwner fun _ => .bind (sensorRetime C _ _) fun _ => sensorRetime C _ _

theorem fusionPause : Parallel (Fusion.pause call) (Fusion.pause call') :=
  .bind assertOwner fun _ => .bind (turn _) fun _ => .bind (modifyFusion _) fun _ => tearDown C

theorem fusionResume : Parallel (Fusion.resume call) (Fusion.resume call') :=
  .bind assertOwner fun _ => .bind (turn _) fun _ => .bind (modifyFusion _) fun _ => activate C

/-- Both enter safe mode, or leave it. -/
theorem setSafe (on : Bool) : Parallel (Fusion.setSafe call on) (Fusion.setSafe call' on) :=
  .bind assertOwner fun _ => .bind (turn _) fun _ => .bind (modifyFusion _) fun _ =>
    .ite (sensorResume C _) (sensorPause C _)

/-- A listener joins both, and both go to work if they may. -/
theorem fusionJoin (l : Listener) : Parallel (Fusion.join call l) (Fusion.join call' l) := by
  refine .bind assertOwner fun _ => .bind (isAvailable _) fun _ => .ite ?_ (.pure ())
  refine .bind getFusion fun _ => .ite ?_ ?_
  · exact .bind (logAbout _) fun _ => activate C
  · exact .bind (turn _) fun _ => .bind (modifyFusion _) fun _ => activate C

/-- A listener leaves both, and both stop working if it was the last one. -/
theorem fusionLeave (l : Listener) : Parallel (Fusion.leave call l) (Fusion.leave call' l) := by
  have drop : Parallel (Fusion.leave.drop call l) (Fusion.leave.drop call' l) :=
    .bind (modifyFusion _) fun _ => .bind getFusion fun _ => .ite (tearDown C) (.pure ())
  exact .bind assertOwner fun _ => .bind getFusion fun _ =>
    .ite (.bind (turn _) fun _ => drop) drop

/-! ### The probe -/

theorem targetJoin (l : Listener) : Parallel (Target.join call l) (Target.join call' l) := by
  refine .read (fun _ _ => rfl) fun b hb => ?_
  rw [hb]
  exact fusionJoin C l

theorem targetLeave (l : Listener) : Parallel (Target.leave call l) (Target.leave call' l) := by
  refine .read (fun _ _ => rfl) fun b hb => ?_
  rw [hb]
  exact fusionLeave C l

/-- **Somebody is answered on both benches**, and fails on both or on neither. -/
theorem answer (near : Option Bool) (c : Caller) :
    Parallel (Probe.answer call near c) (Probe.answer call' near c) := by
  refine .bind (turn _) fun _ => ?_
  cases c.reply with
  | callback script =>
    exact .bind (note _) fun _ => .tryCatch (C _) fun _ => .bind (turn _) fun _ => .throw _
  | promise => exact settle c _

/-- The same callers wait on both benches. -/
theorem answerAll (near : Option Bool) :
    Parallel (Probe.answerAll call near) (Probe.answerAll call' near) := by
  have finish : Parallel (Probe.finish call) (Probe.finish call') :=
    .bind stopTimer fun _ => .bind (targetLeave C _) fun _ => modifyProbe _
  exact .bind getProbe fun _ => .bind (turn _) fun _ => .bind (modifyProbe _) fun _ =>
    .bind finish fun _ => .forM _ fun c => answer C near c

/-- The time of those who wait is up. -/
theorem giveUp : Parallel (Probe.giveUp call) (Probe.giveUp call') :=
  .bind (modifyProbe _) fun _ => .bind getProbe fun _ => .bind (log ..) fun _ => answerAll C none

/-- Somebody asks, and waits on both benches or is answered on both. -/
theorem ask (timeout : Number) (c : Caller) :
    Parallel (Probe.ask call timeout c) (Probe.ask call' timeout c) := by
  have there : Parallel Target.isAvailable Target.isAvailable := by
    refine .read (fun _ _ => rfl) fun b hb => ?_
    rw [hb]
    exact isAvailable _
  refine .bind there fun _ => .ite ?_ ?_
  · exact .bind (turn _) fun _ => answer C none c
  · refine .bind (modifyProbe _) fun _ => .bind getProbe fun _ => .ite ?_ (.pure ())
    exact .bind (modifyProbe _) fun _ => .bind (schedule ..) fun _ => .bind (modifyProbe _) fun _ =>
      targetJoin C _

theorem check (name : String) (timeout : Number) (script : List Step) :
    Parallel (Probe.check call name timeout script) (Probe.check call' name timeout script) :=
  .bind (newTicket timeout) fun _ => ask C timeout _

theorem query (name : String) (timeout : Option Number) :
    Parallel (Probe.query call name timeout) (Probe.query call' name timeout) :=
  .bind getProbe fun _ => .bind (newTicket _) fun _ => .bind (modifyProbe _) fun _ =>
    .bind (.tryCatch (ask C _ _) fun _ => settle _ _) fun _ => watch _

/-! ### Timers that fire -/

/-- A timer has the same task on both benches. -/
theorem run (t : Timer) : Parallel (Timer.run call t) (Timer.run call' t) := by
  rw [Timer.run, Timer.run]
  cases t.task with
  | recheck => exact recheck C t.id
  | giveUp => exact giveUp C
  | scripted name script => exact .bind (note _) fun _ => C _

/-- A timer fires on both. -/
theorem fire (t : Timer) : Parallel (Timer.fire call t) (Timer.fire call' t) :=
  .bind (.bind (modifyClock _) fun _ => .bind (note _) fun _ => modifyClock _) fun _ => run C t

/-- The same timers fire. The induction is on how many may. -/
theorem fireUntil (limit : Number) (bound : Nat) :
    Parallel (Timer.fireUntil call limit bound) (Timer.fireUntil call' limit bound) := by
  induction bound with
  | zero => exact .pure ()
  | succ bound ih =>
    refine .read (fun _ _ => rfl) fun b _ => ?_
    cases b.clock.next? limit with
    | none => exact .pure ()
    | some t => exact .bind (fire C t) fun _ => ih

theorem advance (millis : Number) (bound : Nat) :
    Parallel (Timer.advance call millis bound) (Timer.advance call' millis bound) :=
  .read (fun _ _ => rfl) fun _ _ => .bind (fireUntil C _ _) fun _ => modifyClock _

/-! ### Steps -/

theorem targetPause : Parallel (Target.pause call) (Target.pause call') := by
  refine .read (fun _ _ => rfl) fun b hb => ?_
  rw [hb]
  exact fusionPause C

theorem targetResume : Parallel (Target.resume call) (Target.resume call') := by
  refine .read (fun _ _ => rfl) fun b hb => ?_
  rw [hb]
  exact fusionResume C

theorem targetRetime (delay : Number) :
    Parallel (Target.retime call delay) (Target.retime call' delay) := by
  refine .read (fun _ _ => rfl) fun b hb => ?_
  rw [hb]
  exact fusionRetime C delay

/-- **A step is taken in parallel** with whatever parallel reactors there are. -/
theorem perform (step : Step) : Parallel (perform call step) (perform call' step) := by
  cases step with
  | join listener => exact quietly (targetJoin C _)
  | leave listener => exact quietly (targetLeave C _)
  | pause => exact quietly (targetPause C)
  | resume => exact quietly (targetResume C)
  | alert => exact onFusion _ (quietly (broadcast C false))
  | tag text => exact .bind (targetTag text) fun _ => receipt
  | delay delay => exact .bind (targetRetime C delay) fun _ => receipt
  | safe on => exact onFusion _ (quietly (setSafe C on))
  | near => exact onFusion _ (.read (fun _ _ => rfl) fun _ _ => .pure _)
  | flags => exact flags
  | text => exact .read (fun _ _ => rfl) fun _ _ => .pure _
  | event role near stamp => exact quietly (sensorEmit C role near stamp)
  | sample role sample late => exact quietly (sensorDeliver C role sample late)
  | thread id => exact quietly (.modify (fun _ _ => rfl) fun _ => rfl)
  | assertOwner =>
    exact .read (fun _ _ => rfl) fun _ _ =>
      .ite (.bind (.throw _) fun _ => quietly assertOwner) (quietly assertOwner)
  | advance millis => exact .read (fun _ _ => rfl) fun _ _ => .bind (advance C _ _) fun _ => .pure _
  | check name timeout script => exact onProbe _ (quietly (check C name timeout script))
  | query name timeout => exact onProbe _ (quietly (query C name timeout))
  | probeTag text => exact onProbe _ (quietly (targetTag text))
  | schedule name delay keepsAlive script => exact onTimers _ _ _
  | cancel name direct =>
    cases direct with
    | false => exact onTimers _ _ _
    | true => exact .bind (handle name _) fun id => quietly (cancel id)
  | active name =>
    exact .bind (handle name _) fun _ => .read (fun _ _ => rfl) fun _ _ => .pure _
  | «throwError» message => exact .throw _
  | throwValue text => exact .throw _

end Calls

/-- A listener has the same script to follow. -/
theorem nextScript (name : String) : Parallel (Session.nextScript name) (Session.nextScript name) :=
  .read (fun _ _ => rfl) fun _ _ => .bind (.modify (fun _ _ => rfl) fun _ => rfl) fun _ => .pure _

end Parallel

end Proximity
