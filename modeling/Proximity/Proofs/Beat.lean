import Mathlib.Logic.Relation
import Proximity.Proofs.Balance

/-!
# The beats of a sensor

What a single hysteresis sensor does on a bench, with all that is called from inside its
calls, is one small thing after the other (`Proximity.Beat`). Two books are kept along with
the sensor (`Proximity.Scene`): the history, and the list of those who still *wait* to be told of
a crossing. A crossing puts its audience on that list, in front of all who wait already, and
whoever is told something comes off its front; so a sensor that crosses its band again while it
is telling of a crossing tells of the later crossing first.

| beat | what is noted |
|---|---|
| `Proximity.Beat.pass` | a sample that says nothing new |
| `Proximity.Beat.cross` | a sample, its crossing, and that the first listener is told |
| `Proximity.Beat.echo` | a sample and its crossing, while nobody listens |
| `Proximity.Beat.tell` | that the first of those who wait is told |
| `Proximity.Beat.start`, `Proximity.Beat.halt` | that sampling starts, or stops |
| `Proximity.Beat.remark` | records and subscriptions |
| `Proximity.Beat.change`, `Proximity.Beat.relist` | nothing |

With *calm* listeners, which do nothing when they are told something, nothing new happens while
anybody waits, and the listeners change only at the beginning of a step from outside.

Here is what a sensor does when it is called, given that whatever it calls goes on by beats
(`Proximity.Leading`); whole sessions are put together from that in a module of their own.
-/

namespace Proximity

open Act Session

/-- **A sensor with what has happened**, and with those who have still to be told something. -/
structure Scene where
  /-- Who is still to be told of a crossing, in their order. -/
  waiting : List (Listener × Reading)
  /-- The sensor. -/
  sensor : Hysteresis
  /-- What has happened. -/
  history : History

/-- The scene with other listeners. -/
def Scene.relist (x : Scene) (listeners : List Listener) : Scene :=
  { x with sensor := { x.sensor with listeners } }

/-- **The reading that a sample gives** when it arrives at a time, if its value says something. -/
def Band.reading (band : Band) (time : Number) (sample : Sample) : Option Reading :=
  match band.classify sample.value, sample.stamp.resolve time with
  | some near, .ok stamp => some ⟨near, stamp⟩
  | _, _ => none

/-- Whether an entry is about records or subscriptions. -/
def Entry.isRemark : Entry → Bool
  | .logged _ _ _ _ | .tracked _ | .subscribed _ _ _ | .stopped _ _ => true
  | _ => false

/-- **One small thing after which a sensor is as it was**, or is changed. -/
inductive Beat (calm : Prop) : Scene → Scene → Prop
  /-- Something is noted that does not matter. -/
  | remark (x : Scene) {n : Note} (h : n.entry.isRemark = true) :
      Beat calm x { x with history := n :: x.history }
  /-- The sensor changes in what does not matter. -/
  | change (x : Scene) {h : Hysteresis} (band : h.band = x.sensor.band)
      (sampling : h.sampling = x.sensor.sampling) (last : h.last = x.sensor.last)
      (listeners : h.listeners = x.sensor.listeners) : Beat calm x { x with sensor := h }
  /-- The sensor gets other listeners. -/
  | relist (x : Scene) {listeners : List Listener} (distinct : listeners.Nodup)
      (wild : ¬ calm) : Beat calm x (x.relist listeners)
  /-- A sample arrives that says nothing new. -/
  | pass (x : Scene) (time : Number) (sample : Sample) (settled : calm → x.waiting = [])
      (old : x.sensor.sampling = true → ∀ r, x.sensor.band.reading time sample = some r →
        x.sensor.last = some r.near) :
      Beat calm x { x with history := ⟨time, .turned (.sampled .sole sample)⟩ :: x.history }
  /-- A sample arrives that says something new. The first listener is told at once, and all others
  wait. -/
  | cross (x : Scene) (time : Number) (sample : Sample) {r : Reading} {l : Listener}
      {others : List Listener} (settled : calm → x.waiting = []) (on : x.sensor.sampling = true)
      (reads : x.sensor.band.reading time sample = some r) (new : x.sensor.last ≠ some r.near)
      (distinct : x.sensor.listeners.Nodup) (audience : x.sensor.listeners = l :: others) :
      Beat calm x
        { waiting := others.map (·, r) ++ x.waiting
          sensor := { x.sensor with last := some r.near }
          history := ⟨time, .told l r⟩ :: ⟨time, .turned (.crossed .sole r x.sensor.listeners)⟩
            :: ⟨time, .turned (.sampled .sole sample)⟩ :: x.history }
  /-- A sample arrives that says something new, and nobody listens. -/
  | echo (x : Scene) (time : Number) (sample : Sample) {r : Reading}
      (settled : calm → x.waiting = []) (on : x.sensor.sampling = true)
      (reads : x.sensor.band.reading time sample = some r) (new : x.sensor.last ≠ some r.near)
      (audience : x.sensor.listeners = []) :
      Beat calm x { x with
        sensor := { x.sensor with last := some r.near }
        history := ⟨time, .turned (.crossed .sole r x.sensor.listeners)⟩
          :: ⟨time, .turned (.sampled .sole sample)⟩ :: x.history }
  /-- The first of those who wait is told what it waits for. -/
  | tell (x : Scene) (time : Number) {l : Listener} {r : Reading}
      {waiting : List (Listener × Reading)} (next : x.waiting = (l, r) :: waiting) :
      Beat calm x { x with waiting, history := ⟨time, .told l r⟩ :: x.history }
  /-- Sampling starts. -/
  | start (x : Scene) (time : Number) (settled : calm → x.waiting = [])
      (off : x.sensor.sampling = false) :
      Beat calm x { x with
        sensor := { x.sensor with sampling := true }
        history := ⟨time, .turned (.sampling .sole true)⟩ :: x.history }
  /-- Sampling stops, and the sensor forgets what it reported. -/
  | halt (x : Scene) (time : Number) (settled : calm → x.waiting = [])
      (on : x.sensor.sampling = true) :
      Beat calm x { x with
        sensor := { x.sensor with sampling := false, last := none }
        history := ⟨time, .turned (.sampling .sole false)⟩ :: x.history }

/-- One beat after the other. -/
abbrev Beats (calm : Prop) : Scene → Scene → Prop := Relation.ReflTransGen (Beat calm)

/-- **A bench on which a scene is set**: a sensor is alone there, no timer is pending, and calm
listeners have nothing to do. -/
structure Sits (calm : Prop) (x : Scene) (b : Bench) : Prop where
  /-- The sensor of the scene is alone. -/
  alone : Alone x.sensor b
  /-- The journal is the history of the scene. -/
  journal : b.journal = x.history
  /-- No timer is pending. -/
  idle : b.clock.pending = []
  /-- Nobody listens twice. -/
  distinct : x.sensor.listeners.Nodup
  /-- Only listeners that are not calm have anything to do. -/
  wild : ∀ entry ∈ b.scripts, ∀ script ∈ entry.2, ∀ _ ∈ script, ¬ calm

/-- **A bench that beats lead to** from a scene, with some who wait. -/
def Led (calm : Prop) (x₀ : Scene) (waiting : List (Listener × Reading)) (b : Bench) : Prop :=
  ∃ x, Beats calm x₀ x ∧ x.waiting = waiting ∧ Sits calm x b

/-- **Two scenes that differ in trifles only**: in records, subscriptions, and what of the sensor
does not matter. -/
structure Trifle (x x' : Scene) : Prop where
  /-- The same wait. -/
  waiting : x'.waiting = x.waiting
  /-- The band is the same. -/
  band : x'.sensor.band = x.sensor.band
  /-- The sensor is sampling as before. -/
  sampling : x'.sensor.sampling = x.sensor.sampling
  /-- It remembers the same report. -/
  last : x'.sensor.last = x.sensor.last
  /-- The same listen. -/
  listeners : x'.sensor.listeners = x.sensor.listeners
  /-- Only records and subscriptions have been noted. -/
  history : History.Since Entry.isRemark x.history x'.history

variable {calm : Prop} {x x' x₀ : Scene} {b : Bench} {waiting : List (Listener × Reading)}

namespace Trifle

theorem refl (x : Scene) : Trifle x x := ⟨rfl, rfl, rfl, rfl, rfl, .refl _ _⟩

/-- Trifles are made of beats. The induction is on what is noted. -/
theorem beats (t : Trifle x x') : Beats calm x x' := by
  obtain ⟨waiting, sensor, history⟩ := x'
  obtain rfl : waiting = x.waiting := t.waiting
  obtain ⟨new, rfl, remarks⟩ : History.Since Entry.isRemark x.history history := t.history
  refine .trans (.single (.change x t.band t.sampling t.last t.listeners)) ?_
  induction new with
  | nil => exact .refl
  | cons n new ih =>
    have rest : ∀ m ∈ new, m.entry.isRemark = true := fun m hm =>
      remarks m (List.mem_cons_of_mem n hm)
    have t' : Trifle x ⟨x.waiting, sensor, new ++ x.history⟩ :=
      { t with history := ⟨new, rfl, rest⟩ }
    exact (ih rest t').tail (.remark _ (remarks n List.mem_cons_self))

end Trifle

/-- A bench on which a scene is set, up to trifles. -/
def Nearly (calm : Prop) (x : Scene) (b : Bench) : Prop := ∃ x', Trifle x x' ∧ Sits calm x' b

namespace Sits

/-- What happens is noted in the history of the scene. -/
theorem noted (s : Sits calm x b) (entry : Entry) :
    Sits calm { x with history := ⟨b.clock.now, entry⟩ :: x.history } (noted b entry) :=
  { s with
    alone := { s.alone with }
    journal := congrArg (List.cons _) s.journal }

/-- The sensor changes, and its listeners stay. -/
theorem equip (s : Sits calm x b) {h : Hysteresis} (same : h.listeners = x.sensor.listeners) :
    Sits calm { x with sensor := h } (b.equip h) :=
  { s with
    alone := s.alone.equip same
    distinct := same ▸ s.distinct }

theorem nearly (s : Sits calm x b) : Nearly calm x b := ⟨x, .refl x, s⟩

theorem led (s : Sits calm x b) : Led calm x x.waiting b := ⟨x, .refl, rfl, s⟩

end Sits

namespace Nearly

theorem led (s : Nearly calm x b) (path : Beats calm x₀ x) : Led calm x₀ x.waiting b := by
  obtain ⟨x', t, sits⟩ := s
  exact ⟨x', path.trans t.beats, t.waiting, sits⟩

/-- The sensor is looked at. -/
theorem get (s : Nearly calm x b) {α : Type} {f : Hysteresis → Act α} {Q : α → Bench → Prop}
    (next : ∀ x', Trifle x x' → Yields (f x'.sensor) b Q) :
    Yields (Hysteresis.get .sole >>= f) b Q := by
  obtain ⟨x', t, sits⟩ := s
  exact .step sits.alone.get (next x' t)

theorem noted (s : Nearly calm x b) {entry : Entry} (h : entry.isRemark = true) :
    Nearly calm x (noted b entry) := by
  obtain ⟨x', t, sits⟩ := s
  refine ⟨_, ?_, sits.noted entry⟩
  exact { t with history := t.history.cons h }

theorem note (s : Nearly calm x b) {entry : Entry} (h : entry.isRemark = true) :
    Yields (Bench.note entry) b fun _ => Nearly calm x := ⟨_, _, exec_note _ b, s.noted h⟩

theorem log (s : Nearly calm x b) (severity : Severity) (message : String)
    (metadata : List (String × Tree)) :
    Yields (Hysteresis.logAbout .sole severity message metadata) b fun _ => Nearly calm x := by
  refine s.get fun x' _ => ⟨_, _, exec_log _ _ _ _ b, ?_⟩
  split
  · exact s.noted rfl
  · exact s

/-- The sensor changes in what does not matter. -/
theorem modify (s : Nearly calm x b) {f : Hysteresis → Hysteresis}
    (same : ∀ h, (f h).band = h.band ∧ (f h).sampling = h.sampling ∧ (f h).last = h.last
      ∧ (f h).listeners = h.listeners) :
    Yields (Hysteresis.modify .sole f) b fun _ => Nearly calm x := by
  obtain ⟨x', t, sits⟩ := s
  obtain ⟨band, sampling, last, listeners⟩ := same x'.sensor
  refine ⟨_, _, sits.alone.modify f, _, ?_, sits.equip listeners⟩
  exact ⟨t.waiting, band.trans t.band, sampling.trans t.sampling, last.trans t.last,
    listeners.trans t.listeners, t.history⟩

/-- A subscription is stopped. -/
theorem stop (s : Nearly calm x b) (n : Nat) :
    Yields (Hysteresis.stop .sole n) b fun _ => Nearly calm x :=
  .bind (s.note rfl) fun _ _ s₁ => s₁.modify fun _ => ⟨rfl, rfl, rfl, rfl⟩

/-- The subscription there is is stopped. -/
theorem drop (s : Nearly calm x b) :
    Yields (Hysteresis.dropSubscription .sole) b fun _ => Nearly calm x := by
  refine s.get fun x' _ => .bind (s.modify fun _ => ⟨rfl, rfl, rfl, rfl⟩) fun _ b₁ s₁ => ?_
  split
  · exact .pure s₁
  · exact s₁.stop _

end Nearly

/-! ### What a sensor does -/

theorem Alone.exists_resolve {h : Hysteresis} (a : Alone h b) (stamp : Stamp) :
    ∃ nanos, stamp.resolve b.clock.now = .ok nanos := by
  obtain ⟨now, timely⟩ := a.timely
  rw [Stamp.resolve]
  split
  · exact ⟨_, rfl⟩
  · exact ⟨now, timely⟩

theorem exec_resolveStamp {stamp : Stamp} {nanos : Int}
    (h : stamp.resolve b.clock.now = .ok nanos) :
    exec (Bench.resolveStamp stamp) b = (.ok nanos, b) := by
  rw [Bench.resolveStamp, exec_bind_of_ok (exec_get b), h]
  rfl

/-- **What the listeners do when they are told something** leads on by beats, and the same wait
afterwards. -/
def Leading (calm : Prop) (call : Reactor) : Prop := ∀ x₀ waiting name r b, Led calm x₀ waiting b →
  Yields (call (.listener (.named name) r)) b fun _ => Led calm x₀ waiting

namespace Leading

variable {call : Reactor} {h : Hysteresis}

/-- **Those who wait for a reading are told it.** The induction is on those who are left. -/
theorem yields_tellAll (C : Leading calm call) {listeners : List Listener}
    (named : ∀ l ∈ listeners, ∃ name, l = .named name) (r : Reading)
    (s : Led calm x₀ (listeners.map (·, r) ++ waiting) b) :
    Yields (Bench.tellAll call listeners r) b fun _ => Led calm x₀ waiting := by
  induction listeners generalizing b with
  | nil => exact .pure s
  | cons l listeners ih =>
    obtain ⟨name, rfl⟩ := named l List.mem_cons_self
    obtain ⟨x, path, e, sits⟩ := s
    have told : Led calm x₀ (listeners.map (·, r) ++ waiting) (noted b (.told (.named name) r)) :=
      ⟨_, path.tail (.tell x b.clock.now e), rfl, { sits.noted _ with }⟩
    rw [Bench.tellAll, forM_cons]
    refine .bind (P := fun _ => Led calm x₀ (listeners.map (·, r) ++ waiting)) ?_ fun _ b' s' =>
      ih (fun l hl => named l (List.mem_cons_of_mem _ hl)) s'
    exact .step (exec_note _ b) (C _ _ name r _ told)

/-- **A crossing is told** to all who listen: to the first one at once, and to the others when that
call has come back. -/
theorem yields_cross (C : Leading calm call) {x : Scene} {sample : Sample} {r : Reading}
    (settled : calm → x.waiting = []) (path : Beats calm x₀ x) (distinct : x.sensor.listeners.Nodup)
    (on : x.sensor.sampling = true) (reads : x.sensor.band.reading b.clock.now sample = some r)
    (new : x.sensor.last ≠ some r.near)
    (crossed : Sits calm
      { x with
        sensor := { x.sensor with last := some r.near }
        history := ⟨b.clock.now, .turned (.crossed .sole r x.sensor.listeners)⟩
          :: ⟨b.clock.now, .turned (.sampled .sole sample)⟩ :: x.history } b) :
    Yields (Bench.tellAll call x.sensor.listeners r) b fun _ => Led calm x₀ x.waiting := by
  have named : ∀ l ∈ x.sensor.listeners, ∃ name, l = .named name := crossed.alone.named
  cases audience : x.sensor.listeners with
  | nil => exact .pure ⟨_, path.tail (.echo x _ sample settled on reads new audience), rfl, crossed⟩
  | cons l others =>
    obtain ⟨name, rfl⟩ := named l (audience ▸ List.mem_cons_self)
    have path₁ := path.tail (.cross x _ sample settled on reads new distinct audience)
    have told := crossed.noted (.told (.named name) r)
    rw [Bench.tellAll, forM_cons]
    refine .bind (.step (exec_note _ _) (C _ _ name _ _ ⟨_, path₁, rfl, { told with }⟩)) ?_
    exact fun _ b' s' =>
      C.yields_tellAll (fun l hl => named l (audience ▸ List.mem_cons_of_mem _ hl)) _ s'

/-- **A sample is taken.** -/
theorem yields_take (C : Leading calm call) (sample : Sample) (settled : calm → waiting = [])
    (s : Led calm x₀ waiting b) :
    Yields (Hysteresis.take call .sole sample) b fun _ => Led calm x₀ waiting := by
  obtain ⟨x, path, rfl, sits⟩ := s
  have s₁ := sits.noted (.turned (.sampled .sole sample))
  refine .step (open_of_onThread sits.alone.thread .sole)
    (.step (exec_note _ b) (.step s₁.alone.get ?_))
  obtain ⟨stamp, resolved⟩ := sits.alone.exists_resolve sample.stamp
  -- What the sample says is looked at only while the sensor is sampling, and matters only if
  -- that is not what was last reported.
  have passed (old : x.sensor.sampling = true → ∀ r,
      x.sensor.band.reading b.clock.now sample = some r → x.sensor.last = some r.near) :
      Led calm x₀ x.waiting (noted b (.turned (.sampled .sole sample))) :=
    ⟨_, path.tail (.pass x _ sample settled old), rfl, s₁⟩
  split
  · rename_i on
    split
    · rename_i silent
      refine .pure (passed fun _ r e => ?_)
      rw [Band.reading, silent] at e
      cases e
    · rename_i near speaks
      have reading : x.sensor.band.reading b.clock.now sample = some ⟨near, stamp⟩ := by
        rw [Band.reading, speaks, resolved]
      split
      · rename_i new
        have crossed := (s₁.equip (h := { x.sensor with last := some near }) rfl).noted
          (.turned (.crossed .sole ⟨near, stamp⟩ x.sensor.listeners))
        refine .step (s₁.alone.modify _) (.step (exec_resolveStamp resolved)
          (.step (exec_note _ _) ?_))
        exact C.yields_cross (x := x) settled path sits.distinct on reading new crossed
      · rename_i old
        refine .pure (passed fun _ r e => ?_)
        obtain rfl := Option.some.inj (reading.symm.trans e)
        exact not_not.mp old
  · rename_i off
    exact .pure (passed fun on => absurd on off)

/-- What is done while nothing happens leads on. -/
theorem yields_of_nearly {act : Act α} (s : Led calm x₀ waiting b)
    (y : ∀ x, Nearly calm x b → Yields act b fun _ => Nearly calm x) :
    Yields act b fun _ => Led calm x₀ waiting := by
  obtain ⟨x, path, rfl, sits⟩ := s
  obtain ⟨a, b', e, s'⟩ := y x sits.nearly
  exact ⟨a, b', e, s'.led path⟩

/-- **The source is subscribed to**, and delivers the samples that it takes at once. -/
theorem yields_subscribe (C : Leading calm call) (delay : Number) (settled : calm → waiting = [])
    (s : Led calm x₀ waiting b) :
    Yields (Hysteresis.subscribe call .sole delay) b fun _ => Led calm x₀ waiting := by
  obtain ⟨x, path, rfl, sits⟩ := s
  refine .bind (sits.nearly.modify fun _ => ⟨rfl, rfl, rfl, rfl⟩) fun _ b₁ s₁ => ?_
  refine s₁.get fun _ _ => .bind (s₁.note rfl) fun _ b₂ s₂ => ?_
  refine s₂.get fun _ _ => .bind (s₂.modify fun _ => ⟨rfl, rfl, rfl, rfl⟩) fun _ b₃ s₃ => ?_
  exact .bind (.forM _ (fun sample _ _ s => C.yields_take sample settled s) (s₃.led path))
    fun _ _ s => .pure s

/-- **A subscription is begun.** The sensor is sampling in the scene that the beats lead to, while
the sensor itself may not know yet. -/
theorem yields_begin (C : Leading calm call) (s : Nearly calm x b)
    (path : Beats calm x₀ { x with sensor := { x.sensor with sampling := true } })
    (settled : calm → x.waiting = []) :
    Yields (Hysteresis.beginSampling call .sole) b fun _ => Led calm x₀ x.waiting := by
  refine s.get fun x₁ t₁ => .bind (s.log .debug _ _) fun _ b₁ ⟨x₂, t₂, sits₂⟩ => ?_
  have started : Nearly calm { x with sensor := { x.sensor with sampling := true } }
      (b₁.equip { x₂.sensor with sampling := true, generation := x₁.sensor.generation + 1 }) := by
    refine ⟨_, ?_, sits₂.equip rfl⟩
    exact ⟨t₂.waiting, t₂.band, rfl, t₂.last, t₂.listeners, t₂.history⟩
  refine .step (sits₂.alone.modify _)
    (.bind (C.yields_subscribe x₁.sensor.delay settled (started.led path)) fun n b₂ s₂ => ?_)
  obtain ⟨x₃, path₃, e₃, sits₃⟩ := s₂
  refine .step sits₃.alone.get ?_
  rw [← e₃]
  split
  · exact yields_of_nearly ⟨_, path₃, rfl, sits₃⟩ fun x s => s.modify fun _ => ⟨rfl, rfl, rfl, rfl⟩
  · exact yields_of_nearly ⟨_, path₃, rfl, sits₃⟩ fun x s => s.stop n

/-- **Sampling is adjusted** to whether the sensor should sample. -/
theorem yields_adjust (C : Leading calm call) (settled : calm → waiting = [])
    (s : Led calm x₀ waiting b) :
    Yields (Hysteresis.adjust call .sole) b fun _ => Led calm x₀ waiting := by
  obtain ⟨x, path, rfl, sits⟩ := s
  refine .step sits.alone.get ?_
  split
  · rename_i starts
    have off : x.sensor.sampling = false := by
      simpa using (Bool.and_eq_true_iff.mp starts).2
    have sits₁ := sits.noted (.turned (.sampling .sole true))
    have path₁ := path.tail (.start x b.clock.now settled off)
    have begun := C.yields_begin sits₁.nearly path₁ settled
    exact .step (exec_note _ b) begun
  · split
    · rename_i stops
      have on : x.sensor.sampling = true := (Bool.and_eq_true_iff.mp stops).2
      refine .bind (sits.nearly.log .debug _ _) fun _ b₁ ⟨x₁, t₁, sits₁⟩ => ?_
      have path₁ := (path.trans t₁.beats).tail
        (.halt x₁ b₁.clock.now (t₁.waiting ▸ settled) (t₁.sampling.trans on))
      have sits₂ := sits₁.noted (.turned (.sampling .sole false))
      refine .step (exec_note _ b₁) (.step (sits₂.alone.modify _) ?_)
      rw [← t₁.waiting]
      exact yields_of_nearly ⟨_, path₁, rfl, sits₂.equip rfl⟩ fun _ s => s.drop
    · exact .pure ⟨x, path, rfl, sits⟩

/-! ### The calls of a sensor -/

/-- A delay is given. While the sensor is sampling, it subscribes anew. -/
theorem yields_retime (C : Leading calm call) (delay : Number) (settled : calm → waiting = [])
    (s : Led calm x₀ waiting b) :
    Yields (Hysteresis.retime call .sole delay) b fun _ => Led calm x₀ waiting := by
  obtain ⟨x, path, rfl, sits⟩ := s
  have led : Led calm x₀ x.waiting b := ⟨x, path, rfl, sits⟩
  refine .step (open_of_onThread sits.alone.thread .sole) (.step sits.alone.get ?_)
  split
  · refine .bind (sits.nearly.modify fun _ => ⟨rfl, rfl, rfl, rfl⟩) fun _ b₁ s₁ => ?_
    refine s₁.get fun x₁ t₁ => ?_
    split
    · rename_i on
      refine .bind s₁.drop fun _ b₂ s₂ => C.yields_begin s₂ ?_ settled
      exact path.tail (.change x rfl (on.symm.trans t₁.sampling) rfl rfl)
    · exact .pure (s₁.led path)
  · exact .pure led

theorem yields_deliver (C : Leading calm call) (sample : Sample) (late : Bool)
    (settled : calm → waiting = []) (s : Led calm x₀ waiting b) :
    Yields (Hysteresis.deliver call .sole sample late) b fun _ => Led calm x₀ waiting := by
  obtain ⟨x, -, -, sits⟩ := id s
  refine .step sits.alone.get ?_
  split
  · exact .pure s
  · split
    · exact C.yields_take sample settled s
    · exact .pure s

theorem yields_pause (C : Leading calm call) (settled : calm → waiting = [])
    (s : Led calm x₀ waiting b) :
    Yields (Hysteresis.pause call .sole) b fun _ => Led calm x₀ waiting := by
  obtain ⟨x, -, -, sits⟩ := id s
  refine .step (open_of_onThread sits.alone.thread .sole) ?_
  exact .bind (yields_of_nearly s fun _ s => s.modify fun _ => ⟨rfl, rfl, rfl, rfl⟩)
    fun _ _ s₁ => C.yields_adjust settled s₁

theorem yields_resume (C : Leading calm call) (settled : calm → waiting = [])
    (s : Led calm x₀ waiting b) :
    Yields (Hysteresis.resume call .sole) b fun _ => Led calm x₀ waiting := by
  obtain ⟨x, -, -, sits⟩ := id s
  refine .step (open_of_onThread sits.alone.thread .sole) ?_
  exact .bind (yields_of_nearly s fun _ s => s.modify fun _ => ⟨rfl, rfl, rfl, rfl⟩)
    fun _ _ s₁ => C.yields_adjust settled s₁

end Leading

end Proximity
