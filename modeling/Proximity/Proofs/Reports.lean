import Proximity.Proofs.Crossing
import Proximity.Proofs.Records

/-!
# What a sensor reports to calm listeners

Listeners that do nothing when they are told something are told of each crossing one after the
other, before anything else happens. So what they are told in a period is the crossings of the
period, in their order, each told to all who listen (`Proximity.History.Delivered`); and the
crossings are what the samples say (`Proximity.History.Exact`). The main statement is
`Proximity.reports_exact`, about any session of calls, samples and time that passes:

| in a period | |
|---|---|
| the readings that count | those of the samples that arrive while the sensor is sampling |
| the crossings | the changes among them |
| what is told | each crossing to its audience |
| the audience | whoever listens at the end of the step |

What a sample says does not depend on what was said before: no value is both below the one
threshold and above the other (`Proximity.Band.reading_eq_some_iff`).

The samples are those of the history. A source cannot deliver one that is left out of it
(`Proximity.Records.sample`), unless it does not reach the sensor, and then nothing comes of the
sample (`Proximity.exec_deliver_of_deaf`).
-/

namespace Proximity

open Act Session

/-! ### Readings -/

namespace Band

variable {band : Band} {value time : Number} {sample : Sample} {near : Bool} {r : Reading}

/-- No value is on both sides of a band. -/
theorem not_lt_threshold (band : Band) (finite : value.isFinite = true)
    (far : band.latch ≤ value) : ¬ value < band.threshold := by
  have rational {x : Number} (h : x.isFinite = true) : ∃ q, x.toRat? = some q :=
    Option.isSome_iff_exists.mp (x.isFinite_eq_isSome ▸ h)
  obtain ⟨v, hv⟩ := rational finite
  obtain ⟨t, ht⟩ := rational band.threshold_finite
  obtain ⟨u, hu⟩ := rational band.latch_finite
  have order := band.in_order
  rw [Number.lt_iff_toRat hu ht, Rat.not_lt] at order
  rw [Number.le_iff_toRat hu hv] at far
  rw [Number.lt_iff_toRat hv ht, Rat.not_lt]
  exact Rat.le_trans order far

/-- A band that can be made is made of what it was asked to be. -/
theorem eq_of_make {threshold latch : Number} (h : make threshold latch = .ok band) :
    band.threshold = threshold ∧ band.latch = latch := by
  rw [make] at h
  split at h
  · split at h
    · split at h
      · cases h
      · cases h
        exact ⟨rfl, rfl⟩
    · cases h
  · cases h

theorem classify_eq_some_iff : band.classify value = some near ↔
    value.isFinite = true ∧ if near then value < band.threshold else band.latch ≤ value := by
  rw [classify]
  cases finite : value.isFinite with
  | false => simp
  | true =>
    by_cases below : value < band.threshold
    · have notFar : ¬ band.latch ≤ value := fun far => band.not_lt_threshold finite far below
      cases near <;> simp [below, notFar]
    · by_cases above : band.latch ≤ value <;> cases near <;> simp [below, above]

/-- **What a sample says**: near below the lower threshold and far from the upper one on, if its
value is finite, with the time that it gives or else that of the clock. -/
theorem reading_eq_some_iff : band.reading time sample = some r ↔
    sample.value.isFinite = true
      ∧ (if r.near then sample.value < band.threshold else band.latch ≤ sample.value)
      ∧ sample.stamp.resolve time = .ok r.stamp := by
  rw [← and_assoc, ← classify_eq_some_iff, reading]
  obtain ⟨near, stamp⟩ := r
  cases band.classify sample.value <;> cases sample.stamp.resolve time <;> simp

end Band

/-! ### What is told -/

/-- Who is told what, by an entry. -/
def Entry.telling? : Entry → Option (Listener × Reading)
  | .told l r => some (l, r)
  | _ => none

/-- What all who listen are told of a crossing. -/
def Crossing.tellings (c : Crossing) : List (Listener × Reading) := c.audience.map (·, c.reading)

namespace History

/-- Who is told what, in the order in which it happens. -/
def tellings (h : History) : List (Listener × Reading) := h.gather (·.entry.telling?)

/-- **Everything has been delivered** that there was to report in a period. -/
def Delivered (h : History) : Prop :=
  h.period.tellings = h.period.crossings.flatMap Crossing.tellings

/-- What there was to report in a period is delivered before the period ends. -/
def Settling (n : Note) (earlier : History) : Prop :=
  n.entry.switch?.isSome = true → earlier.Delivered

variable {h earlier : History} {n : Note}

theorem settling_of_none (hn : n.entry.switch? = none) : Settling n earlier := by
  rw [Settling, hn]
  exact nofun

theorem tellings_cons_of_none (hn : n.entry.switch? = none) :
    (period (n :: h)).tellings = h.period.tellings ++ n.entry.telling?.toList := by
  rw [(period_cons_of_none hn).1]
  exact gather_cons _ _ _

end History

/-- **What was reported has been told**, but for those who still wait. -/
structure Reported (waiting : List (Listener × Reading)) (h : History) : Prop where
  /-- Everything in the period has been told, or will be. -/
  told : h.period.tellings ++ waiting = h.period.crossings.flatMap Crossing.tellings
  /-- Everything in the periods before has been told. -/
  closed : History.Always History.Settling h

namespace Reported

variable {waiting : List (Listener × Reading)} {h : History} {n : Note}

/-- What is neither a crossing nor tells anybody anything is noted in the middle of a period. -/
theorem noted (m : Reported waiting h) (hn : n.entry.switch? = none)
    (hc : n.entry.crossing? = none) (ht : n.entry.telling? = none) : Reported waiting (n :: h) := by
  refine ⟨?_, m.closed.cons (History.settling_of_none hn)⟩
  rw [History.tellings_cons_of_none hn, History.crossings_cons_of_none hn, hc, ht,
    Option.toList_none, Option.toList_none, List.append_nil, List.append_nil]
  exact m.told

/-- The first of those who wait is told. -/
theorem tell {l : Listener} {r : Reading} (m : Reported ((l, r) :: waiting) h) (time : Number) :
    Reported waiting (⟨time, .told l r⟩ :: h) := by
  refine ⟨?_, m.closed.cons (History.settling_of_none rfl)⟩
  rw [History.tellings_cons_of_none rfl, History.crossings_cons_of_none rfl]
  refine (List.append_assoc _ _ _).trans (m.told.trans ?_)
  exact congrArg (List.flatMap Crossing.tellings) (List.append_nil _).symm

/-- Something is crossed while nobody waits, and then the audience waits. -/
theorem cross (m : Reported [] h) (time : Number) (r : Reading) (audience : List Listener) :
    Reported (audience.map (·, r)) (⟨time, .turned (.crossed .sole r audience)⟩ :: h) := by
  refine ⟨?_, m.closed.cons (History.settling_of_none rfl)⟩
  have told : h.period.tellings = _ := (List.append_nil _).symm.trans m.told
  rw [History.tellings_cons_of_none rfl, History.crossings_cons_of_none rfl,
    List.flatMap_append, ← told]
  exact congrArg₂ _ (List.append_nil _) (List.append_nil _).symm

/-- Sampling starts or stops while nobody waits. -/
theorem switch (m : Reported [] h) (time : Number) (on : Bool) :
    Reported [] (⟨time, .turned (.sampling .sole on)⟩ :: h) := by
  refine ⟨?_, m.closed.cons fun _ => (List.append_nil _).symm.trans m.told⟩
  rw [(History.period_cons_of_some rfl).1]
  rfl

end Reported

theorem Entry.untold_of_isRemark {entry : Entry} (h : entry.isRemark = true) :
    entry.telling? = none := by
  cases entry with
  | told => cases h
  | _ => rfl

/-- **Calm listeners are told of every crossing.** There is one case for each beat. -/
theorem lasting_reported : Lasting True fun x => Reported x.waiting x.history where
  relist _ _ m := m
  beat {x x'} beat m := by
    cases beat with
    | remark h =>
      obtain ⟨hn, -, hc⟩ := Entry.unread_of_isRemark h
      exact m.noted hn hc (Entry.untold_of_isRemark h)
    | change => exact m
    | relist _ wild => exact absurd trivial wild
    | pass => exact m.noted rfl rfl rfl
    | @cross time sample r l others settled _ _ _ _ audience =>
      rw [settled trivial] at m
      have sampled := m.noted (n := ⟨time, .turned (.sampled .sole sample)⟩) rfl rfl rfl
      have crossed := sampled.cross time r x.sensor.listeners
      rw [settled trivial, List.append_nil]
      exact Reported.tell (by rwa [audience] at crossed ⊢) time
    | @echo time sample r settled _ _ _ audience =>
      rw [settled trivial] at m
      have sampled := m.noted (n := ⟨time, .turned (.sampled .sole sample)⟩) rfl rfl rfl
      have crossed := sampled.cross time r x.sensor.listeners
      rw [settled trivial]
      rwa [audience] at crossed ⊢
    | tell time next =>
      rw [next] at m
      exact m.tell time
    | start time settled =>
      rw [settled trivial] at m ⊢
      exact m.switch time true
    | halt time settled =>
      rw [settled trivial] at m ⊢
      exact m.switch time false

/-! ### Who is told -/

/-- Whether an entry is no crossing, or one with a certain audience. -/
def Entry.addresses (listeners : List Listener) (entry : Entry) : Bool :=
  entry.crossing?.all fun c => c.audience = listeners

theorem Entry.addresses_of_isRemark {entry : Entry} (h : entry.isRemark = true)
    (listeners : List Listener) : entry.addresses listeners = true := by
  rw [addresses, (Entry.unread_of_isRemark h).2.2]
  rfl

theorem Entry.addresses_crossed (r : Reading) {audience listeners : List Listener}
    (same : audience = listeners) :
    Entry.addresses listeners (.turned (.crossed .sole r audience)) = true := decide_eq_true same

/-- **Between calm listeners, the audience stays.** The induction is on the beats. -/
theorem Beats.audience {x x' : Scene} (path : Beats True x x') :
    x'.sensor.listeners = x.sensor.listeners
      ∧ History.Since (Entry.addresses x.sensor.listeners) x.history x'.history := by
  induction path with
  | refl => exact ⟨rfl, .refl _ _⟩
  | tail _ beat ih =>
    obtain ⟨same, since⟩ := ih
    cases beat with
    | remark h => exact ⟨same, since.cons (Entry.addresses_of_isRemark h _)⟩
    | change _ _ _ listeners => exact ⟨listeners.trans same, since⟩
    | relist _ wild => exact absurd trivial wild
    | pass => exact ⟨same, since.cons rfl⟩
    | cross => exact ⟨same, ((since.cons rfl).cons (Entry.addresses_crossed _ same)).cons rfl⟩
    | echo => exact ⟨same, (since.cons rfl).cons (Entry.addresses_crossed _ same)⟩
    | tell | start | halt => exact ⟨same, since.cons rfl⟩

/-! ### Sessions -/

/-- **A sensor has reported what its samples say**, period by period. -/
structure Reporting (band : Band) (h : Hysteresis) (b : Bench) : Prop where
  /-- The sensor is the only one. -/
  sole : b.sensors.sole = .hysteresis h
  /-- It is sampling just when the history says so. -/
  sampling : h.sampling = History.sampling b.journal
  /-- The crossings of the period are the changes among the readings that count. -/
  exact : History.Exact band b.journal
  /-- What was told in the period is its crossings, each to its audience. -/
  delivered : History.Delivered b.journal
  /-- The same held of each period before when it ended. -/
  before : History.Always (fun n earlier => n.entry.switch?.isSome = true →
    earlier.Exact band ∧ earlier.Delivered) b.journal

variable {b : Bench} {s : Scenario} {source : Option (Option String × List (List Sample))}
  {threshold : Number} {latch delay : Option Number} {confined : Bool}

/-- **No sample is left out**: one that reaches the sensor is noted, and nothing comes of another. -/
theorem Alone.bench_take_sample {h : Hysteresis} (a : Alone h b) (sample : Sample) (late : Bool) :
    if b.sensors.sole.asHysteresis.hears late then
      ⟨b.clock.now, .turned (.sampled .sole sample)⟩ :: b.journal
        <:+ (Session.take (.sample .sole sample late) b).bench.journal
    else (Session.take (.sample .sole sample late) b).bench = b := by
  have there : b.sensors.get .sole = .hysteresis h := by rw [a.sensors]; rfl
  have same : b.sensors.sole.asHysteresis = h := by rw [a.sensors]; rfl
  rw [same]
  split
  · rename_i hears
    exact Records.sample there hears a.thread _
  · rename_i deaf
    have stays := exec_deliver_of_deaf there (Bool.eq_false_iff.mpr deaf)
      (react (Session.depth b (.sample .sole sample late))) sample
    exact congrArg Prod.snd (exec_bind_of_ok (f := fun _ => pure Answer.none) stays)

/-- **What a sensor reports to calm listeners are the changes among its samples.** A hysteresis
sensor is used from its owner's thread, at finite times, and its listeners do nothing when they
are told something. Then every step succeeds; what the sensor reports in a period are the changes
among the readings that its samples give while it is sampling; and each of them is told to all who
listen, in their order, before the step is over. Its samples are all that its source delivers and that
reach it; nothing comes of one that does not. -/
theorem reports_exact
    (target : s.target = .sensor (.hysteresis source threshold latch delay confined))
    (home : s.confines = true → s.thread.same (s.owner.getD s.thread) = true)
    (calm : ∀ entry ∈ s.scripts, ∀ script ∈ entry.2, script = [])
    (ready : s.setUp = .ok b) {steps : List Step}
    (outings : ∀ step ∈ steps, step.isOuting = true) (timely : Timely steps b) :
    ∃ band, (∀ time sample r, band.reading time sample = some r ↔ sample.value.isFinite = true
        ∧ (if r.near then sample.value < threshold else latch.getD threshold ≤ sample.value)
        ∧ sample.stamp.resolve time = .ok r.stamp)
      ∧ ∀ before step after, steps = before ++ step :: after →
        (Session.take step (Session.run before b)).answer.isOk = true
          ∧ (∃ h, Reporting band h (Session.take step (Session.run before b)).bench
            ∧ History.Since (Entry.addresses h.listeners) (Session.run before b).journal
              (Session.take step (Session.run before b)).bench.journal)
          ∧ ∀ sample late, step = .sample .sole sample late →
            if (Session.run before b).sensors.sole.asHysteresis.hears late then
              ⟨(Session.run before b).clock.now, .turned (.sampled .sole sample)⟩
                :: (Session.run before b).journal
                  <:+ (Session.take step (Session.run before b)).bench.journal
            else (Session.take step (Session.run before b)).bench = Session.run before b := by
  have idle : ∀ entry ∈ s.scripts, ∀ script ∈ entry.2, ∀ step ∈ script, False := by
    intro entry he script hs step mem
    rw [calm entry he script hs] at mem
    cases mem
  obtain ⟨source', band, made, x, path, settled, sits⟩ := s.led_setUp True target home
    (fun entry he script hs step mem => (idle entry he script hs step mem).elim)
    (fun entry he script hs step mem => (idle entry he script hs step mem).elim) ready
  obtain ⟨rfl, upper⟩ := Band.eq_of_make made
  refine ⟨band, fun time sample r => upper ▸ Band.reading_eq_some_iff, ?_⟩
  rintro before step after rfl
  have L := (lasting_minded True band).and lasting_reported
  have opening : Minded band (.opening source' band delay confined) ∧ Reported [] [] :=
    ⟨minded_opening _ _ _ _, rfl, .nil⟩
  obtain ⟨x₁, sits₁, settled₁, kept₁⟩ := sits.run L settled (L.beats path opening)
    (fun step' mem => outings step' (List.mem_append_left _ mem))
    (timely.of_prefix (List.prefix_append _ _))
  obtain ⟨ok, listeners, distinct, x₂, path₂, settled₂, sits₂⟩ := sits₁.take settled₁
    (outings step (by simp)) (timely.of_append [step] ⟨after, rfl⟩)
  obtain ⟨minded, reported⟩ := L.beats path₂ (L.relist distinct settled₁ kept₁)
  obtain ⟨same, since⟩ := Beats.audience path₂
  rw [settled₂.trans settled₁] at reported
  refine ⟨ok, ⟨x₂.sensor, ⟨by rw [sits₂.alone.sensors], ?_, ?_, ?_, ?_⟩, ?_⟩,
    fun sample late e => e ▸ sits₁.alone.bench_take_sample sample late⟩
  all_goals rw [sits₂.journal]
  · exact minded.sampling
  · exact minded.exact
  · exact (List.append_nil _).symm.trans reported.told
  · exact fun later n earlier e ends =>
      ⟨minded.closed later n earlier e ends, reported.closed later n earlier e ends⟩
  · rw [sits₁.journal, same]
    exact since

/-- A scenario with a sensor whose source takes a near sample from inside the first call that
subscribes to it, and two calm listeners. -/
def calmScenario : Scenario :=
  { env := .ofList [], telemetry := Scenario.plainTelemetry, startsTracker := false
    confines := true, owner := none, thread := 0
    target := .sensor (.hysteresis (some (none, [[⟨4, .exact 1⟩]])) 5 (some 8) none true)
    probe := none, scripts := [("a", []), ("b", [])] }

/-- A session in which there are two periods. In the first one a second listener joins, a sample
falls into the band and one is no number, and the sensor subscribes anew. -/
def calmSteps : List Step :=
  [.join "a", .join "b", .sample .sole ⟨6, .exact 2⟩ false, .sample .sole ⟨8, .missing⟩ false,
    .delay 7, .advance 2, .sample .sole ⟨.nan, .missing⟩ false,
    .sample .sole ⟨9, .exact 3⟩ false, .sample .sole ⟨1, .missing⟩ false, .pause,
    .sample .sole ⟨9, .exact 4⟩ true, .leave "a", .resume, .sample .sole ⟨1, .exact 5⟩ false]

theorem reports_exact_session :
    History.tellings (calmScenario.after calmSteps).journal
        = [(.named "a", ⟨true, 1⟩), (.named "a", ⟨false, 0⟩), (.named "b", ⟨false, 0⟩),
          (.named "a", ⟨true, 2000000⟩), (.named "b", ⟨true, 2000000⟩), (.named "b", ⟨true, 5⟩)]
      ∧ ∃ band, (∀ time sample r, band.reading time sample = some r ↔ sample.value.isFinite = true
          ∧ (if r.near then sample.value < (5 : Number) else (8 : Number) ≤ sample.value)
          ∧ sample.stamp.resolve time = .ok r.stamp)
        ∧ ∀ before step after, calmSteps = before ++ step :: after →
          let earlier := Session.run before (calmScenario.after [])
          (Session.take step earlier).answer.isOk = true
            ∧ (∃ h, Reporting band h (Session.take step earlier).bench
              ∧ History.Since (Entry.addresses h.listeners) earlier.journal
                (Session.take step earlier).bench.journal)
            ∧ ∀ sample late, step = .sample .sole sample late →
              if earlier.sensors.sole.asHysteresis.hears late then
                ⟨earlier.clock.now, .turned (.sampled .sole sample)⟩ :: earlier.journal
                  <:+ (Session.take step earlier).bench.journal
              else (Session.take step earlier).bench = earlier :=
  ⟨by decide +kernel,
    reports_exact (show calmScenario.target = .sensor (.hysteresis _ _ (some 8) _ _) from rfl)
      (by decide) (by decide)
      (Scenario.setUp_eq_after (by decide +kernel)) (by decide) (by decide +kernel)⟩

end Proximity
