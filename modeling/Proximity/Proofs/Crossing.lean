import Mathlib.Data.List.Destutter
import Proximity.Proofs.Outing

/-!
# Crossings

What a hysteresis sensor reports can be told from its samples alone. Its history falls into
*periods*, at whose ends it started or stopped sampling; in a period in which it is sampling, its
crossings are the readings that its samples give, without those that say the same as the one
before (`Proximity.History.Exact`). That it subscribes anew for another delay in the middle
of a period does not matter, and neither does what its listeners do.

The sensor itself remembers less, namely what it last reported. That this is enough is
`Proximity.Minded`: what it remembers is what the last reading of the period said.
-/

namespace Proximity

open Act Session

/-- What a sensor reports, and to whom. -/
structure Crossing where
  /-- What is reported. -/
  reading : Reading
  /-- Who listened. -/
  audience : List Listener

/-- Whether the sensor starts or stops sampling with an entry. -/
def Entry.switch? : Entry → Option Bool
  | .turned (.sampling .sole on) => some on
  | _ => none

/-- The sample that an entry is about. -/
def Entry.sample? : Entry → Option Sample
  | .turned (.sampled .sole sample) => some sample
  | _ => none

/-- The crossing that an entry is about. -/
def Entry.crossing? : Entry → Option Crossing
  | .turned (.crossed .sole r audience) => some ⟨r, audience⟩
  | _ => none

namespace Reading

/-- **Readings without those that say the same as the one before.** -/
def changes (readings : List Reading) : List Reading :=
  readings.destutter fun r r' => r.near ≠ r'.near

/-- What the last of some readings says. -/
def lastNear (readings : List Reading) : Option Bool := readings.getLast?.map (·.near)

variable {readings : List Reading} {r : Reading}

/-- Of readings that start with one, one more counts if it differs from the last. The induction
is on the readings, with any one in front. -/
theorem destutter'_concat (first r : Reading) (readings : List Reading) :
    (readings ++ [r]).destutter' (fun r r' => r.near ≠ r'.near) first
      = readings.destutter' (fun r r' => r.near ≠ r'.near) first
        ++ if (lastNear readings).getD first.near = r.near then [] else [r] := by
  induction readings generalizing first with
  | nil =>
    by_cases h : first.near = r.near <;> simp [lastNear, h]
  | cons second readings ih =>
    have last : (lastNear (second :: readings)).getD first.near
        = (lastNear readings).getD second.near := by
      rw [lastNear, lastNear, List.getLast?_cons]
      cases readings.getLast? <;> rfl
    rw [List.cons_append, last]
    by_cases h : first.near = second.near
    · rw [List.destutter'_cons_neg _ (not_not.mpr h), List.destutter'_cons_neg _ (not_not.mpr h),
        ih first, h]
    · rw [List.destutter'_cons_pos _ h, List.destutter'_cons_pos _ h, ih second, List.cons_append]

/-- A reading that says the same as the last one is no change. -/
theorem changes_concat_of_eq (same : lastNear readings = some r.near) :
    changes (readings ++ [r]) = changes readings := by
  cases readings with
  | nil => cases same
  | cons first readings =>
    rw [changes, List.cons_append, List.destutter_cons', destutter'_concat, if_pos]
    · exact List.append_nil _
    · rw [lastNear, List.getLast?_cons, Option.map_some] at same
      rw [lastNear]
      cases e : readings.getLast? <;> simpa [e] using same

/-- A reading that says something else than the last one is a change. -/
theorem changes_concat_of_ne (other : lastNear readings ≠ some r.near) :
    changes (readings ++ [r]) = changes readings ++ [r] := by
  cases readings with
  | nil => rfl
  | cons first readings =>
    rw [changes, List.cons_append, List.destutter_cons', destutter'_concat, if_neg]
    · rfl
    · rw [lastNear, List.getLast?_cons, Option.map_some] at other
      rw [lastNear]
      cases e : readings.getLast? <;> simpa [e] using other

theorem lastNear_concat (readings : List Reading) (r : Reading) :
    lastNear (readings ++ [r]) = some r.near := by
  rw [lastNear, List.getLast?_concat]
  rfl

/-- The last change says the same as the last reading. The induction is on the readings, from
the last one on. -/
theorem lastNear_changes (readings : List Reading) :
    lastNear (changes readings) = lastNear readings := by
  induction readings using List.reverseRecOn with
  | nil => rfl
  | append_singleton readings r ih =>
    rw [lastNear_concat]
    by_cases same : lastNear readings = some r.near
    · rw [changes_concat_of_eq same, ih, same]
    · rw [changes_concat_of_ne same, lastNear_concat]

end Reading

namespace History

/-- Whether the sensor is sampling. -/
def sampling : History → Bool
  | [] => false
  | n :: earlier => n.entry.switch?.getD (sampling earlier)

/-- What has happened since the sensor last started or stopped sampling. -/
def period (h : History) : History := h.takeWhile (·.entry.switch?.isNone)

/-- The crossings, in their order. -/
def crossings (h : History) : List Crossing := h.gather (·.entry.crossing?)

/-- The readings that the samples give which arrive in a history, in their order. -/
def readings (band : Band) (h : History) : List Reading :=
  h.gather fun n => n.entry.sample?.bind (band.reading n.time)

/-- **The readings that count**: those of the period, if the sensor is sampling. -/
def heeded (band : Band) (h : History) : List Reading :=
  if h.sampling then h.period.readings band else []

/-- **A period is exact so far**: what was reported in it are the changes among the readings that
count. -/
def Exact (band : Band) (h : History) : Prop :=
  h.period.crossings.map (·.reading) = Reading.changes (h.heeded band)

/-- A crossing says something else than the one before in the same period. -/
def Varying (n : Note) (earlier : History) : Prop := ∀ c, n.entry.crossing? = some c →
  Reading.lastNear (earlier.period.crossings.map (·.reading)) ≠ some c.reading.near

/-- A period that ends is exact. -/
def Closing (band : Band) (n : Note) (earlier : History) : Prop :=
  n.entry.switch?.isSome = true → earlier.Exact band

variable {band : Band} {h earlier later : History} {n : Note}

/-- A period goes on until the sensor starts or stops sampling. -/
theorem period_cons_of_none (hn : n.entry.switch? = none) :
    period (n :: h) = n :: h.period ∧ sampling (n :: h) = h.sampling := by
  constructor
  · rw [period, List.takeWhile_cons_of_pos (by rw [hn]; rfl)]
    rfl
  · rw [sampling, hn]
    rfl

theorem period_cons_of_some {on : Bool} (hn : n.entry.switch? = some on) :
    period (n :: h) = [] ∧ sampling (n :: h) = on := by
  constructor
  · rw [period, List.takeWhile_cons_of_neg (by rw [hn]; exact Bool.false_ne_true)]
  · rw [sampling, hn]
    rfl

/-- Nothing ends in the middle of a period. -/
theorem closing_of_none (hn : n.entry.switch? = none) : Closing band n earlier := by
  rw [Closing, hn]
  exact nofun

theorem varying_of_none (hn : n.entry.crossing? = none) : Varying n earlier := by
  rw [Varying, hn]
  exact nofun

/-- A new period begins without any crossings. -/
theorem exact_cons_of_some {on : Bool} (hn : n.entry.switch? = some on) :
    Exact band (n :: h) ∧ heeded band (n :: h) = [] := by
  obtain ⟨period, sampling⟩ := period_cons_of_some (h := h) hn
  have none : heeded band (n :: h) = [] := by
    rw [heeded, period]
    split <;> rfl
  refine ⟨?_, none⟩
  rw [Exact, none, period]
  rfl

/-- Something is noted in the middle of a period. -/
theorem heeded_cons_of_none (hn : n.entry.switch? = none) :
    heeded band (n :: h) = heeded band h
      ++ if h.sampling then (n.entry.sample?.bind (band.reading n.time)).toList else [] := by
  obtain ⟨period, sampling⟩ := period_cons_of_none (h := h) hn
  rw [heeded, heeded, period, sampling]
  split
  · exact gather_cons _ _ _
  · rfl

theorem crossings_cons_of_none (hn : n.entry.switch? = none) :
    (period (n :: h)).crossings = h.period.crossings ++ n.entry.crossing?.toList := by
  rw [(period_cons_of_none hn).1]
  exact gather_cons _ _ _

/-- What is neither a sample nor a crossing changes nothing in the middle of a period. -/
theorem exact_cons_of_none (hn : n.entry.switch? = none) (hs : n.entry.sample? = none)
    (hc : n.entry.crossing? = none) :
    (Exact band (n :: h) ↔ Exact band h) ∧ heeded band (n :: h) = heeded band h := by
  have same : heeded band (n :: h) = heeded band h := by
    rw [heeded_cons_of_none hn, hs, Option.bind_none, Option.toList_none, ite_self,
      List.append_nil]
  refine ⟨?_, same⟩
  rw [Exact, Exact, same, crossings_cons_of_none hn, hc, Option.toList_none, List.append_nil]

variable {time : Number} {sample : Sample} {r : Reading} {audience : List Listener}

/-- A sample arrives. It gives a reading that counts if the sensor is sampling. -/
theorem heeded_cons_sampled : heeded band (⟨time, .turned (.sampled .sole sample)⟩ :: h)
    = heeded band h ++ if h.sampling then (band.reading time sample).toList else [] :=
  heeded_cons_of_none rfl

theorem crossings_cons_sampled :
    (period (⟨time, .turned (.sampled .sole sample)⟩ :: h)).crossings = h.period.crossings :=
  (crossings_cons_of_none rfl).trans (List.append_nil _)

/-- **A sample that says nothing new** is passed over. -/
theorem Exact.pass (e : Exact band h) (old : h.sampling = true → ∀ r,
      band.reading time sample = some r → Reading.lastNear (h.heeded band) = some r.near) :
    Exact band (⟨time, .turned (.sampled .sole sample)⟩ :: h)
      ∧ Reading.lastNear (heeded band (⟨time, .turned (.sampled .sole sample)⟩ :: h))
        = Reading.lastNear (h.heeded band) := by
  rw [Exact, crossings_cons_sampled, heeded_cons_sampled]
  split
  · rename_i on
    cases reads : band.reading time sample with
    | none =>
      rw [Option.toList_none, List.append_nil]
      exact ⟨e, rfl⟩
    | some r =>
      have same := old on r reads
      rw [Option.toList_some, Reading.changes_concat_of_eq same, Reading.lastNear_concat]
      exact ⟨e, same.symm⟩
  · rw [List.append_nil]
    exact ⟨e, rfl⟩

/-- **A sample that says something new** is reported. -/
theorem Exact.cross (e : Exact band h) (audience : List Listener) (on : h.sampling = true)
    (reads : band.reading time sample = some r)
    (new : Reading.lastNear (h.heeded band) ≠ some r.near) :
    Exact band (⟨time, .turned (.crossed .sole r audience)⟩
        :: ⟨time, .turned (.sampled .sole sample)⟩ :: h)
      ∧ Reading.lastNear (heeded band (⟨time, .turned (.crossed .sole r audience)⟩
        :: ⟨time, .turned (.sampled .sole sample)⟩ :: h)) = some r.near := by
  have counts : heeded band (⟨time, .turned (.crossed .sole r audience)⟩
      :: ⟨time, .turned (.sampled .sole sample)⟩ :: h) = heeded band h ++ [r] := by
    refine (heeded_cons_of_none rfl).trans ?_
    rw [heeded_cons_sampled, if_pos on, reads]
    exact (congrArg _ (ite_self [])).trans (List.append_nil _)
  have crossings : (period (⟨time, .turned (.crossed .sole r audience)⟩
      :: ⟨time, .turned (.sampled .sole sample)⟩ :: h)).crossings
        = h.period.crossings ++ [⟨r, audience⟩] := by
    refine (crossings_cons_of_none rfl).trans ?_
    rw [crossings_cons_sampled]
    rfl
  rw [Exact, counts, crossings, Reading.changes_concat_of_ne new, Reading.lastNear_concat,
    List.map_append]
  exact ⟨congrArg (· ++ [r]) e, rfl⟩

end History

/-- **What a sensor remembers** is what the last reading of the period said, and all that it
reported was exact. -/
structure Minded (band : Band) (x : Scene) : Prop where
  /-- The band is the sensor's. -/
  fixed : x.sensor.band = band
  /-- The sensor knows whether it is sampling. -/
  sampling : x.sensor.sampling = x.history.sampling
  /-- It remembers the last reading of the period. -/
  last : x.sensor.last = Reading.lastNear (x.history.heeded band)
  /-- The period is exact so far. -/
  exact : x.history.Exact band
  /-- All periods before were exact. -/
  closed : History.Always (History.Closing band) x.history
  /-- No two crossings in a row say the same in a period. -/
  varied : History.Always History.Varying x.history

namespace Minded

variable {band : Band} {x : Scene}

/-- What is neither a sample nor a crossing is noted in the middle of a period. -/
theorem noted {n : Note} (m : Minded band x) (hn : n.entry.switch? = none)
    (hs : n.entry.sample? = none) (hc : n.entry.crossing? = none) :
    Minded band { x with history := n :: x.history } := by
  obtain ⟨exact, same⟩ : _ ∧ History.heeded band (n :: x.history) = _ :=
    History.exact_cons_of_none hn hs hc
  refine ⟨m.fixed, m.sampling.trans (History.period_cons_of_none hn).2.symm,
    m.last.trans (congrArg _ same.symm), exact.mpr m.exact,
    m.closed.cons (History.closing_of_none hn), m.varied.cons (History.varying_of_none hc)⟩

/-- Sampling starts or stops, and the sensor remembers nothing. -/
theorem switch (m : Minded band x) (time : Number) (on : Bool) {sensor : Hysteresis}
    (fixed : sensor.band = x.sensor.band) (sampling : sensor.sampling = on)
    (last : sensor.last = none) :
    Minded band { x with
      sensor
      history := ⟨time, .turned (.sampling .sole on)⟩ :: x.history } := by
  obtain ⟨exact, none⟩ : History.Exact band
      (⟨time, .turned (.sampling .sole on)⟩ :: x.history) ∧ _ := History.exact_cons_of_some rfl
  exact ⟨fixed.trans m.fixed, sampling, last.trans (congrArg Reading.lastNear none).symm, exact,
    m.closed.cons fun _ => m.exact, m.varied.cons nofun⟩

/-- **A sample crosses the band**, and the sensor remembers that. -/
theorem cross (m : Minded band x) {time : Number} {sample : Sample} {r : Reading}
    (on : x.sensor.sampling = true) (reads : x.sensor.band.reading time sample = some r)
    (new : x.sensor.last ≠ some r.near) (waiting : List (Listener × Reading))
    (audience : List Listener) :
    Minded band
      { waiting
        sensor := { x.sensor with last := some r.near }
        history := ⟨time, .turned (.crossed .sole r audience)⟩
          :: ⟨time, .turned (.sampled .sole sample)⟩ :: x.history } := by
  obtain ⟨exact, last⟩ := m.exact.cross audience (m.sampling.symm.trans on)
    (m.fixed ▸ reads) (m.last ▸ new)
  refine ⟨m.fixed, m.sampling, last.symm, exact,
    (m.closed.cons (History.closing_of_none rfl)).cons (History.closing_of_none rfl),
    (m.varied.cons (History.varying_of_none rfl)).cons ?_⟩
  intro c hc
  obtain rfl : ⟨r, audience⟩ = c := Option.some.inj hc
  rw [History.crossings_cons_sampled, m.exact, Reading.lastNear_changes, ← m.last]
  exact new

end Minded

/-- Records and subscriptions are neither samples nor crossings. -/
theorem Entry.unread_of_isRemark {entry : Entry} (h : entry.isRemark = true) :
    entry.switch? = none ∧ entry.sample? = none ∧ entry.crossing? = none := by
  cases entry with
  | turned => cases h
  | _ => exact ⟨rfl, rfl, rfl⟩

/-- **A sensor keeps its memory**, whatever its listeners do. There is one case for each beat. -/
theorem lasting_minded (calm : Prop) (band : Band) : Lasting calm (Minded band) where
  relist _ _ m := { m with }
  beat {x x'} beat m := by
    cases beat with
    | remark h =>
      obtain ⟨hn, hs, hc⟩ := Entry.unread_of_isRemark h
      exact m.noted hn hs hc
    | change same sampling last _ =>
      exact ⟨same.trans m.fixed, sampling.trans m.sampling, last.trans m.last, m.exact, m.closed,
        m.varied⟩
    | relist => exact { m with }
    | pass time sample _ old =>
      obtain ⟨exact, last⟩ : History.Exact band
          (⟨time, .turned (.sampled .sole sample)⟩ :: x.history) ∧ _ := m.exact.pass fun on r reads =>
        m.last.symm.trans (old (m.sampling.trans on) r (m.fixed ▸ reads))
      exact ⟨m.fixed, m.sampling, m.last.trans last.symm, exact,
        m.closed.cons (History.closing_of_none rfl), m.varied.cons (History.varying_of_none rfl)⟩
    | cross time _ _ on reads new => exact (m.cross on reads new _ _).noted rfl rfl rfl
    | echo time _ _ on reads new => exact m.cross on reads new _ _
    | tell time next =>
      exact { m.noted (n := ⟨time, .told _ _⟩) rfl rfl rfl with }
    | start time _ off =>
      refine m.switch time true rfl rfl (m.last.trans ?_)
      rw [History.heeded, ← m.sampling, off]
      rfl
    | halt time => exact m.switch time false rfl rfl rfl

/-- A sensor that nobody has used yet has nothing to remember. -/
theorem minded_opening (source : Option Source) (band : Band) (delay : Option Number)
    (confined : Bool) : Minded band (.opening source band delay confined) :=
  ⟨rfl, rfl, rfl, rfl, .nil, .nil⟩

end Proximity
