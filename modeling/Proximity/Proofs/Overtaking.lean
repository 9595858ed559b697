import Proximity.Proofs.Reports

/-!
# In which order listeners are told

A hysteresis sensor tells its listeners of a crossing one after the other, and does not mind if
one of them, by what it does when it is told, makes the sensor cross its band again. That later
crossing is told to all who listen before the sensor comes back to those who still wait to be told
of the earlier one. So whoever waits is told first what it was meant to be told last
(`Proximity.History.Due`).

| a listener | is told |
|---|---|
| any | each crossing that is meant for it, once |
| that is never overtaken | all of them, in the order of their samples |
| that comes first wherever it listens | the same, since nobody can overtake it |

A listener is *overtaken* when the band is crossed again while it waits; that it is not is
`Proximity.History.Unhurried`. The main statement is `Proximity.told_in_order`; a session in which
a listener is overtaken, and is left with a last word that the sensor does not remember, is
`Proximity.overtaken_listener`.
-/

namespace Proximity

open Act Session

/-- What a listener is told by an entry. -/
def Entry.told? (l : Listener) (entry : Entry) : Option Reading :=
  entry.telling?.bind fun t => if t.1 = l then some t.2 else none

/-- The crossing that is meant for a listener among others. -/
def Entry.meant? (l : Listener) (entry : Entry) : Option Reading :=
  entry.crossing?.bind fun c => if l ∈ c.audience then some c.reading else none

namespace History

/-- **Who waits** to be told of a crossing: the audience of the latest one first. -/
def untold : History → List (Listener × Reading)
  | [] => []
  | n :: earlier =>
    match n.entry with
    | .turned (.crossed .sole r audience) => audience.map (·, r) ++ untold earlier
    | .told _ _ => (untold earlier).tail
    | _ => untold earlier

/-- What a listener waits for. -/
def waits (l : Listener) (h : History) : List Reading :=
  h.untold.filterMap fun t => if t.1 = l then some t.2 else none

/-- What a listener was told, in the order in which it was told. -/
def toldTo (l : Listener) (h : History) : List Reading := h.gather (·.entry.told? l)

/-- The crossings that were meant for a listener, in their order. -/
def meantFor (l : Listener) (h : History) : List Reading := h.gather (·.entry.meant? l)

/-- **Whoever is told something was the first to wait**, and for just that. -/
def Due (n : Note) (earlier : History) : Prop :=
  ∀ t, n.entry.telling? = some t → earlier.untold.head? = some t

/-- Nobody is twice in an audience. -/
def Distinct (n : Note) (_ : History) : Prop :=
  ∀ c, n.entry.crossing? = some c → c.audience.Nodup

/-- **When the band is crossed, a listener does not wait any more.** -/
def Unhurried (l : Listener) (n : Note) (earlier : History) : Prop :=
  ∀ r, n.entry.meant? l = some r → earlier.waits l = []

variable {l : Listener} {r : Reading} {n : Note} {h stretch earlier : History}

/-- Of an audience in which nobody is twice, a listener is one or none. -/
theorem filterMap_audience {audience : List Listener} (distinct : audience.Nodup) (l : Listener)
    (r : Reading) : ((audience.map (·, r)).filterMap fun t => if t.1 = l then some t.2 else none)
      = if l ∈ audience then [r] else [] := by
  induction audience with
  | nil => rfl
  | cons first others ih =>
    obtain ⟨absent, distinct⟩ := List.nodup_cons.mp distinct
    rw [List.map_cons, List.filterMap_cons]
    by_cases same : first = l
    · subst same
      simp [ih distinct, absent]
    · have other : ¬ l = first := fun e => same e.symm
      simp [ih distinct, same, other]

/-- **What becomes of a listener that waits**: it is told what it waits for first, or it waits for
one thing more, or nothing happens to it. -/
theorem waits_cons (due : Due n h) (distinct : Distinct n h) (l : Listener) :
    (∃ r, n.entry.told? l = some r ∧ n.entry.meant? l = none ∧ waits l h = r :: waits l (n :: h))
      ∨ (∃ r, n.entry.meant? l = some r ∧ n.entry.told? l = none
        ∧ waits l (n :: h) = r :: waits l h)
      ∨ (n.entry.told? l = none ∧ n.entry.meant? l = none ∧ waits l (n :: h) = waits l h) := by
  obtain ⟨time, entry⟩ := n
  cases entry with
  | told l' r =>
    obtain ⟨rest, e⟩ := List.head?_eq_some_iff.mp (due (l', r) rfl)
    have left : untold (⟨time, .told l' r⟩ :: h) = rest := congrArg List.tail e
    by_cases same : l' = l
    · refine .inl ⟨r, ?_, rfl, ?_⟩
      · simp [Entry.told?, Entry.telling?, same]
      · rw [waits, waits, left, e, List.filterMap_cons]
        simp [same]
    · refine .inr (.inr ⟨?_, rfl, ?_⟩)
      · simp [Entry.told?, Entry.telling?, same]
      · rw [waits, waits, left, e, List.filterMap_cons]
        simp [same]
  | turned t =>
    cases t with
    | crossed role r audience =>
      cases role with
      | sole =>
        have more : waits l (⟨time, .turned (.crossed .sole r audience)⟩ :: h)
            = (if l ∈ audience then [r] else []) ++ waits l h := by
          rw [← filterMap_audience (distinct ⟨r, audience⟩ rfl)]
          exact List.filterMap_append
        by_cases mem : l ∈ audience
        · rw [if_pos mem] at more
          exact .inr (.inl ⟨r, by simp [Entry.meant?, Entry.crossing?, mem], rfl, more⟩)
        · rw [if_neg mem] at more
          exact .inr (.inr ⟨rfl, by simp [Entry.meant?, Entry.crossing?, mem], more⟩)
      | primary | secondary => exact .inr (.inr ⟨rfl, rfl, rfl⟩)
    | _ => exact .inr (.inr ⟨rfl, rfl, rfl⟩)
  | _ => exact .inr (.inr ⟨rfl, rfl, rfl⟩)

theorem toldTo_cons (l : Listener) (n : Note) (h : History) :
    toldTo l (n :: h) = toldTo l h ++ (n.entry.told? l).toList := gather_cons _ n h

theorem meantFor_cons (l : Listener) (n : Note) (h : History) :
    meantFor l (n :: h) = meantFor l h ++ (n.entry.meant? l).toList := gather_cons _ n h

theorem crossings_cons (n : Note) (h : History) :
    crossings (n :: h) = crossings h ++ n.entry.crossing?.toList := gather_cons _ n h

/-- **What is meant for a listener it is told once**, or it still waits for it. The induction is
on the history. -/
theorem toldTo_append_waits_perm (due : Always Due h) (distinct : Always Distinct h)
    (l : Listener) : (toldTo l h ++ waits l h).Perm (meantFor l h) := by
  induction h with
  | nil => exact .refl _
  | cons n h ih =>
    have ih := ih due.tail distinct.tail
    rw [toldTo_cons, meantFor_cons]
    rcases waits_cons due.head distinct.head l with
      ⟨r, told, meant, e⟩ | ⟨r, meant, told, e⟩ | ⟨told, meant, e⟩ <;> rw [told, meant]
    · rw [Option.toList_some, Option.toList_none, List.append_nil, List.append_assoc,
        List.singleton_append, ← e]
      exact ih
    · rw [Option.toList_none, List.append_nil, e, Option.toList_some]
      refine .trans ?_ (ih.append_right [r])
      rw [List.append_assoc]
      exact .append_left _ (List.perm_append_singleton r _).symm
    · rw [Option.toList_none, List.append_nil, List.append_nil, e]
      exact ih

/-- **A listener that is never overtaken is told everything in order**: from any time on at which
it does not wait. The induction is on what has happened since. -/
theorem toldTo_append_waits (due : Always Due (stretch ++ earlier))
    (distinct : Always Distinct (stretch ++ earlier))
    (unhurried : Always (Unhurried l) (stretch ++ earlier)) (none : waits l earlier = []) :
    toldTo l stretch ++ waits l (stretch ++ earlier) = meantFor l stretch := by
  induction stretch with
  | nil => exact none
  | cons n stretch ih =>
    have ih := ih due.tail distinct.tail unhurried.tail
    rw [toldTo_cons, meantFor_cons]
    rcases waits_cons due.head distinct.head l with
      ⟨r, told, meant, e⟩ | ⟨r, meant, told, e⟩ | ⟨told, meant, e⟩ <;> rw [told, meant]
    · rw [Option.toList_some, Option.toList_none, List.append_nil, List.append_assoc,
        List.singleton_append]
      exact (congrArg _ e.symm).trans ih
    · have free : waits l (stretch ++ earlier) = [] := unhurried.head r meant
      rw [free, List.append_nil] at ih
      rw [Option.toList_none, List.append_nil, Option.toList_some, ih]
      exact congrArg _ (e.trans (congrArg _ free))
    · rw [Option.toList_none, List.append_nil, List.append_nil]
      exact (congrArg _ e).trans ih

/-- **In the middle of a period, what is crossed alternates.** The induction is on what has
happened since any time in it. -/
theorem isChain_crossings (varied : Always Varying (stretch ++ earlier))
    (goes : ∀ n ∈ stretch, n.entry.switch? = none) :
    (stretch.crossings.map (·.reading)).IsChain fun r r' => r.near ≠ r'.near := by
  induction stretch with
  | nil => exact .nil
  | cons n stretch ih =>
    have goes' : ∀ m ∈ stretch, m.entry.switch? = none := fun m hm =>
      goes m (List.mem_cons_of_mem n hm)
    have ih := ih varied.tail goes'
    rw [crossings_cons]
    cases hc : n.entry.crossing? with
    | none => rwa [Option.toList_none, List.append_nil]
    | some c =>
      have whole : period (stretch ++ earlier) = stretch ++ earlier.period :=
        List.takeWhile_append_of_pos fun m hm => by rw [goes' m hm]; rfl
      have parts : crossings (period (stretch ++ earlier))
          = earlier.period.crossings ++ crossings stretch := by
        rw [whole]
        exact gather_append _ _ _
      have varies : Varying n (stretch ++ earlier) := varied.head
      have other := varies c hc
      rw [parts, List.map_append] at other
      rw [Option.toList_some, List.map_append]
      refine ih.append (.singleton _) fun r last r' e => ?_
      obtain rfl : c.reading = r' := Option.some.inj e
      rw [Reading.lastNear, List.getLast?_append, show List.getLast? _ = some r from last] at other
      exact fun same => other (congrArg some same)

end History

/-! ### Beats -/

/-- **The history knows who waits**, and everybody is told what is due. -/
structure Queued (waiting : List (Listener × Reading)) (h : History) : Prop where
  /-- Those who wait are those who have not been told. -/
  untold : h.untold = waiting
  /-- Whoever was told something was the first to wait. -/
  due : History.Always History.Due h
  /-- Nobody is twice in an audience. -/
  distinct : History.Always History.Distinct h

namespace Queued

variable {waiting : List (Listener × Reading)} {h : History} {n : Note}

theorem noted (q : Queued waiting h) (hc : n.entry.crossing? = none)
    (ht : n.entry.telling? = none) : Queued waiting (n :: h) := by
  refine ⟨?_, q.due.cons ?_, q.distinct.cons ?_⟩
  · obtain ⟨time, entry⟩ := n
    cases entry with
    | told => cases ht
    | turned t =>
      cases t with
      | crossed role =>
        cases role with
        | sole => cases hc
        | _ => exact q.untold
      | _ => exact q.untold
    | _ => exact q.untold
  · rw [History.Due, ht]
    exact nofun
  · rw [History.Distinct, hc]
    exact nofun

/-- Something is crossed, and its audience waits before all others. -/
theorem cross (q : Queued waiting h) (time : Number) (r : Reading) {audience : List Listener}
    (distinct : audience.Nodup) : Queued (audience.map (·, r) ++ waiting)
      (⟨time, .turned (.crossed .sole r audience)⟩ :: h) := by
  refine ⟨congrArg (_ ++ ·) q.untold, q.due.cons nofun, q.distinct.cons fun c hc => ?_⟩
  obtain rfl : ⟨r, audience⟩ = c := Option.some.inj hc
  exact distinct

/-- The first of those who wait is told. -/
theorem tell {l : Listener} {r : Reading} (q : Queued ((l, r) :: waiting) h) (time : Number) :
    Queued waiting (⟨time, .told l r⟩ :: h) := by
  refine ⟨congrArg List.tail q.untold, q.due.cons fun t ht => ?_, q.distinct.cons nofun⟩
  obtain rfl : (l, r) = t := Option.some.inj ht
  exact congrArg List.head? q.untold

end Queued

/-- **Everybody is told what is due**, whatever the listeners do. There is one case for each
beat. -/
theorem lasting_queued (calm : Prop) : Lasting calm fun x => Queued x.waiting x.history where
  relist _ _ q := q
  beat {x x'} beat q := by
    cases beat with
    | remark h => exact q.noted (Entry.unread_of_isRemark h).2.2 (Entry.untold_of_isRemark h)
    | change | relist => exact q
    | pass | start | halt => exact q.noted rfl rfl
    | @cross time sample r l others _ _ _ _ distinct audience =>
      have sampled := q.noted (n := ⟨time, .turned (.sampled .sole sample)⟩) rfl rfl
      have crossed := sampled.cross time r distinct
      exact Queued.tell (by rwa [audience] at crossed ⊢) time
    | @echo time sample r _ _ _ _ audience =>
      have sampled := q.noted (n := ⟨time, .turned (.sampled .sole sample)⟩) rfl rfl
      have crossed := sampled.cross time r (List.nodup_nil (α := Listener))
      rwa [audience]
    | tell time next =>
      rw [next] at q
      exact q.tell time

/-! ### Listeners that come first -/

/-- Wherever a listener is in an audience, it comes first. -/
def History.Foremost (l : Listener) (h : History) : Prop :=
  ∀ c ∈ h.crossings, l ∈ c.audience → c.audience.head? = some l

/-- **A listener that comes first does not wait**, and so it is never overtaken. -/
def Heads (l : Listener) (waiting : List (Listener × Reading)) (h : History) : Prop :=
  h.Foremost l → (∀ t ∈ waiting, t.1 ≠ l) ∧ History.Always (History.Unhurried l) h

namespace Heads

variable {l : Listener} {waiting : List (Listener × Reading)} {h : History} {n : Note}

theorem noted (m : Heads l waiting h) (hc : n.entry.crossing? = none) :
    Heads l waiting (n :: h) := by
  intro foremost
  rw [History.Foremost, History.crossings_cons, hc, Option.toList_none, List.append_nil] at foremost
  obtain ⟨free, unhurried⟩ := m foremost
  refine ⟨free, unhurried.cons ?_⟩
  rw [History.Unhurried, Entry.meant?, hc]
  exact nofun

/-- Something is crossed. If it is meant for a listener that comes first, that one is told at
once, and only the others wait. -/
theorem cross (m : Heads l waiting h) (q : Queued waiting h) (time : Number) (r : Reading)
    {audience : List Listener} (distinct : audience.Nodup) :
    Heads l (audience.tail.map (·, r) ++ waiting)
      (⟨time, .turned (.crossed .sole r audience)⟩ :: h) := by
  intro foremost
  rw [History.Foremost, History.crossings_cons] at foremost
  obtain ⟨free, unhurried⟩ := m fun c hc => foremost c (List.mem_append_left _ hc)
  have first : l ∈ audience → audience.head? = some l :=
    foremost ⟨r, audience⟩ (List.mem_append_right _ (List.mem_singleton.mpr rfl))
  refine ⟨fun t ht => ?_, unhurried.cons fun _ _ => ?_⟩
  · rcases List.mem_append.mp ht with new | old
    · obtain ⟨other, mem, rfl⟩ := List.mem_map.mp new
      rintro rfl
      obtain ⟨others, rfl⟩ := List.head?_eq_some_iff.mp (first (List.mem_of_mem_tail mem))
      exact (List.nodup_cons.mp distinct).1 mem
    · exact free t old
  · rw [History.waits, q.untold]
    exact List.filterMap_eq_nil_iff.mpr fun t ht => if_neg (free t ht)

end Heads

theorem lasting_heads (calm : Prop) (l : Listener) :
    Lasting calm fun x => Queued x.waiting x.history ∧ Heads l x.waiting x.history where
  relist _ _ p := p
  beat {x x'} beat p := by
    refine ⟨(lasting_queued calm).beat beat p.1, ?_⟩
    obtain ⟨q, m⟩ := p
    cases beat with
    | remark h => exact m.noted (Entry.unread_of_isRemark h).2.2
    | change | relist => exact m
    | pass | start | halt => exact m.noted rfl
    | @cross time sample r first others _ _ _ _ distinct audience =>
      have sampled := q.noted (n := ⟨time, .turned (.sampled .sole sample)⟩) rfl rfl
      have crossed := (m.noted rfl).cross sampled time r distinct
      rw [audience] at crossed ⊢
      exact crossed.noted rfl
    | @echo time sample r _ _ _ _ audience =>
      have sampled := q.noted (n := ⟨time, .turned (.sampled .sole sample)⟩) rfl rfl
      have crossed := (m.noted rfl).cross sampled time r (List.nodup_nil (α := Listener))
      rwa [audience]
    | @tell time l' r waiting next =>
      intro foremost
      obtain ⟨free, unhurried⟩ := m.noted (n := ⟨time, .told l' r⟩) rfl foremost
      rw [next] at free
      exact ⟨fun t ht => free t (List.mem_cons_of_mem _ ht), unhurried⟩

/-! ### Sessions -/

/-- **A listener is told of the crossings in order**, and its last word is what the sensor
remembers. -/
structure Abreast (l : Listener) (h : Hysteresis) (J : History) : Prop where
  /-- It was told what was meant for it, in the order of the samples. -/
  order : J.toldTo l = J.meantFor l
  /-- In the middle of a period, and as long as it listens, what it is told alternates, if it did
  not wait at the beginning. -/
  alternates : ∀ later stretch earlier : History, J = later ++ (stretch ++ earlier) →
    (∀ n ∈ stretch, n.entry.switch? = none) → (∀ c ∈ stretch.crossings, l ∈ c.audience) →
    earlier.waits l = [] → (stretch.toldTo l).IsChain fun r r' => r.near ≠ r'.near
  /-- If it listened when the sensor was given what it remembers, that is what it was told
  last. -/
  current : ∀ near, h.last = some near → ∃ c, J.crossings.getLast? = some c
    ∧ c.reading.near = near ∧ (l ∈ c.audience → (J.toldTo l).getLast? = some c.reading)

namespace History

variable {l : Listener} {J : History}

theorem meantFor_eq (l : Listener) (J : History) : meantFor l J
    = J.crossings.filterMap fun c => if l ∈ c.audience then some c.reading else none :=
  (List.filterMap_filterMap).symm

/-- All crossings are meant for a listener that always listens. -/
theorem meantFor_of_listens (listens : ∀ c ∈ J.crossings, l ∈ c.audience) :
    meantFor l J = J.crossings.map (·.reading) := by
  rw [meantFor_eq, ← List.filterMap_eq_map]
  exact List.filterMap_congr fun c hc => if_pos (listens c hc)

/-- The last crossing is the last that is meant for those who listen. -/
theorem getLast?_meantFor {c : Crossing} (h : J.crossings.getLast? = some c)
    (listens : l ∈ c.audience) : (meantFor l J).getLast? = some c.reading := by
  obtain ⟨others, e⟩ := List.getLast?_eq_some_iff.mp h
  rw [meantFor_eq, e, List.filterMap_append, List.getLast?_append]
  simp [listens]

/-- A period is the end of a history. -/
theorem getLast?_crossings {c : Crossing} (h : J.period.crossings.getLast? = some c) :
    J.crossings.getLast? = some c := by
  have parts : J.crossings
      = crossings (J.dropWhile (·.entry.switch?.isNone)) ++ J.period.crossings :=
    (congrArg crossings List.takeWhile_append_dropWhile.symm).trans (gather_append _ _ _)
  rw [parts, List.getLast?_append, h]
  rfl

end History

/-- **A listener that is never overtaken keeps abreast.** -/
theorem abreast {x : Scene} {band : Band} {l : Listener} (minded : Minded band x)
    (queued : Queued [] x.history) (unhurried : History.Always (History.Unhurried l) x.history) :
    Abreast l x.sensor x.history := by
  have none : x.history.waits l = [] := by rw [History.waits, queued.untold]; rfl
  have order : x.history.toldTo l = x.history.meantFor l := by
    have all : x.history.toldTo l ++ History.waits l (x.history ++ []) = _ :=
      History.toldTo_append_waits (by simpa using queued.due) (by simpa using queued.distinct)
        (by simpa using unhurried) rfl
    rwa [List.append_nil, none, List.append_nil] at all
  refine ⟨order, ?_, fun near last => ?_⟩
  · intro later stretch earlier e goes listens free
    have suffix : stretch ++ earlier <:+ x.history := ⟨later, e.symm⟩
    have told := History.toldTo_append_waits (queued.due.of_suffix suffix)
      (queued.distinct.of_suffix suffix) (unhurried.of_suffix suffix) free
    have chain := History.isChain_crossings (minded.varied.of_suffix suffix) goes
    rw [← History.meantFor_of_listens listens, ← told] at chain
    exact chain.left_of_append
  · have crossed : Reading.lastNear (x.history.period.crossings.map (·.reading)) = some near := by
      rw [minded.exact, Reading.lastNear_changes, ← minded.last, last]
    rw [Reading.lastNear, List.getLast?_map, Option.map_map] at crossed
    obtain ⟨c, hc, same⟩ := Option.map_eq_some_iff.mp crossed
    have latest := History.getLast?_crossings hc
    exact ⟨c, latest, same, fun listens => order ▸ History.getLast?_meantFor latest listens⟩

variable {b : Bench} {s : Scenario} {source : Option (Option String × List (List Sample))}
  {threshold : Number} {latch delay : Option Number} {confined : Bool}

/-- **In which order listeners are told.** A hysteresis sensor is used from its owner's thread, at
finite times, by steps and by listeners that only call it and deliver it samples. Then every step
succeeds, and after any number of steps

* the crossings of each period are the changes among its samples;
* each listener was told each crossing that was meant for it, once, the first to wait first;
* a listener that was never overtaken was told them in order, and kept abreast of the sensor;
* no listener was overtaken that came first wherever it listened. -/
theorem told_in_order
    (target : s.target = .sensor (.hysteresis source threshold latch delay confined))
    (home : s.confines = true → s.thread.same (s.owner.getD s.thread) = true)
    (scripts : ∀ entry ∈ s.scripts, ∀ script ∈ entry.2, ∀ step ∈ script,
      step.isSensorCall = true)
    (ready : s.setUp = .ok b) {steps : List Step}
    (outings : ∀ step ∈ steps, step.isOuting = true) (timely : Timely steps b) :
    (∀ before step after, steps = before ++ step :: after →
        (Session.take step (Session.run before b)).answer.isOk = true)
      ∧ ∃ band h, Band.make threshold (latch.getD threshold) = .ok band
        ∧ (Session.run steps b).sensors.sole = .hysteresis h
        ∧ History.Exact band (Session.run steps b).journal
        ∧ History.Always (History.Closing band) (Session.run steps b).journal
        ∧ History.Always History.Due (Session.run steps b).journal
        ∧ ∀ l, (History.toldTo l (Session.run steps b).journal).Perm
            (History.meantFor l (Session.run steps b).journal)
          ∧ (History.Always (History.Unhurried l) (Session.run steps b).journal →
            Abreast l h (Session.run steps b).journal)
          ∧ (History.Foremost l (Session.run steps b).journal →
            History.Always (History.Unhurried l) (Session.run steps b).journal) := by
  obtain ⟨source', band, made, x, path, settled, sits⟩ := s.led_setUp False target home
    scripts (fun _ _ _ _ _ _ => id) ready
  have L := (lasting_minded False band).and (lasting_queued False)
  have opening : Minded band (.opening source' band delay confined) ∧ Queued [] [] :=
    ⟨minded_opening _ _ _ _, rfl, .nil, .nil⟩
  constructor
  · rintro before step after rfl
    obtain ⟨x₁, sits₁, settled₁, -⟩ := sits.run L settled (L.beats path opening)
      (fun step' mem => outings step' (List.mem_append_left _ mem))
      (timely.of_prefix (List.prefix_append _ _))
    exact (sits₁.take settled₁ (outings step (by simp)) (timely.of_append [step] ⟨after, rfl⟩)).1
  · obtain ⟨x', sits', settled', minded, queued⟩ :=
      sits.run L settled (L.beats path opening) outings timely
    rw [settled'] at queued
    refine ⟨band, x'.sensor, made, by rw [sits'.alone.sensors], ?_⟩
    rw [sits'.journal]
    refine ⟨minded.exact, minded.closed, queued.due, fun l => ⟨?_, abreast minded queued, ?_⟩⟩
    · have told := History.toldTo_append_waits_perm queued.due queued.distinct l
      rwa [History.waits, queued.untold, List.filterMap_nil, List.append_nil] at told
    · intro foremost
      have H := lasting_heads False l
      obtain ⟨x'', sits'', -, -, heads⟩ := sits.run H settled
        (H.beats path ⟨opening.2, fun _ => ⟨nofun, .nil⟩⟩) outings timely
      have same : x''.history = x'.history := sits''.journal.symm.trans sits'.journal
      rw [same] at heads
      exact (heads foremost).2

/-- A scenario with a sensor whose source takes a far sample from inside the second call that
subscribes to it, and a listener that gives the sensor another delay when it is told. -/
def overtakenScenario : Scenario :=
  { env := .ofList [], telemetry := Scenario.plainTelemetry, startsTracker := false
    confines := true, owner := none, thread := 0
    target := .sensor
      (.hysteresis (some (none, [[], [⟨9, .exact 2⟩]])) 5 (some 8) none true)
    probe := none, scripts := [("a", [[.delay 7]])] }

/-- Two listeners join, and then there is a near sample. -/
def overtakenSteps : List Step :=
  [.join "a", .join "b", .sample .sole ⟨1, .exact 1⟩ false]

/-- The first one of them is never overtaken, although it is what overtakes the second. -/
theorem told_in_order_session :
    ((∀ before step after, overtakenSteps = before ++ step :: after →
        (Session.take step (Session.run before (overtakenScenario.after []))).answer.isOk = true)
      ∧ ∃ band h, Band.make 5 8 = .ok band
        ∧ (overtakenScenario.after overtakenSteps).sensors.sole = .hysteresis h
        ∧ History.Exact band (overtakenScenario.after overtakenSteps).journal
        ∧ History.Always (History.Closing band) (overtakenScenario.after overtakenSteps).journal
        ∧ History.Always History.Due (overtakenScenario.after overtakenSteps).journal
        ∧ ∀ l, (History.toldTo l (overtakenScenario.after overtakenSteps).journal).Perm
            (History.meantFor l (overtakenScenario.after overtakenSteps).journal)
          ∧ (History.Always (History.Unhurried l)
              (overtakenScenario.after overtakenSteps).journal →
            Abreast l h (overtakenScenario.after overtakenSteps).journal)
          ∧ (History.Foremost l (overtakenScenario.after overtakenSteps).journal →
            History.Always (History.Unhurried l)
              (overtakenScenario.after overtakenSteps).journal))
      ∧ History.Foremost (.named "a") (overtakenScenario.after overtakenSteps).journal :=
  ⟨told_in_order
    (show overtakenScenario.target = .sensor (.hysteresis _ _ (some 8) _ _) from rfl)
    (by decide) (by decide)
    (Scenario.setUp_eq_after (by decide +kernel)) (by decide) (by decide +kernel),
    by rw [History.Foremost]; decide +kernel⟩

/-- **A listener that is overtaken is told the later crossing first.** The last word that it hears
is not what the sensor remembers. -/
theorem overtaken_listener :
    (overtakenScenario.after overtakenSteps).sensors.sole.asHysteresis.last = some false
      ∧ History.meantFor (.named "b") (overtakenScenario.after overtakenSteps).journal
        = [⟨true, 1⟩, ⟨false, 2⟩]
      ∧ History.toldTo (.named "b") (overtakenScenario.after overtakenSteps).journal
        = [⟨false, 2⟩, ⟨true, 1⟩] :=
  ⟨by decide +kernel, by decide +kernel, by decide +kernel⟩

end Proximity
