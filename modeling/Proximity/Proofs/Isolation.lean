import Mathlib.Data.List.Forall2
import Proximity.Proofs.Broadcast
import Proximity.Proofs.Tact

/-!
# Listeners cannot spoil a broadcast

When a fusion tells its listeners something, each of them may do what it likes, and may fail. The
broadcast goes through nonetheless (`Proximity.broadcast_isolated`):

* those are told who listened at its start, each once and in the order in which they joined,
  whoever joins or leaves meanwhile;
* all are told the same reading, whatever is fused or forgotten meanwhile;
* whoever fails has that logged and reported at once, and the next listener is told
  (`Proximity.Spread`); no other error is logged meanwhile;
* nobody is told anything else, although listeners may ask for further broadcasts;
* the broadcast does not fail, and then the next one may come.

It makes no difference when the broadcast begins: between two steps (`Proximity.Reached.poised`)
or in the middle of one, in a call at any depth (`Proximity.Poised.react`).
-/

namespace Proximity

open Act Session

/-! ### What is noted of a broadcast -/

/-- Who is told what, by an entry, if it is not a sensor's report to the fusion. -/
def Entry.notice? : Entry → Option (Listener × Reading)
  | .told (.fusion _) _ => none
  | .told l r => some (l, r)
  | _ => none

/-- A record of an error, if an entry is one. -/
def Entry.error? (entry : Entry) : Option Entry := if entry.isCivil then none else some entry

/-- The record of a listener that fails, under the tag of the fusion. -/
def complaint (tag : Option String) (fault : Fault) : Entry :=
  .logged .error "proximity-fusion" (Fusion.tagged tag "Proximity listener threw")
    [("error", .text fault.message)]

namespace History

/-- Who is told what by the fusion, in the order in which it happens. -/
def notices (h : History) : List (Listener × Reading) := h.gather (·.entry.notice?)

/-- The records of errors, in their order. -/
def errors (h : History) : List Entry := h.gather (·.entry.error?)

variable {h h' : History}

theorem notices_cons (n : Note) (h : History) :
    notices (n :: h) = notices h ++ n.entry.notice?.toList := gather_cons _ n h

theorem errors_cons (n : Note) (h : History) :
    errors (n :: h) = errors h ++ n.entry.error?.toList := gather_cons _ n h

/-- What is told to anybody but a sensor is in the history. -/
theorem notices_filter (h : History) :
    notices (h.filter (·.entry.isHistoric)) = notices h := by
  induction h with
  | nil => rfl
  | cons n h ih =>
    rw [notices_cons]
    rw [List.filter_cons]
    split
    · rw [notices_cons, ih]
    · rename_i forgotten
      have silent : n.entry.notice? = none := by
        obtain ⟨time, entry⟩ := n
        cases entry with
        | told l r =>
          cases l with
          | fusion => rfl
          | named | probe => exact absurd rfl forgotten
        | _ => rfl
      rw [ih, silent]
      exact (List.append_nil _).symm

/-- Where nothing but civil entries are added, no errors are. -/
theorem Since.errors (hh : Since Entry.isCivil h h') : ∃ new, h' = new ++ h ∧ new.errors = [] := by
  obtain ⟨new, rfl, civil⟩ := hh
  refine ⟨new, rfl, List.filterMap_eq_nil_iff.mpr fun n hn => ?_⟩
  exact if_pos (civil n (List.mem_reverse.mp hn))

end History

/-- **Whoever is told in a round is told once, and nobody else is told anything.** -/
theorem Round.notices {r : Reading} {listeners : List Listener} {s : History}
    (hs : Round r listeners s) (outer : ∀ l ∈ listeners, ∀ role, l ≠ .fusion role) :
    s.notices = listeners.map (·, r) := by
  induction hs with
  | start => rfl
  | @tell listeners s time l _ ih =>
    have told : Entry.notice? (.told l r) = some (l, r) := by
      cases l with
      | fusion role => exact absurd rfl (outer _ (by simp) role)
      | named | probe => rfl
    rw [History.notices_cons, ih fun l' hl' => outer l' (List.mem_append_left _ hl'), told,
      List.map_append]
    rfl
  | @mute listeners s n _ mute ih =>
    have silent : n.entry.notice? = none := by
      obtain ⟨time, entry⟩ := n
      cases entry with
      | told => cases mute
      | _ => rfl
    rw [History.notices_cons, ih outer, silent]
    exact List.append_nil _

/-! ### One listener after the other -/

/-- A bench on which a broadcast has begun. -/
def Bench.hailed (b : Bench) (r : Reading) (fresh : Bool) : Bench :=
  noted { b with fusion := { b.fusion with telling := true } } (.turned (.broadcast r fresh))

/-- A bench on which a broadcast is over. -/
def Bench.hushed (b : Bench) : Bench :=
  let noted := noted b (.turned .hushed)
  { noted with fusion := { noted.fusion with telling := false } }

/-- **A bench on which somebody's failure has been noted**: it has been logged, if errors are, and
reported, if there is a tracker. -/
def Bench.lamented (b : Bench) (fault : Fault) : Bench :=
  let logged :=
    if Severity.error.reaches b.threshold then noted b (complaint b.fusion.tag fault) else b
  if b.tracking then
    noted logged (.tracked (.capture fault.message (.record [("tag", Tree.text? b.fusion.tag)])))
  else logged

/-- A bench on which somebody who was called has come back, or failed. -/
def Bench.minding (b : Bench) : Except Fault Unit → Bench
  | .ok () => b
  | .error fault => b.lamented fault

/-- **Listeners are told a reading, one after the other**, while a broadcast is on, each with what
comes of it. If one of them fails, that is noted before the next one is told. -/
inductive Spread (call : Reactor) (r : Reading) :
    List (Listener × Except Fault Unit) → Bench → Bench → Prop where
  /-- Nobody is left. -/
  | done (b : Bench) : Spread call r [] b b
  /-- One more is told. -/
  | called {l : Listener} {outcome : Except Fault Unit}
      {others : List (Listener × Except Fault Unit)} {b b₁ b₂ : Bench} :
      b.fusion.telling = true →
      exec (call (.listener l r)) (noted b (.told l r)) = (outcome, b₁) →
      Spread call r others (b₁.minding outcome) b₂ → Spread call r ((l, outcome) :: others) b b₂

/-- How somebody failed, if so. -/
def fault? : Except Fault Unit → Option Fault
  | .ok () => none
  | .error fault => some fault

/-- How those failed who did, in their order. -/
def faults (outcomes : List (Listener × Except Fault Unit)) : List Fault :=
  outcomes.filterMap (fault? ·.2)

/-- **There is one record for each fault**, in their order, if errors are logged at all. -/
def Recorded (threshold : Severity) (errors : List Entry) (faults : List Fault) : Prop :=
  List.Forall₂ (fun entry fault => ∃ tag, entry = complaint tag fault) errors
    (if Severity.error.reaches threshold then faults else [])

variable {b b' : Bench} {r : Reading} {fresh : Bool} {call : Reactor} {depth : Nat}
variable {outcomes : List (Listener × Except Fault Unit)}

theorem exec_complain (fault : Fault) (b : Bench) :
    exec (Fusion.complain fault) b = (.ok (), b.lamented fault) := by
  rw [Fusion.complain, exec_bind_of_ok (exec_getFusion b), exec_bind_of_ok (exec_log ..),
    exec_report, Bench.lamented]
  split <;> rfl

/-- **A listener that fails does not make its broadcast fail.** -/
theorem exec_tellGuarded_of_exec {l : Listener} {outcome : Except Fault Unit} {b₁ : Bench}
    (e : exec (call (.listener l r)) (noted b (.told l r)) = (outcome, b₁)) :
    exec (Fusion.tellGuarded call r l) b = (.ok (), b₁.minding outcome) := by
  have told : exec (Bench.tell call l r) b = (outcome, b₁) :=
    (exec_bind_of_ok (exec_note _ b)).trans e
  rw [Fusion.tellGuarded, exec_tryCatch, told]
  rcases outcome with fault | ⟨⟩
  · exact exec_complain fault b₁
  · rfl

theorem Bench.fusion_minding (b : Bench) (outcome : Except Fault Unit) :
    (b.minding outcome).fusion = b.fusion := by
  rcases outcome with fault | ⟨⟩
  · show (b.lamented fault).fusion = b.fusion
    rw [Bench.lamented]
    split <;> split <;> rfl
  · rfl

/-- **All listeners are told**, whatever comes of it. The induction is on those who are still to
be told. -/
theorem exists_spread (C : call.Observes Tact) (listeners : List Listener)
    (on : b.fusion.telling = true) : ∃ outcomes b', Spread call r outcomes b b'
      ∧ outcomes.map Prod.fst = listeners
      ∧ exec (listeners.forM fun l => Fusion.tellGuarded call r l) b = (.ok (), b') := by
  induction listeners generalizing b with
  | nil => exact ⟨[], b, .done b, rfl, rfl⟩
  | cons l listeners ih =>
    rcases e : exec (call (.listener l r)) (noted b (.told l r)) with ⟨outcome, b₁⟩
    have left : after (call (.listener l r)) (noted b (.told l r)) = b₁ := congrArg Prod.snd e
    have civil := left ▸ C (.listener l r) (noted b (.told l r)) ⟨_, _, rfl⟩ on
    have still : (b₁.minding outcome).fusion.telling = true := by
      rw [Bench.fusion_minding]
      exact civil.telling
    obtain ⟨outcomes, b', spread, told, rest⟩ := ih still
    refine ⟨(l, outcome) :: outcomes, b', .called on e spread, congrArg (l :: ·) told, ?_⟩
    rw [forM_cons, exec_bind_of_ok (exec_tellGuarded_of_exec e)]
    exact rest

theorem Recorded.append {threshold : Severity} {errors errors' : List Entry}
    {faults faults' : List Fault}
    (h : Recorded threshold errors faults) (h' : Recorded threshold errors' faults') :
    Recorded threshold (errors ++ errors') (faults ++ faults') := by
  rw [Recorded] at h h' ⊢
  split
  · rename_i shows
    rw [if_pos shows] at h h'
    exact List.rel_append h h'
  · rename_i hides
    rw [if_neg hides] at h h'
    cases h
    cases h'
    exact .nil

theorem Recorded.none (threshold : Severity) : Recorded threshold [] [] := by
  rw [Recorded, ite_self]
  exact .nil

/-- What is noted of somebody who has been called is the record of the failure, if there was
one. -/
theorem Bench.recorded_minding (b : Bench) (outcome : Except Fault Unit) :
    (b.minding outcome).threshold = b.threshold
      ∧ ∃ new, (b.minding outcome).journal = new ++ b.journal
      ∧ Recorded b.threshold (History.errors new) (fault? outcome).toList := by
  rcases outcome with fault | ⟨⟩
  · have one : List.Forall₂ (fun entry fault => ∃ tag, entry = complaint tag fault)
        [complaint b.fusion.tag fault] [fault] := .cons ⟨_, rfl⟩ .nil
    show (b.lamented fault).threshold = _ ∧ ∃ new, (b.lamented fault).journal = _ ∧ _
    rw [Bench.lamented]
    simp only [Recorded]
    split <;> split
    · exact ⟨rfl, [_, _], rfl, one⟩
    · exact ⟨rfl, [_], rfl, .nil⟩
    · exact ⟨rfl, [_], rfl, one⟩
    · exact ⟨rfl, [], rfl, .nil⟩
  · exact ⟨rfl, [], rfl, .none _⟩

/-- **The errors that are logged are about those who fail**, each about one, in their order. The
induction is on the listeners. -/
theorem Spread.recorded (C : call.Observes Tact) (h : Spread call r outcomes b b')
    (on : b.fusion.telling = true) : b'.fusion.telling = true ∧ b'.threshold = b.threshold
      ∧ ∃ new, b'.journal = new ++ b.journal
        ∧ Recorded b.threshold (History.errors new) (faults outcomes) := by
  induction h with
  | done b => exact ⟨on, rfl, [], rfl, .none _⟩
  | @called l outcome others b b₁ b₂ _ e _ ih =>
    have left : after (call (.listener l r)) (noted b (.told l r)) = b₁ := congrArg Prod.snd e
    have civil : Civil b b₁ :=
      (Civil.noted on rfl).trans (left ▸ C (.listener l r) (noted b (.told l r)) ⟨_, _, rfl⟩ on)
    obtain ⟨own, grown, silent⟩ := civil.journal.errors
    obtain ⟨threshold, about, minded, recorded⟩ := b₁.recorded_minding outcome
    have still : (b₁.minding outcome).fusion.telling = true := by
      rw [Bench.fusion_minding]
      exact civil.telling
    obtain ⟨telling, same, rest, journal, later⟩ := ih still
    refine ⟨telling, same.trans (threshold.trans civil.threshold), rest ++ (about ++ own), ?_, ?_⟩
    · rw [journal, minded, grown, List.append_assoc, List.append_assoc]
    · rw [threshold, civil.threshold] at later
      rw [civil.threshold] at recorded
      have all := recorded.append later
      have errors : History.errors (rest ++ (about ++ own))
          = History.errors about ++ History.errors rest := by
        refine (History.gather_append _ rest (about ++ own)).trans (congrArg (· ++ _) ?_)
        refine (History.gather_append _ about own).trans ?_
        rw [show History.gather _ own = [] from silent]
        rfl
      have failed : faults ((l, outcome) :: others) = (fault? outcome).toList ++ faults others := by
        rw [faults, List.filterMap_cons]
        cases fault? outcome <;> rfl
      rw [errors, failed]
      exact all

/-! ### Broadcasts -/

/-- **A bench on which a call may be made**: between two steps, or in the middle of one. -/
structure Poised (b : Bench) : Prop where
  /-- The bench is wired as it was set up. -/
  wired : Wired b
  /-- Listeners have come in one by one. -/
  attended : Attended b.view

/-- Calls may be made wherever a session comes to. -/
theorem Reached.poised (h : Reached b) : Poised b := by
  obtain ⟨w, v, pristine, seemly⟩ := law_seemly.holds h
  exact ⟨w, (seemly pristine.attended).attended⟩

/-- **Whatever is called, calls may be made afterwards**, whether it fails or not. -/
theorem Poised.react (p : Poised b) (depth : Nat) (c : Callback) :
    Poised (after (react depth c) b) :=
  have led := law_seemly.reacts depth c b p.wired
  ⟨led.wired, (led.related p.attended).attended⟩

/-- **How a broadcast goes**: one listener is told after the other. -/
theorem exists_spread_broadcast (depth : Nat) (home : OnThread b) (idle : b.fusion.telling = false)
    (fused : b.fusion.lastFused = some r) (fresh : Bool) :
    ∃ outcomes b₁, Spread (react depth) r outcomes (b.hailed r fresh) b₁
      ∧ outcomes.map Prod.fst = b.fusion.listeners
      ∧ exec (Fusion.broadcast (react depth) fresh) b = (.ok (), b₁.hushed) := by
  obtain ⟨outcomes, b₁, spread, told, e⟩ :=
    exists_spread (b := b.hailed r fresh) (r := r) (Observed.react depth) b.fusion.listeners rfl
  refine ⟨outcomes, b₁, spread, told, ?_⟩
  rw [Fusion.broadcast, exec_bind_of_ok (exec_assertOwner home), exec_bind_of_ok (exec_getFusion b),
    idle, fused]
  have announced : exec (Fusion.announce (react depth) r fresh b.fusion.listeners)
      { b with fusion := { b.fusion with telling := true } }
        = (.ok (), noted b₁ (.turned .hushed)) :=
    (exec_bind_of_ok (exec_note _ _)).trans ((exec_bind_of_ok e).trans (exec_note _ _))
  exact (exec_bind_of_ok (exec_modifyFusion _ b)).trans (exec_bind_of_ok announced)

/-- **Listeners cannot spoil a broadcast.** A fusion is on the owner's thread, with a fused
reading, and no broadcast is on; it begins one, at any depth of calls. Then the broadcast does not
fail, whatever the listeners do, and in it

* all who listen at its start are told the reading, one after the other, each once;
* nobody is told anything else, whatever is called meanwhile;
* one error is logged for each listener that fails, and no other.

Afterwards no broadcast is on, and calls may be made. -/
theorem broadcast_isolated (p : Poised b) (home : OnThread b) (idle : b.fusion.telling = false)
    (fused : b.fusion.lastFused = some r) (depth : Nat) (fresh : Bool) :
    ∃ outcomes b₁ b' new, exec (Fusion.broadcast (react depth) fresh) b = (.ok (), b')
      ∧ outcomes.map Prod.fst = b.fusion.listeners ∧ b.fusion.listeners.Nodup
      ∧ Spread (react depth) r outcomes (b.hailed r fresh) b₁ ∧ b' = b₁.hushed
      ∧ b'.journal = new ++ b.journal
      ∧ History.notices new = b.fusion.listeners.map (·, r)
      ∧ Recorded b.threshold (History.errors new) (faults outcomes)
      ∧ b'.fusion.telling = false ∧ Poised b' := by
  obtain ⟨outcomes, b₁, spread, told, e⟩ := exists_spread_broadcast depth home idle fused fresh
  obtain ⟨-, -, during, grown, recorded⟩ := spread.recorded (Observed.react depth) rfl
  obtain ⟨wired, -, attended, airing⟩ := (leads_broadcast (u := b.view)
    (law_seemly.reacts depth) p.wired home fresh p.attended).at_end e
  have faithful := p.attended.faithful
  have quiet : b.history.telling = false := faithful.telling.symm.trans idle
  have known : b.history.fused = some r := faithful.fused.symm.trans fused
  have audience : b.history.audience = b.fusion.listeners := faithful.listeners.symm
  -- Of the two reasons for telling nobody, there is neither.
  obtain ⟨r', aired⟩ : ∃ r', Aired r' fresh b.history b₁.hushed.history := by
    cases airing with
    | busy on => exact absurd (quiet.symm.trans on) Bool.false_ne_true
    | silent unknown => cases known.symm.trans unknown
    | told _ aired => exact ⟨_, aired⟩
  obtain rfl : r = r' := Option.some.inj (known.symm.trans aired.fused)
  obtain ⟨start, stop, s, round, history⟩ := aired.round
  let new : History := ⟨b₁.clock.now, .turned .hushed⟩ ::
    (during ++ [⟨b.clock.now, .turned (.broadcast r fresh)⟩])
  have journal : b₁.hushed.journal = new ++ b.journal := by
    show _ :: b₁.journal = _
    rw [grown]
    exact congrArg (_ :: ·) (List.append_cons ..)
  refine ⟨outcomes, b₁, _, new, e, told, p.attended.distinct, spread, rfl, journal, ?_, ?_, rfl,
    wired, attended⟩
  · have same : new.filter (·.entry.isHistoric)
        = ⟨stop, .turned .hushed⟩ :: (s ++ [⟨start, .turned (.broadcast r fresh)⟩]) := by
      rw [Bench.history, journal, List.filter_append] at history
      refine List.append_cancel_right (history.trans ?_)
      rw [List.cons_append, List.append_assoc]
      rfl
    have outer : ∀ l ∈ b.history.audience, ∀ role, l ≠ .fusion role :=
      audience ▸ fun l hl => p.attended.outer hl
    rw [← History.notices_filter, same, History.notices_cons, ← audience, ← round.notices outer]
    exact (List.append_nil _).trans (History.gather_append _ s _)
  · have errors : History.errors new = History.errors during := by
      refine (History.errors_cons _ _).trans ((List.append_nil _).trans ?_)
      exact History.gather_append _ during _
    rw [errors]
    exact recorded

/-- A fusion with a near reading and three listeners. When they are told it again, the first one
asks for a broadcast, drops the second and fails; the second one takes in a fourth and has the
primary report that all is far; and the third one fails with a value. -/
def unrulyBench : Bench :=
  (Scenario.ofSensors (.standIn true [] []) .absent
    [("a", [[], [.alert, .leave "b", .throwError "no"]]),
      ("b", [[], [.join "d", .event .primary false none, .alert]]),
      ("c", [[], [.throwValue "never"]])]).after
    [.join "a", .join "b", .join "c", .event .primary true none]

theorem broadcast_isolated_session :
    (Session.take .alert unrulyBench).bench.fusion.listeners = [.named "a", .named "c", .named "d"]
      ∧ (Session.take .alert unrulyBench).bench.fusion.lastFused = some ⟨false, 2⟩
      ∧ ∃ outcomes b₁ b' new,
        exec (Fusion.broadcast (react (Session.depth unrulyBench .alert)) false) unrulyBench
          = (.ok (), b')
        ∧ outcomes.map Prod.fst = unrulyBench.fusion.listeners ∧ unrulyBench.fusion.listeners.Nodup
        ∧ Spread (react (Session.depth unrulyBench .alert)) ⟨true, 1⟩ outcomes
          (unrulyBench.hailed ⟨true, 1⟩ false) b₁ ∧ b' = b₁.hushed
        ∧ b'.journal = new ++ unrulyBench.journal
        ∧ History.notices new = unrulyBench.fusion.listeners.map (·, ⟨true, 1⟩)
        ∧ Recorded unrulyBench.threshold (History.errors new) (faults outcomes)
        ∧ b'.fusion.telling = false ∧ Poised b' := by
  have reached : Reached unrulyBench := Scenario.reached_after rfl (by decide +kernel) _
  exact ⟨by decide +kernel, by decide +kernel, broadcast_isolated reached.poised (by decide +kernel)
    (by decide +kernel) (by decide +kernel) _ false⟩

end Proximity
