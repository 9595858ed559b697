import Proximity.Proofs.Dealing
import Proximity.Proofs.Records

/-!
# Every question is answered once

Whoever asks a probe is given one answer, or still waits. Those who wait together are
given the same answer, in the order of asking, and they wait no longer than the first of
them said, from the time of asking: there is one timer for them, which was set when the
check was opened, and none when nobody waits.

The main statement is `Proximity.answered_once`, about all calm histories – those in
which no callback fails and no other thread calls. It comes from a property of views
(`Proximity.Probing`) that holds whenever a call goes out or comes back, and from a
relation between views: whatever is called leaves the answers that are due as they were
(`Proximity.Answering`). The one thing that is not complete in itself is a round of
answers, whose callbacks may open and close further checks
(`Proximity.leads_answers_in_turn`).

A view tells which answers were given, and that is the probe's own account. That callbacks are
called with them and promises settled is in `Proximity.Proofs.Handing`, and how a round of answers
goes on a bench in `Proximity.Proofs.Dealing`; the main statement is about what is seen
(`Proximity.History.callbacks`, `Proximity.History.settlements`).
-/

namespace Proximity

open Act Session History

/-! ### The books -/

/-- **The books of a probe**: how many questions there were, and who waits. -/
structure Booked (h : History) (last : Nat) (waiting : List Nat) : Prop where
  /-- Tickets are given out one by one. -/
  tickets : h.asked = List.range' 1 last
  /-- Whoever asked was answered or waits, in the order of asking. -/
  asked : h.asked = h.resolved ++ waiting
  /-- Answers are given in the order in which they are due. -/
  prompt : h.Always History.Prompt

namespace Booked

variable {h h' : History} {last : Nat} {waiting : List Nat} {time : Number}
variable {near : Option Bool} {ticket : Nat} {rest : List (Nat × Option Bool)}

theorem since (b : Booked h last waiting) (hh : h.Since Entry.isSpare h') :
    Booked h' last waiting := by
  obtain ⟨asked, batches, -⟩ := hh.books
  have resolved : h'.resolved = h.resolved := by rw [History.resolved, batches, History.resolved]
  refine ⟨asked.trans b.tickets, ?_, b.prompt.since hh fun n _ hn ticket near e => ?_⟩
  · rw [asked, resolved, b.asked]
  · rw [e] at hn
    cases hn

/-- A question goes into the books. -/
theorem ask (b : Booked h last waiting) (time timeout : Number) :
    Booked (⟨time, .turned (.asked (last + 1) timeout)⟩ :: h) (last + 1) (waiting ++ [last + 1]) where
  tickets := by
    rw [History.asked, b.tickets, List.range'_concat, Nat.one_mul, Nat.add_comm 1 last]
  asked := (congrArg (· ++ [last + 1]) b.asked).trans (List.append_assoc ..)
  prompt := .cons (fun _ _ e => by cases e) b.prompt

/-- All who wait are to be answered. -/
theorem resolve (b : Booked h last waiting) :
    Booked (⟨time, .turned (.resolved waiting near)⟩ :: h) last [] where
  tickets := b.tickets
  asked := by
    rw [resolved_cons_resolved, List.append_nil]
    exact b.asked
  prompt := .cons (fun _ _ e => by cases e) b.prompt

/-- Whoever is due the next answer is given it. -/
theorem reply (b : Booked h last waiting) (due : h.owed = (ticket, near) :: rest) :
    Booked (⟨time, .turned (.replied ticket near)⟩ :: h) last waiting where
  tickets := b.tickets
  asked := b.asked
  prompt := .cons (fun _ _ e => by cases e; exact ⟨rest, due⟩) b.prompt

theorem distinct (b : Booked h last waiting) : h.asked.Nodup :=
  b.tickets ▸ List.nodup_range'

end Booked

/-! ### The probe -/

/-- **What a probe does**: nothing, or it waits for an answer. -/
inductive Stance (v : View) : Prop where
  /-- Nobody waits, there is no timer, and it does not listen. -/
  | idle : v.checking = false → v.waiting = [] → v.timer = none → v.clock.expiries = [] →
      .probe ∉ v.fusion.listeners → Stance v
  /-- Somebody waits; there is one timer, which was set when the first of them asked, and it
  listens. -/
  | busy {c : Caller} {rest : List Caller} {time timeout : Number} {id : Nat} :
      v.checking = true → v.waiting = c :: rest → v.primaryThere = true →
      ⟨time, .turned (.asked c.ticket timeout)⟩ ∈ v.history → v.timer = some id →
      v.clock.expiries = [⟨id, time + timeout.atLeastZero, .giveUp⟩] → id ∈ v.clock.armed →
      .probe ∈ v.fusion.listeners → Stance v

/-- **Whose question is settled when there is an answer**, with the history up to that question:
those who wait, or somebody who asks just now. -/
inductive Asking (v : View) : List Nat → Nat → History → Prop where
  /-- Those who wait. -/
  | waited {last : Nat} : last = v.lastTicket →
      Asking v (v.waiting.map (·.ticket)) last v.history
  /-- Somebody asks while nobody waits. -/
  | declined {timeout : Number} {last : Nat} : v.waiting = [] → last = v.lastTicket + 1 →
      Asking v [last] last (⟨v.clock.now, .turned (.asked last timeout)⟩ :: v.history)

/-- **Some have come to their answer**, and nobody waits any longer. -/
structure Closed (v : View) (near : Option Bool) (tickets : List Nat) (v' : View) : Prop where
  /-- Nobody waits. -/
  nobody : v'.waiting = []
  /-- The answer is noted, and what comes then is spare. -/
  books : ∃ (earlier : History) (time : Number), Asking v tickets v'.lastTicket earlier
    ∧ History.Since Entry.isSpare (⟨time, .turned (.resolved tickets near)⟩ :: earlier) v'.history

variable {v v' v'' : View}

theorem Stance.spared (s : Stance v) (hc : Clocked v.clock v.fusion.pendingRecheck)
    (h : Spared v v') : Stance v' := by
  obtain ⟨waiting, checking, timer, -, there⟩ := View.desk_eq h.desk
  obtain ⟨-, hu⟩ := h.clock hc
  cases s with
  | idle off nobody unset none absent =>
    exact .idle (checking.trans off) (waiting.trans nobody) (timer.trans unset)
      (hu.expiries.trans none) (mt h.probe.mp absent)
  | busy on somebody here asked set one armed listens =>
    refine .busy (checking.trans on) (waiting.trans somebody) (there.trans here)
      (h.history.suffix.subset asked) (timer.trans set) (hu.expiries.trans one) ?_ (h.probe.mpr listens)
    exact hu.armed _ (one ▸ List.mem_singleton_self _) armed

/-- Whether a check is on can be told from who waits, from the timers, and from who listens. -/
theorem Stance.checking_iff (s : Stance v) :
    (v.checking = true ↔ v.waiting ≠ [])
      ∧ (v.checking = true ↔ v.clock.expiries.length = 1)
      ∧ (v.checking = false ↔ v.clock.expiries = [])
      ∧ (v.checking = true ↔ .probe ∈ v.fusion.listeners) := by
  cases s with
  | idle off nobody _ none absent => simp [off, nobody, none, absent]
  | busy on somebody _ _ _ one _ listens => simp [on, somebody, one, listens]

/-- Those who wait do so as long as the first of them said. -/
theorem Stance.due (s : Stance v) {c : Caller} {rest : List Caller} (h : v.waiting = c :: rest) :
    ∃ time timeout id, ⟨time, .turned (.asked c.ticket timeout)⟩ ∈ v.history
      ∧ v.timer = some id ∧ id ∈ v.clock.armed
      ∧ v.clock.expiries = [⟨id, time + timeout.atLeastZero, .giveUp⟩] := by
  cases s with
  | idle _ nobody =>
    rw [nobody] at h
    cases h
  | @busy _ _ time timeout id _ somebody _ asked set one armed =>
    rw [somebody] at h
    cases h
    exact ⟨time, timeout, id, asked, set, armed, one⟩

/-- **A probe whose parts agree.** -/
structure Manned (v : View) : Prop where
  /-- Listeners come in one by one. -/
  attended : Attended v
  /-- Timers have numbers of their own. -/
  clocked : Clocked v.clock v.fusion.pendingRecheck
  /-- The parts of the probe agree. -/
  stance : Stance v

namespace Manned

/-- What spares the probe leaves its parts agreeing. -/
theorem spared (m : Manned v) (h : Spared v v') (a : Attended v') : Manned v' :=
  ⟨a, (h.clock m.clocked).1, m.stance.spared m.clocked h⟩

/-- A turn may be noted. -/
theorem turn (m : Manned v) {t : Turn} (a : Attended (v.turn t)) : Manned (v.turn t) := by
  refine ⟨a, m.clocked, ?_⟩
  cases m.stance with
  | idle off nobody unset none absent => exact .idle off nobody unset none absent
  | busy on somebody here asked set one armed listens =>
    exact .busy on somebody here (List.mem_cons_of_mem _ asked) set one armed listens

/-- Somebody asks while others wait. -/
theorem enqueue (m : Manned v) (timeout : Number) {c : Caller} (checking : v.checking = true)
    (a : Attended ((v.ask timeout).queue c)) : Manned ((v.ask timeout).queue c) := by
  refine ⟨a, m.clocked, ?_⟩
  cases m.stance with
  | idle off => exact absurd (off.symm.trans checking) Bool.false_ne_true
  | busy on somebody here asked set one armed listens =>
    have longer : ((v.ask timeout).queue c).waiting = _ :: (_ ++ [c]) :=
      congrArg (· ++ [c]) somebody
    exact .busy on longer here (List.mem_cons_of_mem _ asked) set one armed listens

/-- **Somebody asks while nobody waits**, and the probe comes to listen. -/
theorem begin (m : Manned v) (timeout : Number) {c : Caller} (there : v.primaryThere = true)
    (checking : v.checking = false) (ticket : c.ticket = v.lastTicket + 1)
    (a : Attended ((v.openCheck timeout c).join .probe)) :
    Manned ((v.openCheck timeout c).join .probe)
      ∧ (v.openCheck timeout c).join .probe
        = ((v.openCheck timeout c).turn (.joined .probe)).change fun f =>
          { f with listeners := f.listeners ++ [.probe] } := by
  cases m.stance with
  | busy on => exact absurd (checking.symm.trans on) Bool.false_ne_true
  | idle off nobody unset none absent =>
    have joined : (v.openCheck timeout c).join .probe
        = ((v.openCheck timeout c).turn (.joined .probe)).change fun f =>
          { f with listeners := f.listeners ++ [.probe] } := if_neg absent
    -- There was no timer of the probe, so the new one is the only one.
    have expiries : (v.clock.set timeout .giveUp).expiries
        = [⟨v.clock.lastId + 1, v.clock.now + timeout.atLeastZero, .giveUp⟩] := by
      rw [Clock.expiries_set, none]
      rfl
    have only : v.waiting ++ [c] = c :: [] := by rw [nobody]; rfl
    refine ⟨?_, joined⟩
    rw [joined] at a ⊢
    refine ⟨a, m.clocked.set timeout .giveUp, ?_⟩
    have noted : ⟨v.clock.now, .turned (.asked c.ticket timeout)⟩
        ∈ (⟨v.clock.now, .turned (.joined .probe)⟩ :: (v.openCheck timeout c).history : History) :=
      ticket ▸ List.mem_cons_of_mem _ List.mem_cons_self
    refine .busy rfl only there noted rfl expiries ?_ ?_
    · exact List.mem_append_right _ (List.mem_singleton_self _)
    · exact List.mem_append_right _ (List.mem_singleton_self _)

/-- **A check is over**, if the timer that is called off is all the probe had. -/
theorem ended (near : Option Bool) (a : Attended v)
    (hc : Clocked v.clock v.fusion.pendingRecheck)
    (he : (v.clock.callOff v.timer).expiries = []) (a' : Attended (v.close near)) :
    Manned (v.close near)
      ∧ Vacated (v.take near).stopTimer ((v.take near).stopTimer.leave .probe) := by
  let u := (v.take near).stopTimer
  have left : Vacated u (u.leave .probe) := .leave a.distinct (hc.callOff v.timer)
  obtain ⟨nobody, -, unset, -, -⟩ := View.desk_eq left.desk
  refine ⟨⟨a', left.clocked, ?_⟩, left⟩
  exact .idle rfl nobody unset (left.undisturbed.expiries.trans he) left.absent

/-- The timer of a probe in order is all it has. -/
theorem expiries_callOff (m : Manned v) : (v.clock.callOff v.timer).expiries = [] := by
  cases m.stance with
  | idle _ _ unset none =>
    rw [unset]
    exact none
  | @busy c rest time timeout id _ _ _ _ set one armed =>
    have disarmed : v.clock.callOff (some id) = (v.clock.remove id).disarm id :=
      if_pos (decide_eq_true armed)
    have only : ((v.clock.remove id).disarm id).expiries = (v.clock.remove id).expiries := rfl
    rw [set, disarmed, only, Clock.expiries_remove, one]
    simp

/-- The timer of a check that fires is all the probe had. -/
theorem expiries_giveUp (m : Manned v) {t : Timer} (ht : t ∈ v.clock.pending)
    (task : t.task = .giveUp) : (v.giveUp t).clock.expiries = [] := by
  have mine : t ∈ v.clock.expiries := List.mem_filter.mpr ⟨ht, by rw [task]; rfl⟩
  have struck : (v.giveUp t).clock.expiries = (v.clock.remove t.id).expiries := rfl
  rw [struck, Clock.expiries_remove]
  cases m.stance with
  | idle _ _ _ none =>
    rw [none] at mine
    exact absurd mine List.not_mem_nil
  | busy _ _ _ _ _ one =>
    rw [one] at mine ⊢
    rw [List.mem_singleton.mp mine]
    simp

/-- **There is an answer**, which is due to those who waited, or to somebody who has asked just
now. -/
theorem close (m : Manned v) {near : Option Bool} {waiting : List Caller}
    (h : Close near v waiting v') (a : Attended v') :
    Manned v' ∧ Closed v near (waiting.map (·.ticket)) v' := by
  cases h with
  | reading =>
    obtain ⟨m', left⟩ := ended near m.attended m.clocked m.expiries_callOff a
    obtain ⟨nobody, -, -, last, -⟩ := View.desk_eq left.desk
    exact ⟨m', nobody, ⟨_, _, .waited last, left.history⟩⟩
  | @expiry t ht task none =>
    subst none
    have given : Attended (v.giveUp t) :=
      m.attended.unjoined (.none rfl rfl rfl) { m.attended.faithful with }
    have clocked : Clocked (v.giveUp t).clock (v.giveUp t).fusion.pendingRecheck :=
      { m.clocked.remove t.id with }
    obtain ⟨m', left⟩ := ended (v := v.giveUp t) none given clocked (m.expiries_giveUp ht task) a
    obtain ⟨nobody, -, -, last, -⟩ := View.desk_eq left.desk
    exact ⟨m', nobody, ⟨_, _, .waited last, left.history⟩⟩
  | @decline timeout c absent ticket none =>
    subst none
    cases m.stance with
    | busy _ _ here => exact absurd (absent.symm.trans here) Bool.false_ne_true
    | idle off nobody unset none silent =>
      refine ⟨⟨a, m.clocked, .idle off nobody unset none silent⟩, nobody, _, _, ?_, .refl _ _⟩
      rw [List.map_cons, List.map_nil, ticket]
      exact .declined nobody rfl

end Manned

/-- **A probe in order.** -/
structure Probing (v : View) : Prop where
  /-- Listeners come in one by one. -/
  attended : Attended v
  /-- Timers have numbers of their own. -/
  clocked : Clocked v.clock v.fusion.pendingRecheck
  /-- The books are right. -/
  booked : Booked v.history v.lastTicket (v.waiting.map (·.ticket))
  /-- The parts of the probe agree. -/
  stance : Stance v

theorem View.tickets_queue {v : View} (timeout : Number) {c : Caller}
    (ticket : c.ticket = v.lastTicket + 1) :
    ((v.ask timeout).queue c).waiting.map (·.ticket)
      = v.waiting.map (·.ticket) ++ [v.lastTicket + 1] := by
  rw [← ticket]
  exact List.map_append

/-- Whose question is settled has asked and was not answered before. -/
theorem Booked.asking (b : Booked v.history v.lastTicket (v.waiting.map (·.ticket)))
    {tickets : List Nat} {last : Nat} {earlier : History} (ha : Asking v tickets last earlier) :
    Booked earlier last tickets ∧ earlier.owed = v.history.owed := by
  cases ha with
  | waited last =>
    subst last
    exact ⟨b, rfl⟩
  | @declined timeout _ nobody last =>
    subst last
    have asked := b.ask v.clock.now timeout
    rw [nobody] at asked
    exact ⟨asked, rfl⟩

namespace Probing

/-- The parts of a probe in order agree. -/
theorem manned (p : Probing v) : Manned v := ⟨p.attended, p.clocked, p.stance⟩

theorem of_manned (m : Manned v) (b : Booked v.history v.lastTicket (v.waiting.map (·.ticket))) :
    Probing v := ⟨m.attended, m.clocked, b, m.stance⟩

/-- What spares the probe leaves it in order, and the answers that are due as they were. -/
theorem spared (p : Probing v) (h : Spared v v') (a : Attended v') :
    Probing v' ∧ v'.history.owed = v.history.owed := by
  obtain ⟨waiting, -, -, last, -⟩ := View.desk_eq h.desk
  refine ⟨.of_manned (p.manned.spared h a) ?_, h.history.books.2.2⟩
  rw [last, waiting]
  exact p.booked.since h.history

theorem booked_queue (b : Booked v.history v.lastTicket (v.waiting.map (·.ticket)))
    (timeout : Number) {c : Caller} (ticket : c.ticket = v.lastTicket + 1) :
    Booked ((v.ask timeout).queue c).history ((v.ask timeout).queue c).lastTicket
      (((v.ask timeout).queue c).waiting.map (·.ticket)) := by
  rw [View.tickets_queue timeout ticket]
  exact b.ask _ timeout

/-- Somebody asks while others wait. -/
theorem enqueue (p : Probing v) (timeout : Number) {c : Caller} (checking : v.checking = true)
    (ticket : c.ticket = v.lastTicket + 1) (a : Attended ((v.ask timeout).queue c)) :
    Probing ((v.ask timeout).queue c) :=
  .of_manned (p.manned.enqueue timeout checking a) (booked_queue p.booked timeout ticket)

/-- **Somebody asks while nobody waits**, and the probe comes to listen. -/
theorem begin (p : Probing v) (timeout : Number) {c : Caller} (there : v.primaryThere = true)
    (checking : v.checking = false) (ticket : c.ticket = v.lastTicket + 1)
    (a : Attended ((v.openCheck timeout c).join .probe)) :
    Probing ((v.openCheck timeout c).join .probe) := by
  obtain ⟨m, joined⟩ := p.manned.begin timeout there checking ticket a
  refine .of_manned m ?_
  rw [joined]
  have spare : History.Since Entry.isSpare (v.openCheck timeout c).history
      (⟨v.clock.now, .turned (.joined .probe)⟩ :: (v.openCheck timeout c).history) :=
    (History.Since.refl _ _).cons rfl
  exact (booked_queue p.booked timeout ticket).since spare

/-- **There is an answer**, and it is due to those who waited. -/
theorem close (p : Probing v) {near : Option Bool} {waiting : List Caller}
    (h : Close near v waiting v') (a : Attended v') :
    Probing v' ∧ v'.history.owed
      = waiting.map (fun c => (c.ticket, near)) ++ v.history.owed := by
  obtain ⟨m, closed⟩ := p.manned.close h a
  obtain ⟨earlier, time, asking, spare⟩ := closed.books
  obtain ⟨booked, owed⟩ : Booked earlier v'.lastTicket (waiting.map (·.ticket))
      ∧ earlier.owed = v.history.owed := p.booked.asking asking
  refine ⟨.of_manned m ?_, spare.books.2.2.trans ?_⟩
  · rw [closed.nobody]
    exact booked.resolve.since spare
  · show (waiting.map (·.ticket)).map (·, near) ++ earlier.owed = _
    rw [List.map_map, owed]
    rfl

/-- **Somebody is given the answer that is due next.** -/
theorem reply (p : Probing v) {ticket : Nat} {near : Option Bool} {rest : List (Nat × Option Bool)}
    (due : v.history.owed = (ticket, near) :: rest) :
    Probing (v.turn (.replied ticket near))
      ∧ (v.turn (.replied ticket near)).history.owed = rest := by
  have a : Attended (v.turn (.replied ticket near)) :=
    p.attended.unjoined (.one rfl rfl rfl rfl) { p.attended.faithful with }
  exact ⟨.of_manned (p.manned.turn a) (p.booked.reply due), congrArg List.tail due⟩

end Probing

/-! ### What a call leaves -/

/-- **The answers that are due are left as they were**, and the probe in order, unless there
is an alarm. -/
structure Answering (v v' : View) : Prop where
  /-- The history has grown. -/
  grows : v.history <:+ v'.history
  /-- The probe is left in order, and the same answers are due. -/
  probing : v'.history.Calm → Probing v → Probing v' ∧ v'.history.owed = v.history.owed

namespace Answering

theorem refl (v : View) : Answering v v := ⟨List.suffix_rfl, fun _ p => ⟨p, rfl⟩⟩

theorem trans (h : Answering v v') (h' : Answering v' v'') : Answering v v'' := by
  refine ⟨h.grows.trans h'.grows, fun calm p => ?_⟩
  obtain ⟨p', owed⟩ := h.probing (calm.of_suffix h'.grows) p
  obtain ⟨p'', owed'⟩ := h'.probing calm p'
  exact ⟨p'', owed'.trans owed⟩

/-- A deed that spares the probe leaves it in order. -/
theorem spared (hd : Deed v v') (h : Spared v v') : Answering v v' :=
  ⟨h.history.suffix, fun _ p => p.spared h (p.attended.deed hd)⟩

theorem move (h : Move v v') : Answering v v' := by
  rcases h.spared_or with hs | alarm | ⟨timeout, c, checking, there, ticket, rfl⟩
  · exact spared (.move h) hs
  · exact ⟨(Plainly.move h).history.suffix, fun calm => absurd calm alarm⟩
  · refine ⟨List.suffix_cons _ _, fun _ p => ⟨?_, rfl⟩⟩
    exact p.enqueue timeout checking ticket (p.attended.deed (.move h))

theorem rise (h : Rise v v') : Answering v v' := by
  have hd : Deed v v' := .going (.rise h)
  cases h with
  | join name => exact spared hd (.join v nofun)
  | resume => exact spared hd (.one rfl rfl rfl)
  | @begin timeout c there checking ticket =>
    refine ⟨(Plainly.going (.rise (.begin v timeout there checking ticket))).history.suffix,
      fun _ p => ⟨p.begin timeout there checking ticket (p.attended.deed hd), ?_⟩⟩
    rw [View.join]
    split <;> rfl

end Answering

theorem steady_answering : Steady Answering := ⟨Answering.refl, .trans, .move⟩

/-! ### A round of answers -/

variable {b : Bench} {u : View} {call : Reactor}

/-- **A callback comes back**, and has left the answers that are due as they were. If it fails,
a callback has failed. -/
theorem exec_callback_cases (C : Reacts Answering call) (w : Wired b) (c : Caller)
    (near : Option Bool) {act : Act Unit} (shape : act = tryCatch (call (.reply c near)) fun fault => do
      Bench.turn (.balked c.ticket)
      throw fault) :
    (∃ b', exec act b = (.ok (), b') ∧ Wired b' ∧ Answering b.view b'.view)
      ∨ ∃ e b', exec act b = (.error e, b') ∧ Wired b' ∧ b.history <:+ b'.history
        ∧ ¬ b'.history.Calm := by
  obtain ⟨w', g', r'⟩ := C (.reply c near) b w
  rw [shape, exec_tryCatch]
  rcases e : exec (call (.reply c near)) b with ⟨fault | _, b'⟩
  · simp only [after, e] at w' g'
    refine .inr ⟨fault, noted b' (.turned (.balked c.ticket)), rfl, (beside_noted b' _).wired w',
      g'.trans (beside_noted b' _).grows, ?_⟩
    rw [history_noted]
    exact not_calm_cons rfl
  · simp only [after, e] at w' r'
    exact .inl ⟨b', rfl, w', r'⟩

/-- **Somebody is given the answer that is due next**, and what that brings about leaves the
others to be answered as before. If it fails, a callback has failed. -/
theorem exec_answer_cases (C : Reacts Answering call) (w : Wired b) {c : Caller}
    {near : Option Bool} {rest : List (Nat × Option Bool)}
    (due : b.history.Calm → Probing b.view ∧ b.history.owed = (c.ticket, near) :: rest) :
    (∃ b', exec (Probe.answer call near c) b = (.ok (), b') ∧ Wired b'
        ∧ b.history <:+ b'.history
        ∧ (b'.history.Calm → Probing b'.view ∧ b'.history.owed = rest))
      ∨ ∃ e b', exec (Probe.answer call near c) b = (.error e, b') ∧ Wired b'
        ∧ b.history <:+ b'.history ∧ ¬ b'.history.Calm := by
  obtain ⟨b₁, e₁, hv₁, s₁⟩ := ends_turn (b := b) (t := .replied c.ticket near) rfl
  have given : b₁.history.Calm → Probing b₁.view ∧ b₁.history.owed = rest := by
    intro calm
    obtain ⟨p, owed⟩ := due (calm.of_suffix s₁.grows)
    have history : b₁.history = (b.view.turn (.replied c.ticket near)).history :=
      congrArg View.history hv₁
    rw [hv₁, history]
    exact p.reply owed
  have start : exec (Probe.answer call near c) b = exec _ b₁ := exec_bind_of_ok e₁
  rw [start]
  rcases hc : c.reply with script | _
  · have ends : Ends (Bench.note (.answered c.ticket c.name near)) b₁ () b₁.view := ends_note rfl
    obtain ⟨b₂, e₂, hv₂, s₂⟩ := ends
    have grows := s₁.grows.trans s₂.grows
    have w₂ := s₂.wired (s₁.wired w)
    -- Noting that the callback is called does not show, so the answers due are those of `b₁`.
    have called := exec_bind_of_ok (f := fun _ => tryCatch (call (.reply c near)) fun fault => do
      Bench.turn (.balked c.ticket)
      throw fault) e₂
    rw [called]
    rcases exec_callback_cases C w₂ c near rfl with ⟨b₃, e₃, w₃, r₃⟩ | ⟨e, b₃, e₃, w₃, g₃, alarm⟩
    · refine .inl ⟨b₃, e₃, w₃, grows.trans r₃.grows, fun calm => ?_⟩
      rw [hv₂] at r₃
      obtain ⟨p, owed⟩ := given (calm.of_suffix r₃.grows)
      obtain ⟨p', owed'⟩ := r₃.probing calm p
      exact ⟨p', owed'.trans owed⟩
    · exact .inr ⟨e, b₃, e₃, w₃, grows.trans g₃, alarm⟩
  · obtain ⟨b₂, e₂, hv₂, s₂⟩ := ends_settle (b := b₁) c (.ok near)
    refine .inl ⟨b₂, e₂, s₂.wired (s₁.wired w), s₁.grows.trans s₂.grows, fun calm => ?_⟩
    have history : b₂.history = b₁.history := congrArg View.history hv₂
    rw [hv₂, history]
    exact given (history ▸ calm)

/-- **All who waited are answered, one after the other**, whatever the callbacks do meanwhile.
The induction is on those who are still to be answered. -/
theorem leads_answers_in_turn (C : Reacts Answering call) (w : Wired b) {near : Option Bool}
    {rest : List (Nat × Option Bool)} (waiting : List Caller)
    (due : b.history.Calm → Probing b.view
      ∧ b.history.owed = waiting.map (fun c => (c.ticket, near)) ++ rest) :
    Leads (fun _ v' => v'.history.Calm → Probing v' ∧ v'.history.owed = rest) u
      (waiting.forM fun c => Probe.answer call near c) b := by
  induction waiting generalizing b with
  | nil => exact .pure w due ()
  | cons c waiting ih =>
    rw [forM_cons]
    rcases exec_answer_cases C w due with ⟨b₁, e₁, w₁, g₁, due₁⟩ | ⟨e, b₁, e₁, w₁, g₁, alarm⟩
    · exact .follow e₁ g₁ (ih w₁ due₁)
    · exact .of_exec (exec_bind_of_error e₁) w₁ g₁ fun calm => absurd calm alarm

/-- **Leaving the answers that are due as they were is a law.** -/
theorem law_answering : Law Answering where
  toSteady := steady_answering
  rise C w _ hr := by
    refine steady_answering.leads (steady_answering.keeps_activate C fun v => ?_) w (.rise hr)
    exact .spared (.going (.activate v)) (.one rfl rfl rfl)
  accept C w h heard :=
    steady_answering.leads_accept w h heard (fun ht => .spared (.taking ht) (.taking ht))
      (steady_answering.keeps_broadcast C (fun ht => .spared (.telling ht) (.telling ht)) true)
  alert C := steady_answering.keeps_broadcast C (fun ht => .spared (.telling ht) (.telling ht)) false
  answer {depth near v waiting b} C w hc := by
    have closed : v.history <:+ b.history := (Plainly.close hc).history.suffix
    -- That the bench stays wired does not rest on the order of the probe, which is a hypothesis
    -- of what is to be shown.
    have free := Steady.free.leads_answers C.free (fun _ => trivial) w hc
    have answered : Probing v → Leads (fun _ v' => v'.history.Calm →
        Probing v' ∧ v'.history.owed = v.history.owed) v
        (waiting.forM fun c => Probe.answer (react depth) near c) b := fun p =>
      leads_answers_in_turn C w waiting fun _ =>
        p.close hc (p.attended.deed (.giving (.close hc)))
    exact ⟨free.wired, free.grows, closed.trans free.grows, fun calm p => (answered p).related calm⟩

theorem Pristine.probing (p : Pristine v) : Probing v ∧ v.history.owed = [] := by
  obtain ⟨delay, fusion⟩ := p.fusion
  refine ⟨⟨p.attended, ?_, ?_, .idle p.checking p.waiting p.timer ?_ ?_⟩, ?_⟩
  · rw [p.clock, fusion]
    exact ⟨List.nodup_nil, fun t ht => absurd ht List.not_mem_nil, fun _ => nofun⟩
  · rw [p.history, p.lastTicket, p.waiting]
    exact ⟨rfl, rfl, .nil⟩
  · rw [p.clock]
    rfl
  · rw [fusion]
    exact List.not_mem_nil
  · rw [p.history]
    rfl

theorem Reached.probing (h : Reached b) (calm : b.history.Calm) :
    Probing b.view ∧ b.history.owed = [] := by
  obtain ⟨-, v, pristine, answering⟩ := law_answering.holds h
  obtain ⟨p, owed⟩ := pristine.probing
  obtain ⟨p', owed'⟩ := answering.probing calm p
  exact ⟨p', owed'.trans owed⟩

/-! ### Who has been called back -/

theorem Reached.booked (h : Reached b) (calm : b.history.Calm) :
    Booked b.history b.probe.lastTicket (b.probe.waiting.map (·.ticket)) := (h.probing calm).1.booked

/-- Whoever was to be answered has been given the answer. -/
theorem Reached.given (h : Reached b) (calm : b.history.Calm) :
    (b.annals.replies.map (·.1) ++ b.probe.waiting.map (·.ticket)).Perm b.history.asked
      ∧ ∀ tickets near, (tickets, near) ∈ b.history.batches →
        b.annals.replies.filter (·.1 ∈ tickets) = tickets.map (·, near) := by
  obtain ⟨p, nothingDue⟩ := h.probing calm
  have asked : b.history.asked = b.history.resolved ++ b.probe.waiting.map (·.ticket) :=
    p.booked.asked
  have prompt : b.history.Always History.Prompt := p.booked.prompt
  have seen : b.history.replies = b.annals.replies := replies_filter b.annals
  -- Between two steps no answer is due, so those given are all there are to be.
  refine ⟨?_, fun tickets near hb => ?_⟩
  · have given := replies_owed_perm prompt
    rw [nothingDue, List.append_nil, seen] at given
    rw [asked]
    exact given.append_right _
  · have resolved := (List.nodup_append.mp (asked ▸ p.booked.distinct)).1
    have given := replies_owed_filter prompt resolved hb
    rwa [nothingDue, List.append_nil, seen] at given

/-- **Whoever has asked has been called back, or has a settled promise, or waits.** -/
theorem Reached.account (h : Reached b) (calm : b.history.Calm) :
    (b.annals.callbacks.map (·.1) ++ b.annals.settlements.map (·.1)
      ++ (b.probe.waiting.filter (·.ticket ∉ b.annals.settlements.map (·.1))).map (·.ticket)).Perm
        b.history.asked := by
  have booked := h.booked calm
  refine h.balances.account booked.distinct (fun ticket => ?_) (h.given calm).1
  rw [booked.tickets, List.mem_range'_1]
  omega

/-- A question that was noted is one of those that were asked. -/
theorem History.mem_asked {h : History} {time timeout : Number} {ticket : Nat}
    (mem : ⟨time, .turned (.asked ticket timeout)⟩ ∈ h) : ticket ∈ h.asked := by
  induction h with
  | nil => cases mem
  | cons n h ih =>
    rw [asked]
    rcases List.mem_cons.mp mem with rfl | old
    · exact List.mem_append_right _ (List.mem_singleton_self ticket)
    · split
      · exact List.mem_append_left _ (ih old)
      · exact ih old

/-- What a step for the probe leaves, where there is one. -/
theorem bench_take_onProbe (probed : b.probed = true) {step : Step} {name : String}
    (act : Reactor → Act Unit)
    (shape : ∀ call, perform call step = onProbe name (quietly (act call))) :
    (Session.take step b).bench = after (act (react (Session.depth b step))) b := by
  let x := act (react (Session.depth b step))
  have start : exec (perform (react (Session.depth b step)) step) b
      = exec (x >>= fun _ => pure .none) b := by
    rw [shape]
    refine (exec_bind_of_ok (exec_get b)).trans ?_
    rw [if_pos probed]
    rfl
  show (exec (perform (react (Session.depth b step)) step) b).2 = _
  rw [start, exec_bind, after]
  rcases exec x b with ⟨_ | _, _⟩ <;> rfl

/-- What has been noted first by an action is asked in the session that follows. -/
theorem Records.mem_asked {act : Act Unit} {ticket : Nat} {timeout : Number}
    (h : Records [.turned (.asked ticket timeout)] act b) (steps : List Step) :
    ticket ∈ (Session.run steps (after act b)).history.asked := by
  have noted := h.trans (Observed.run (R := Grows) steps (after act b))
  have asked : ⟨b.clock.now, .turned (.asked ticket timeout)⟩
      ∈ (Session.run steps (after act b)).history :=
    List.mem_filter.mpr ⟨noted.subset List.mem_cons_self, rfl⟩
  exact History.mem_asked asked

/-- **Whoever asks with a callback has a ticket of its own**, which is never that of a promise. -/
theorem Reached.checked (h : Reached b) (probed : b.probed = true) (name : String) (timeout : Number)
    (script : List Step) (steps : List Step) :
    b.probe.lastTicket + 1
        ∈ (Session.run (.check name timeout script :: steps) b).history.asked
      ∧ b.probe.lastTicket + 1
        ∉ (Session.run (.check name timeout script :: steps) b).annals.settlements.map (·.1) := by
  let call := react (Session.depth b (.check name timeout script))
  let b₁ := after (Probe.check call name timeout script) b
  have start : Session.run (.check name timeout script :: steps) b = Session.run steps b₁ := by
    rw [Session.run_cons, bench_take_onProbe probed (Probe.check · name timeout script) fun _ => rfl]
  rw [start]
  refine ⟨(Records.check (Observed.react _) name timeout script).mem_asked steps, fun settled => ?_⟩
  obtain ⟨s, last, apart⟩ := h.handed.1.check (Observed.react _) name timeout script
  obtain ⟨-, -, promises, -⟩ := Observed.run (R := Hands) steps b₁ s.handed
  refine apart ((promises _ last).mp (List.mem_append_left _ ?_))
  rw [Bench.kept, List.map_append]
  exact List.mem_append_left _ settled

/-- **Whoever asks with a promise has a ticket of its own**, for which no callback is ever called. -/
theorem Reached.queried (h : Reached b) (probed : b.probed = true) (name : String)
    (timeout : Option Number) (steps : List Step) :
    b.probe.lastTicket + 1 ∈ (Session.run (.query name timeout :: steps) b).history.asked
      ∧ b.probe.lastTicket + 1
        ∉ (Session.run (.query name timeout :: steps) b).annals.callbacks.map (·.1) := by
  let call := react (Session.depth b (.query name timeout))
  let b₁ := after (Probe.query call name timeout) b
  have start : Session.run (.query name timeout :: steps) b = Session.run steps b₁ := by
    rw [Session.run_cons, bench_take_onProbe probed (Probe.query · name timeout) fun _ => rfl]
  rw [start]
  refine ⟨(Records.query (Observed.react _) name timeout).mem_asked steps, fun called => ?_⟩
  obtain ⟨s, last, promised⟩ := h.handed.1.query (Observed.react _) name timeout
  obtain ⟨x, -, promises, -⟩ := Observed.run (R := Hands) steps b₁ s.handed
  obtain ⟨a, ha, same⟩ := List.mem_map.mp called
  exact x.balances.apart a ha (same.symm ▸ (promises _ last).mpr promised)

/-- **Whoever asks with a callback is called back just once, or waits**, in the session that
follows. -/
theorem Reached.count_callbacks (h : Reached b) (calm : b.history.Calm) {ticket : Nat}
    (asked : ticket ∈ b.history.asked) (apart : ticket ∉ b.annals.settlements.map (·.1)) :
    (b.annals.callbacks.map (·.1)).count ticket
      = if ticket ∈ b.probe.waiting.map (·.ticket) then 0 else 1 := by
  have distinct := (h.booked calm).distinct
  have once := List.count_eq_one_of_mem distinct asked
  rw [← (h.account calm).count_eq, List.count_append, List.count_append,
    List.count_eq_zero_of_not_mem apart] at once
  split
  · rename_i waits
    obtain ⟨c, hc, rfl⟩ := List.mem_map.mp waits
    have left : c.ticket ∈ (b.probe.waiting.filter
        (·.ticket ∉ b.annals.settlements.map (·.1))).map (·.ticket) :=
      List.mem_map_of_mem (List.mem_filter.mpr ⟨hc, decide_eq_true apart⟩)
    have := List.count_pos_iff.mpr left
    omega
  · rename_i served
    rw [List.count_eq_zero_of_not_mem
      (fun left => served ((List.filter_sublist.map _).subset left))] at once
    omega

/-- **Whoever asks with a promise has it settled just once, or waits.** -/
theorem Reached.count_settlements (h : Reached b) (calm : b.history.Calm) {ticket : Nat}
    (asked : ticket ∈ b.history.asked) (apart : ticket ∉ b.annals.callbacks.map (·.1)) :
    (b.annals.settlements.map (·.1)).count ticket = 1
      ∨ (b.annals.settlements.map (·.1)).count ticket = 0
        ∧ ticket ∈ b.probe.waiting.map (·.ticket) := by
  have once := List.count_eq_one_of_mem (h.booked calm).distinct asked
  rw [← (h.account calm).count_eq, List.count_append, List.count_append,
    List.count_eq_zero_of_not_mem apart, Nat.zero_add] at once
  by_cases settled : (b.annals.settlements.map (·.1)).count ticket = 0
  · rw [settled, Nat.zero_add] at once
    have left := List.count_pos_iff.mp (once ▸ Nat.one_pos)
    exact .inr ⟨settled, (List.filter_sublist.map _).subset left⟩
  · exact .inl (by omega)

/-- **Every question is answered once, or still waits to be.** In a calm history no two questions
have the same ticket, and whoever asked has been called back once, or has a promise that has been
settled once, or waits. Those who were answered together were asked one after the other, and those
of them who have a callback were called in that order, all with the same answer; it rests on what
the probe had just been told, or on its timer, or there was nothing to ask. Between two steps a check
is on just when somebody waits, when the probe has a timer, and when it listens; it has no more than
one timer, which is due as late as the first of those who wait said when it asked.

And however the session goes on, whoever asks now with a callback has been called back just once, or
waits; and whoever asks now with a promise has had it settled just once, or waits. An answer that
comes at whatever depth of calls is dealt out by a probe that is idle, so that no timer is left of
the check that it ends. -/
theorem answered_once (h : Reached b) (calm : b.history.Calm) :
    b.history.asked.Nodup
      ∧ (b.annals.callbacks.map (·.1) ++ b.annals.settlements.map (·.1)
        ++ (b.probe.waiting.filter (·.ticket ∉ b.annals.settlements.map (·.1))).map (·.ticket)).Perm
          b.history.asked
      ∧ b.history.asked
        = b.history.batches.flatMap (·.1) ++ b.probe.waiting.map (·.ticket)
      ∧ (∀ tickets near, (tickets, near) ∈ b.history.batches →
        b.annals.HandedOver tickets tickets near)
      ∧ b.annals.Always Earned ∧ b.annals.Always Founded
      ∧ (b.probe.checking = true ↔ b.probe.waiting ≠ [])
      ∧ (b.probe.checking = true ↔ b.clock.expiries.length = 1)
      ∧ (b.probe.checking = false ↔ b.clock.expiries = [])
      ∧ (b.probe.checking = true ↔ .probe ∈ b.fusion.listeners)
      ∧ (∀ c rest, b.probe.waiting = c :: rest → ∃ time timeout id,
        ⟨time, .turned (.asked c.ticket timeout)⟩ ∈ b.history ∧ b.probe.timer = some id
          ∧ b.clock.isArmed id = true
          ∧ b.clock.expiries = [⟨id, time + timeout.atLeastZero, .giveUp⟩])
      ∧ (∀ name timeout script steps, b.probed = true →
        let b' := Session.run (.check name timeout script :: steps) b
        b'.history.Calm → (b'.annals.callbacks.map (·.1)).count (b.probe.lastTicket + 1)
          = if b.probe.lastTicket + 1 ∈ b'.probe.waiting.map (·.ticket) then 0 else 1)
      ∧ (∀ name timeout steps, b.probed = true →
        let b' := Session.run (.query name timeout :: steps) b
        b'.history.Calm → (b'.annals.settlements.map (·.1)).count (b.probe.lastTicket + 1) = 1
          ∨ (b'.annals.settlements.map (·.1)).count (b.probe.lastTicket + 1) = 0
            ∧ b.probe.lastTicket + 1 ∈ b'.probe.waiting.map (·.ticket))
      ∧ ∀ m, Poised m → m.DealsOut := by
  have p := (h.probing calm).1
  obtain ⟨x, -⟩ := h.handed
  obtain ⟨waits, timed, untimed, listens⟩ := p.stance.checking_iff
  refine ⟨p.booked.distinct, h.account calm, p.booked.asked, fun tickets near hb => ?_, x.earned,
    x.founded, waits, timed, untimed, listens, fun c rest e => ?_, ?_, ?_, fun m p => p.dealsOut⟩
  · exact h.balances.handedOver ((h.given calm).2 tickets near hb)
  · obtain ⟨time, timeout, id, noted, set, armed, one⟩ := p.stance.due e
    exact ⟨time, timeout, id, noted, set, decide_eq_true armed, one⟩
  · intro name timeout script steps probed b' calm'
    obtain ⟨asked, apart⟩ := h.checked probed name timeout script steps
    exact (h.run (_ :: steps)).count_callbacks calm' asked apart
  · intro name timeout steps probed b' calm'
    obtain ⟨asked, apart⟩ := h.queried probed name timeout steps
    exact (h.run (_ :: steps)).count_settlements calm' asked apart

/-- A session in which the first question is answered at once, since the sensor reports while it is
switched on. The callback asks again; two more ask, of whom one has a promise, and all three are
answered together; and a last one waits. -/
def askedSession : Bench :=
  (Scenario.ofSensors (.standIn true [some true] []) .absent []).after
    [.check "first" 10 [.check "second" 20 []], .advance 5, .check "third" 1 [],
      .query "fourth" none, .event .primary false none, .check "fifth" 30 []]

/-- The answer is handed over to all three. Whoever asks when the last one waits is called back when
the time of that one is up, or has a promise settled then. -/
theorem answered_once_session :
    askedSession.history.Calm
      ∧ askedSession.history.asked = [1, 2, 3, 4, 5]
      ∧ askedSession.annals.callbacks = [(1, some true), (2, some false), (3, some false)]
      ∧ askedSession.annals.HandedOver [2, 3, 4] [2, 3, 4] (some false)
      ∧ askedSession.annals.settlements.length = 1
      ∧ askedSession.probe.checking = true
      ∧ askedSession.clock.expiries.length = 1
      ∧ ((Session.run [.check "sixth" 1 [], .advance 30] askedSession).annals.callbacks.map
          (·.1)).count 6 = 1
      ∧ ((Session.run [.query "seventh" none, .advance 30] askedSession).annals.settlements.map
          (·.1)).count 6 = 1 := by
  have reached : Reached askedSession := Scenario.reached_after rfl (by decide +kernel) _
  have calm : askedSession.history.Calm := by decide +kernel
  obtain ⟨-, all, -, same, -, -, waits, timed, -, -, -, called, settled, -⟩ :=
    answered_once reached calm
  have checking : askedSession.probe.checking = true := waits.mpr (by decide +kernel)
  have asked : askedSession.history.asked = [1, 2, 3, 4, 5] := by decide +kernel
  have callbacks : askedSession.annals.callbacks
      = [(1, some true), (2, some false), (3, some false)] := by decide +kernel
  have last : askedSession.probe.lastTicket = 5 := by decide +kernel
  refine ⟨calm, asked, callbacks, same _ _ (by decide +kernel), ?_, checking, timed.mp checking, ?_,
    ?_⟩
  · have length := all.length_eq
    have waiting : (askedSession.probe.waiting.filter fun c =>
        c.ticket ∉ askedSession.annals.settlements.map (·.1)).length = 1 := by decide +kernel
    rw [asked, callbacks, List.length_append, List.length_append, List.length_map, List.length_map,
      List.length_map, waiting] at length
    exact Nat.add_left_cancel (Nat.add_right_cancel length)
  · have once := called "sixth" 1 [] [.advance 30] (by decide +kernel) (by decide +kernel)
    rw [last, if_neg (by decide +kernel)] at once
    exact once
  · have once := settled "seventh" none [.advance 30] (by decide +kernel) (by decide +kernel)
    rw [last] at once
    exact once.resolve_right fun waits => absurd waits.2 (by decide +kernel)

end Proximity
