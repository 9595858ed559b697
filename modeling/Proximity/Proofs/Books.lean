import Proximity.Proofs.Custom
import Proximity.Proofs.Ledger

/-!
# The books of those who ask

Whoever asks a probe with a callback is called back, and whoever asks with a promise has it settled.
Both can be seen (`Proximity.History.callbacks`, `Proximity.History.settlements`). The answers that a
probe gives (`Proximity.History.replies`) are turns of its own, and cannot.

The books of a probe *balance* (`Proximity.Balances`) if the two are the same: callbacks are called
in the order in which answers are given, whoever is given an answer is called back or has its promise
settled, and no promise is settled twice, or with another answer. This file is about the books alone,
and says what may be done to them:

| what is done | |
|---|---|
| a ticket is given out | `Proximity.Balances.number`, `Proximity.Balances.promise` |
| somebody waits, or nobody does any longer | `Proximity.Balances.enqueue`, `Proximity.Balances.dismiss` |
| a callback is given an answer | `Proximity.Balances.callBack` |
| a promise is settled | `Proximity.Balances.settle` |
| a promise that has been settled is given an answer | `Proximity.Balances.ignore` |
| a promise is settled unseen, and can be watched later | `Proximity.Balances.hide`, `Proximity.Balances.watch` |

That a probe does nothing else to its books is in `Proximity.Proofs.Handing`.
-/

namespace Proximity

open Act Session History

/-! ### What is seen -/

/-- Who is given an answer by an entry. -/
def Entry.replied? : Entry → Option (Nat × Option Bool)
  | .turned (.replied ticket near) => some (ticket, near)
  | _ => none

/-- Whose callback is called by an entry, and with what. -/
def Entry.calledBack? : Entry → Option (Nat × Option Bool)
  | .answered ticket _ near => some (ticket, near)
  | _ => none

/-- Whose promise is settled by an entry, and how. -/
def Entry.settled? : Entry → Option (Nat × Except Fault (Option Bool))
  | .settled ticket _ outcome => some (ticket, outcome)
  | _ => none

/-- Whether an entry is a log record. -/
def Entry.isRecord : Entry → Bool
  | .logged _ _ _ _ => true
  | _ => false

/-- Whether nobody gets anything by an entry, and no answer is come to. -/
def Entry.isIdle : Entry → Bool
  | .answered _ _ _ | .settled _ _ _ => false
  | .turned (.resolved _ _) | .turned (.replied _ _) => false
  | _ => true

theorem Entry.isIdle_of_isIncidental {entry : Entry} (aside : entry.isIncidental = true) :
    entry.isIdle = true := by
  cases entry with
  | turned t =>
    cases t with
    | resolved | replied => cases aside
    | _ => rfl
  | answered | settled => cases aside
  | _ => rfl

namespace History

/-- **Whose callbacks were called**, in their order, each with its answer. -/
def callbacks (h : History) : List (Nat × Option Bool) := h.gather (·.entry.calledBack?)

/-- **Whose promises were settled**, in their order, and how. -/
def settlements (h : History) : List (Nat × Except Fault (Option Bool)) :=
  h.gather (·.entry.settled?)

/-- What happened last, log records apart. -/
def cause (h : History) : Option Entry := (h.map (·.entry)).find? fun entry => !entry.isRecord

variable {h : History} {n : Note}

theorem callbacks_cons (n : Note) (h : History) :
    callbacks (n :: h) = callbacks h ++ n.entry.calledBack?.toList := gather_cons _ n h

theorem settlements_cons (n : Note) (h : History) :
    settlements (n :: h) = settlements h ++ n.entry.settled?.toList := gather_cons _ n h

theorem replies_cons (n : Note) (h : History) :
    replies (n :: h) = replies h ++ n.entry.replied?.toList := by
  rcases n with ⟨time, entry⟩
  cases entry with
  | turned t =>
    cases t with
    | replied => rfl
    | _ => exact (List.append_nil _).symm
  | _ => exact (List.append_nil _).symm

section

variable (time : Number) (ticket : Nat) (name : String) (near : Option Bool)
  (outcome : Except Fault (Option Bool)) (h : History)

theorem seen_cons_settled : callbacks (⟨time, .settled ticket name outcome⟩ :: h) = callbacks h
    ∧ settlements (⟨time, .settled ticket name outcome⟩ :: h)
      = settlements h ++ [(ticket, outcome)]
    ∧ replies (⟨time, .settled ticket name outcome⟩ :: h) = replies h :=
  ⟨(callbacks_cons _ h).trans (List.append_nil _), settlements_cons _ h, rfl⟩

theorem seen_cons_answered : callbacks (⟨time, .answered ticket name near⟩ :: h)
      = callbacks h ++ [(ticket, near)]
    ∧ settlements (⟨time, .answered ticket name near⟩ :: h) = settlements h
    ∧ replies (⟨time, .answered ticket name near⟩ :: h) = replies h :=
  ⟨callbacks_cons _ h, (settlements_cons _ h).trans (List.append_nil _), rfl⟩

theorem seen_cons_replied : callbacks (⟨time, .turned (.replied ticket near)⟩ :: h) = callbacks h
    ∧ settlements (⟨time, .turned (.replied ticket near)⟩ :: h) = settlements h
    ∧ replies (⟨time, .turned (.replied ticket near)⟩ :: h) = replies h ++ [(ticket, near)] :=
  ⟨(callbacks_cons _ h).trans (List.append_nil _), (settlements_cons _ h).trans (List.append_nil _),
    rfl⟩

theorem seen_cons_resolved (tickets : List Nat) :
    callbacks (⟨time, .turned (.resolved tickets near)⟩ :: h) = callbacks h
      ∧ settlements (⟨time, .turned (.resolved tickets near)⟩ :: h) = settlements h
      ∧ replies (⟨time, .turned (.resolved tickets near)⟩ :: h) = replies h :=
  ⟨(callbacks_cons _ h).trans (List.append_nil _), (settlements_cons _ h).trans (List.append_nil _),
    rfl⟩

end

/-- What is idle changes nothing of what was seen or given. -/
theorem seen_cons_of_isIdle (idle : n.entry.isIdle = true) (h : History) :
    callbacks (n :: h) = callbacks h ∧ settlements (n :: h) = settlements h
      ∧ replies (n :: h) = replies h := by
  rw [callbacks_cons, settlements_cons, replies_cons]
  rcases n with ⟨time, entry⟩
  cases entry with
  | turned t =>
    cases t with
    | replied => cases idle
    | _ => simp [Entry.calledBack?, Entry.settled?, Entry.replied?]
  | answered | settled => cases idle
  | _ => simp [Entry.calledBack?, Entry.settled?, Entry.replied?]

end History

/-- **What somebody gets has been earned**: a callback is called when its answer has just been given;
a promise takes an answer that was given, or a fault if there was no answer for it. -/
def Earned (n : Note) (earlier : History) : Prop :=
  match n.entry with
  | .answered ticket _ near =>
    ∃ time before, earlier = ⟨time, .turned (.replied ticket near)⟩ :: before
  | .settled ticket _ (.ok near) => (ticket, near) ∈ earlier.replies
  | .settled ticket _ (.error _) => ∀ near, (ticket, near) ∉ earlier.replies
  | _ => True

/-- **An answer rests on something**: that something is near or far, on a reading that the probe has
just been told; that nobody knows, on a timer that has just fired, or on nothing but the question. -/
def Founded (n : Note) (earlier : History) : Prop :=
  ∀ tickets near, n.entry = .turned (.resolved tickets near) →
    match near with
    | some near => ∃ stamp, earlier.cause = some (.told .probe ⟨near, stamp⟩)
    | none => (∃ id, earlier.cause = some (.timerFired id))
      ∨ ∃ ticket timeout, tickets = [ticket]
        ∧ earlier.cause = some (.turned (.asked ticket timeout))

theorem earned_of_isIdle {n : Note} (idle : n.entry.isIdle = true) (earlier : History) :
    Earned n earlier ∧ Founded n earlier := by
  rcases n with ⟨time, entry⟩
  cases entry with
  | turned t =>
    cases t with
    | resolved | replied => cases idle
    | _ => exact ⟨trivial, nofun⟩
  | answered | settled => cases idle
  | _ => exact ⟨trivial, nofun⟩

/-- **An answer has been handed over to some of a batch**, and to nobody else of it. -/
structure History.HandedOver (h : History) (tickets lucky : List Nat) (near : Option Bool) :
    Prop where
  /-- Of the batch, some of those are called back, each once, in their order and with the answer; the
  others have settled promises. -/
  called : ∃ called : List Nat, called.Sublist lucky
    ∧ h.callbacks.filter (·.1 ∈ tickets) = called.map (·, near)
    ∧ ∀ ticket ∈ lucky, ticket ∉ called → ticket ∈ h.settlements.map (·.1)
  /-- A promise takes no answer but this one, and only that of one of those. -/
  settled : ∀ ticket ∈ tickets, ∀ near', (ticket, .ok near') ∈ h.settlements →
    ticket ∈ lucky ∧ near' = near

/-! ### The books -/

/-- Whether an answer is taken by a promise. -/
def Reply.isPromise : Reply → Bool
  | .callback _ => false
  | .promise => true

/-- How promises have been settled, by their tickets. -/
abbrev Outcomes := List (Nat × Except Fault (Option Bool))

/-- Which answers somebody has been given, by their tickets. -/
abbrev Given := List (Nat × Option Bool)

/-- The promises of a probe: those that have been settled, and those that have not. -/
def Probe.promises (p : Probe) (kept : Outcomes) : List Nat := kept.map (·.1) ++ p.unsettled

/-- **Somebody has asked**, and it is known how the answer is taken. -/
structure Probe.Knows (p : Probe) (kept : Outcomes) (c : Caller) : Prop where
  /-- The ticket was given out. -/
  ticket : c.ticket ≤ p.lastTicket
  /-- It is that of a promise, or not. -/
  kind : c.ticket ∈ p.promises kept ↔ c.reply.isPromise = true

/-- A promise is no longer unsettled. -/
def Probe.settled (p : Probe) (ticket : Nat) : Probe :=
  { p with unsettled := p.unsettled.erase ticket }

/-- A promise was settled before anybody could watch it. -/
def Probe.hidden (p : Probe) (ticket : Nat) (outcome : Except Fault (Option Bool)) : Probe :=
  { p with unseen := (ticket, outcome) :: p.unseen }

/-- A promise can be watched. -/
def Probe.watching (p : Probe) (ticket : Nat) : Probe :=
  { p with
    unwatched := p.unwatched.erase ticket
    unseen := p.unseen.filter (·.1 != ticket) }

/-- **The books of a probe balance**: what was given has been handed over to callbacks and to
promises. -/
structure Balances (p : Probe) (kept : Outcomes) (callbacks answers : Given) : Prop where
  /-- Those who wait are known. -/
  waiting : ∀ c ∈ p.waiting, p.Knows kept c
  /-- No promise is settled twice. -/
  once : (p.promises kept).Nodup
  /-- Promises belong to tickets that were given out. -/
  numbered : ∀ ticket ∈ p.promises kept, 0 < ticket ∧ ticket ≤ p.lastTicket
  /-- So do promises that nobody can watch yet. -/
  unwatched : ∀ ticket ∈ p.unwatched, ticket ≤ p.lastTicket
  /-- A promise that was settled without being seen cannot be watched yet, and took an answer. -/
  unseen : ∀ s ∈ p.unseen, s.1 ∈ p.unwatched ∧ ∃ near, s.2 = .ok near
  /-- Answers belong to tickets that were given out. -/
  ticketed : ∀ a ∈ answers, a.1 ≤ p.lastTicket
  /-- Callbacks are called in the order in which answers are given. -/
  called : callbacks.Sublist answers
  /-- No callback belongs to a promise. -/
  apart : ∀ a ∈ callbacks, a.1 ∉ p.promises kept
  /-- Whoever is given an answer is called back, or the promise is settled. -/
  handed : ∀ a ∈ answers, a ∈ callbacks ∨ a.1 ∈ kept.map (·.1)
  /-- A promise takes no answer but the one that was given. -/
  right : ∀ ticket near, (ticket, .ok near) ∈ kept → (ticket, near) ∈ answers

namespace Balances

variable {p p' : Probe} {kept kept' : Outcomes} {callbacks answers : Given} {c : Caller}
variable {near : Option Bool}

/-- It makes no difference in which order promises were settled. -/
theorem perm (x : Balances p kept callbacks answers) (same : kept'.Perm kept) :
    Balances p kept' callbacks answers := by
  have tickets : (kept'.map (·.1)).Perm (kept.map (·.1)) := same.map _
  have promises : (p.promises kept').Perm (p.promises kept) := tickets.append_right _
  constructor
  · exact fun c hc => ⟨(x.waiting c hc).ticket, promises.mem_iff.trans (x.waiting c hc).kind⟩
  · exact promises.nodup_iff.mpr x.once
  · exact fun t ht => x.numbered t (promises.mem_iff.mp ht)
  · exact x.unwatched
  · exact x.unseen
  · exact x.ticketed
  · exact x.called
  · exact fun a ha => mt promises.mem_iff.mp (x.apart a ha)
  · exact fun a ha => (x.handed a ha).imp_right tickets.mem_iff.mpr
  · exact fun t near ht => x.right t near (same.mem_iff.mp ht)

/-- Timers do not matter, nor whether a check is on. -/
theorem congr (x : Balances p kept callbacks answers) (same : p'.callers = p.callers) :
    Balances p' kept callbacks answers := by
  obtain ⟨waiting, last, unsettled, unwatched, unseen⟩ : p'.waiting = p.waiting
      ∧ p'.lastTicket = p.lastTicket ∧ p'.unsettled = p.unsettled
      ∧ p'.unwatched = p.unwatched ∧ p'.unseen = p.unseen := by
    simpa only [Probe.callers, Prod.mk.injEq] using same
  have promises : p'.promises kept = p.promises kept := by
    rw [Probe.promises, Probe.promises, unsettled]
  have knows : ∀ {c}, p.Knows kept c → p'.Knows kept c := fun k =>
    ⟨last ▸ k.ticket, promises ▸ k.kind⟩
  exact ⟨fun c hc => knows (x.waiting c (waiting ▸ hc)), promises ▸ x.once,
    promises ▸ last ▸ x.numbered, unwatched ▸ last ▸ x.unwatched,
    unseen ▸ unwatched ▸ x.unseen, last ▸ x.ticketed, x.called, promises ▸ x.apart, x.handed, x.right⟩

/-- Somebody who is known may wait. -/
theorem enqueue (x : Balances p kept callbacks answers) (k : p.Knows kept c) :
    Balances { p with waiting := p.waiting ++ [c] } kept callbacks answers := by
  refine { x with waiting := fun c' hc => ?_ }
  rcases List.mem_append.mp hc with hc | hc
  · exact { x.waiting c' hc with }
  · rw [List.mem_singleton.mp hc]
    exact { k with }

/-- Nobody may wait any longer. -/
theorem dismiss (x : Balances p kept callbacks answers) :
    Balances { p with waiting := [] } kept callbacks answers :=
  { x with waiting := fun _ hc => absurd hc List.not_mem_nil }

/-- A ticket may be given out. -/
theorem number (x : Balances p kept callbacks answers) :
    Balances { p with lastTicket := p.lastTicket + 1 } kept callbacks answers where
  waiting c hc := ⟨Nat.le_succ_of_le (x.waiting c hc).ticket, (x.waiting c hc).kind⟩
  once := x.once
  numbered t ht := ⟨(x.numbered t ht).1, Nat.le_succ_of_le (x.numbered t ht).2⟩
  unwatched t ht := Nat.le_succ_of_le (x.unwatched t ht)
  unseen := x.unseen
  ticketed a ha := Nat.le_succ_of_le (x.ticketed a ha)
  called := x.called
  apart := x.apart
  handed := x.handed
  right := x.right

/-- **A ticket may be given out for a promise**, which nobody can watch yet. -/
theorem promise (x : Balances p kept callbacks answers) :
    Balances
      { p with
        lastTicket := p.lastTicket + 1
        unsettled := p.unsettled ++ [p.lastTicket + 1]
        unwatched := p.unwatched ++ [p.lastTicket + 1] } kept callbacks answers := by
  -- Whoever has a ticket already has another one.
  have other : ∀ {t}, t ≤ p.lastTicket → t ≠ p.lastTicket + 1 := by omega
  have more : ∀ {t}, t ∈ kept.map (·.1) ++ (p.unsettled ++ [p.lastTicket + 1])
      ↔ t ∈ p.promises kept ∨ t = p.lastTicket + 1 := by
    intro t
    rw [← List.append_assoc, List.mem_append, List.mem_singleton]
    rfl
  constructor
  · intro c hc
    obtain ⟨ticket, kind⟩ := x.waiting c hc
    exact ⟨Nat.le_succ_of_le ticket, (more.trans (or_iff_left (other ticket))).trans kind⟩
  · show (kept.map (·.1) ++ (p.unsettled ++ [p.lastTicket + 1])).Nodup
    rw [← List.append_assoc]
    refine List.nodup_append.mpr ⟨x.once, List.nodup_cons.mpr ⟨List.not_mem_nil, .nil⟩, ?_⟩
    intro t ht u hu
    rw [List.mem_singleton.mp hu]
    exact other (x.numbered t ht).2
  · intro t ht
    rcases more.mp ht with ht | rfl
    · exact ⟨(x.numbered t ht).1, Nat.le_succ_of_le (x.numbered t ht).2⟩
    · exact ⟨Nat.succ_pos _, Nat.le_refl _⟩
  · intro t ht
    rcases List.mem_append.mp ht with ht | ht
    · exact Nat.le_succ_of_le (x.unwatched t ht)
    · exact List.mem_singleton.mp ht ▸ Nat.le_refl _
  · exact fun s hs => ⟨List.mem_append_left _ (x.unseen s hs).1, (x.unseen s hs).2⟩
  · exact fun a ha => Nat.le_succ_of_le (x.ticketed a ha)
  · exact x.called
  · intro a ha ht
    rcases more.mp ht with ht | ht
    · exact x.apart a ha ht
    · exact other (x.ticketed a (x.called.subset ha)) ht
  · exact x.handed
  · exact x.right

/-- **A callback is called** with the answer that it is given. -/
theorem callBack (x : Balances p kept callbacks answers) (k : p.Knows kept c)
    (callback : c.reply.isPromise = false) :
    Balances p kept (callbacks ++ [(c.ticket, near)]) (answers ++ [(c.ticket, near)]) where
  waiting := x.waiting
  once := x.once
  numbered := x.numbered
  unwatched := x.unwatched
  unseen := x.unseen
  ticketed a ha := by
    rcases List.mem_append.mp ha with ha | ha
    · exact x.ticketed a ha
    · exact List.mem_singleton.mp ha ▸ k.ticket
  called := x.called.append_right _
  apart a ha := by
    rcases List.mem_append.mp ha with ha | ha
    · exact x.apart a ha
    · rw [List.mem_singleton.mp ha, k.kind, callback]
      exact Bool.false_ne_true
  handed a ha := by
    rcases List.mem_append.mp ha with ha | ha
    · exact (x.handed a ha).imp_left (List.mem_append_left _)
    · exact .inl (List.mem_append_right _ ha)
  right t near ht := List.mem_append_left _ (x.right t near ht)

/-- **A promise that was settled is given an answer**, of which it takes no notice. -/
theorem ignore (x : Balances p kept callbacks answers) (k : p.Knows kept c)
    (promise : c.reply.isPromise = true) (settled : c.ticket ∉ p.unsettled) :
    Balances p kept callbacks (answers ++ [(c.ticket, near)]) where
  waiting := x.waiting
  once := x.once
  numbered := x.numbered
  unwatched := x.unwatched
  unseen := x.unseen
  ticketed a ha := by
    rcases List.mem_append.mp ha with ha | ha
    · exact x.ticketed a ha
    · exact List.mem_singleton.mp ha ▸ k.ticket
  called := x.called.trans (List.sublist_append_left _ _)
  apart := x.apart
  handed a ha := by
    rcases List.mem_append.mp ha with ha | ha
    · exact x.handed a ha
    · rw [List.mem_singleton.mp ha]
      exact .inr ((List.mem_append.mp (k.kind.mpr promise)).resolve_right settled)
  right t near ht := List.mem_append_left _ (x.right t near ht)

/-- A promise that is not settled has been given no answer. -/
theorem not_given (x : Balances p kept callbacks answers) {ticket : Nat}
    (unsettled : ticket ∈ p.unsettled) : (ticket, near) ∉ answers := by
  intro mem
  rcases x.handed _ mem with called | settled
  · exact x.apart _ called (List.mem_append_right _ unsettled)
  · exact (List.nodup_append.mp x.once).2.2 ticket settled ticket unsettled rfl

variable {ticket : Nat} {outcome : Except Fault (Option Bool)}

/-- What was not settled and is settled was promised. -/
theorem promises_settle (kept : Outcomes) (outcome : Except Fault (Option Bool))
    (unsettled : ticket ∈ p.unsettled) :
    ((p.settled ticket).promises ((ticket, outcome) :: kept)).Perm (p.promises kept) :=
  (List.perm_middle.symm.trans ((List.perm_cons_erase unsettled).symm.append_left _))

/-- **A promise is settled.** If it takes an answer, that has been given by then. -/
theorem settle (x : Balances p kept callbacks answers) (unsettled : ticket ∈ p.unsettled)
    {answers' : Given} (grown : answers.Sublist answers')
    (own : ∀ a ∈ answers', a ∈ answers ∨ a.1 = ticket)
    (right : ∀ near, outcome = .ok near → (ticket, near) ∈ answers') :
    Balances (p.settled ticket) ((ticket, outcome) :: kept) callbacks answers' := by
  have promises := promises_settle kept outcome unsettled
  have mine : ticket ∈ p.promises kept := List.mem_append_right _ unsettled
  constructor
  · exact fun c hc => ⟨(x.waiting c hc).ticket, promises.mem_iff.trans (x.waiting c hc).kind⟩
  · exact promises.nodup_iff.mpr x.once
  · exact fun t ht => x.numbered t (promises.mem_iff.mp ht)
  · exact x.unwatched
  · exact x.unseen
  · intro a ha
    rcases own a ha with ha | ha
    · exact x.ticketed a ha
    · exact ha ▸ (x.numbered ticket mine).2
  · exact x.called.trans grown
  · exact fun a ha => mt promises.mem_iff.mp (x.apart a ha)
  · intro a ha
    rcases own a ha with ha | ha
    · exact (x.handed a ha).imp_right (List.mem_cons_of_mem _)
    · exact .inr (List.mem_cons.mpr (.inl ha))
  · intro t near ht
    rcases List.mem_cons.mp ht with e | ht
    · obtain ⟨rfl, same⟩ := Prod.mk.inj e
      exact right near same.symm
    · exact grown.subset (x.right t near ht)

/-- A promise whose settling cannot be seen yet waits to be watched. -/
theorem hide (x : Balances p kept callbacks answers) (unwatched : ticket ∈ p.unwatched)
    (near : Option Bool) :
    Balances (p.hidden ticket (.ok near)) kept callbacks answers := by
  refine { x with waiting := fun c hc => { x.waiting c hc with }, unseen := fun s hs => ?_ }
  rcases List.mem_cons.mp hs with rfl | hs
  · exact ⟨unwatched, near, rfl⟩
  · exact x.unseen s hs

/-- A promise may be watched. -/
theorem watch (x : Balances p kept callbacks answers) (ticket : Nat) :
    Balances (p.watching ticket) kept callbacks answers := by
  refine { x with waiting := fun c hc => { x.waiting c hc with }, unwatched := ?_, unseen := ?_ }
  · exact fun t ht => x.unwatched t (List.mem_of_mem_erase ht)
  · intro s hs
    obtain ⟨old, other⟩ := List.mem_filter.mp hs
    obtain ⟨unwatched, answer⟩ := x.unseen s old
    exact ⟨(List.mem_erase_of_ne (bne_iff_ne.mp other)).mpr unwatched, answer⟩

/-! ### What has become of everybody -/

variable {asked : List Nat}

/-- No promise is settled twice, no caller is called twice, and nobody is called and has a promise
settled; nor does anybody wait who has got something. -/
theorem distinct (x : Balances p kept callbacks answers)
    (apart : (answers.map (·.1) ++ p.waiting.map (·.ticket)).Nodup) :
    (callbacks.map (·.1) ++ kept.map (·.1)
      ++ (p.waiting.filter (·.ticket ∉ kept.map (·.1))).map (·.ticket)).Nodup := by
  obtain ⟨given, waiting, others⟩ := List.nodup_append.mp apart
  have called : (callbacks.map (·.1)).Sublist (answers.map (·.1)) := x.called.map _
  have left : ((p.waiting.filter (·.ticket ∉ kept.map (·.1))).map (·.ticket)).Sublist
      (p.waiting.map (·.ticket)) := List.filter_sublist.map _
  refine List.nodup_append.mpr ⟨List.nodup_append.mpr ⟨called.nodup given, ?_, ?_⟩,
    left.nodup waiting, ?_⟩
  · exact (List.nodup_append.mp x.once).1
  · rintro ticket hc _ hs rfl
    obtain ⟨a, ha, rfl⟩ := List.mem_map.mp hc
    exact x.apart a ha (List.mem_append_left _ hs)
  · rintro ticket got _ hw rfl
    rcases List.mem_append.mp got with hc | hs
    · exact others ticket (called.subset hc) ticket (left.subset hw) rfl
    · obtain ⟨c, hc, rfl⟩ := List.mem_map.mp hw
      exact of_decide_eq_true (List.mem_filter.mp hc).2 hs

/-- **Whoever has asked has been called back, or has a settled promise, or waits.** -/
theorem account (x : Balances p kept callbacks answers) (distinct : asked.Nodup)
    (tickets : ∀ ticket, ticket ∈ asked ↔ 0 < ticket ∧ ticket ≤ p.lastTicket)
    (all : (answers.map (·.1) ++ p.waiting.map (·.ticket)).Perm asked) :
    (callbacks.map (·.1) ++ kept.map (·.1)
      ++ (p.waiting.filter (·.ticket ∉ kept.map (·.1))).map (·.ticket)).Perm asked := by
  refine (List.perm_ext_iff_of_nodup (x.distinct (all.nodup_iff.mpr distinct)) distinct).mpr
    fun ticket => ⟨fun got => ?_, fun ha => ?_⟩
  · rcases List.mem_append.mp got with got | hw
    · rcases List.mem_append.mp got with hc | hs
      · exact all.subset (List.mem_append_left _ ((x.called.map _).subset hc))
      · exact (tickets ticket).mpr (x.numbered ticket (List.mem_append_left _ hs))
    · exact all.subset (List.mem_append_right _ ((List.filter_sublist.map _).subset hw))
  · by_cases settled : ticket ∈ kept.map (·.1)
    · exact List.mem_append_left _ (List.mem_append_right _ settled)
    · rcases List.mem_append.mp (all.symm.subset ha) with hr | hw
      · obtain ⟨a, given, rfl⟩ := List.mem_map.mp hr
        have called := (x.handed a given).resolve_right settled
        exact List.mem_append_left _ (List.mem_append_left _ (List.mem_map_of_mem called))
      · obtain ⟨c, hc, rfl⟩ := List.mem_map.mp hw
        refine List.mem_append_right _ (List.mem_map_of_mem (List.mem_filter.mpr ⟨hc, ?_⟩))
        exact decide_eq_true settled

/-- **An answer that was given to some of a batch has been handed over to them.** -/
theorem handedOver {h : History} {tickets lucky : List Nat}
    (x : Balances p h.settlements h.callbacks h.replies)
    (given : h.replies.filter (·.1 ∈ tickets) = lucky.map (·, near)) :
    h.HandedOver tickets lucky near := by
  have part : (h.callbacks.filter (·.1 ∈ tickets)).Sublist (lucky.map (·, near)) :=
    given ▸ x.called.filter _
  obtain ⟨called, sub, callbacks⟩ := List.sublist_map_iff.mp part
  refine ⟨⟨called, sub, callbacks, fun ticket ht uncalled => ?_⟩, fun ticket ht near' hs => ?_⟩
  · have mine : (ticket, near) ∈ h.replies.filter (·.1 ∈ tickets) :=
      given ▸ List.mem_map_of_mem ht
    obtain ⟨hr, own⟩ := List.mem_filter.mp mine
    refine (x.handed _ hr).resolve_left fun hc => uncalled ?_
    have seen : (ticket, near) ∈ called.map (·, near) :=
      callbacks ▸ List.mem_filter.mpr ⟨hc, own⟩
    obtain ⟨_, ht', e⟩ := List.mem_map.mp seen
    cases e
    exact ht'
  · have mine : (ticket, near') ∈ lucky.map (·, near) :=
      given ▸ List.mem_filter.mpr ⟨x.right ticket near' hs, decide_eq_true ht⟩
    obtain ⟨_, ht', e⟩ := List.mem_map.mp mine
    cases e
    exact ⟨ht', rfl⟩

end Balances

end Proximity
