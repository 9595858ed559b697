import Proximity.Proofs.Books

/-!
# What callers get

The answers that a probe gives are handed over to those who asked, and nothing else is
(`Proximity.Handed`):

| what is seen | what is behind it |
|---|---|
| a callback is called | its answer has just been given |
| a promise takes an answer | the answer was given |
| a promise takes a fault | no answer had been given: asking had failed |

A promise that is settled before anybody can watch it is seen when its own call comes back, so that
between two steps nothing is left to be seen (`Proximity.Reached.handed`).

An answer that is given rests on something, too: on what the probe has just been told, on a timer
that has just fired, or on a question that cannot be answered (`Proximity.Founded`).

All this is a custom (`Proximity.Hands`), and so it holds whatever is called, and wherever one gets.
-/

namespace Proximity

open Act Session History

/-! ### Benches -/

/-- All that is noted on a bench, whether it belongs to its history or not. -/
abbrev Bench.annals (b : Bench) : History := b.journal

/-- How promises have been settled on a bench, whether that has been seen or not. -/
def Bench.kept (b : Bench) : Outcomes := b.annals.settlements ++ b.probe.unseen

/-- **What callers get is what they are given**, and they are given nothing without reason. -/
structure Handed (b : Bench) : Prop where
  /-- The books balance. -/
  balances : Balances b.probe b.kept b.annals.callbacks b.annals.replies
  /-- What somebody gets has been earned. -/
  earned : b.annals.Always Earned
  /-- Answers rest on something. -/
  founded : b.annals.Always Founded

/-- **The books of a bench are kept.** -/
structure Handing (b b' : Bench) : Prop where
  /-- What callers get is what they are given. -/
  handed : Handed b'
  /-- Tickets are given out one by one. -/
  later : b.probe.lastTicket ≤ b'.probe.lastTicket
  /-- Whoever has asked with a promise still has. -/
  promises : ∀ ticket ≤ b.probe.lastTicket,
    ticket ∈ b'.probe.promises b'.kept ↔ ticket ∈ b.probe.promises b.kept
  /-- The same promises can be watched as before. -/
  unwatched : b'.probe.unwatched = b.probe.unwatched

/-- **If the books of a bench were right, they still are.** -/
def Hands (b b' : Bench) : Prop := Handed b → Handing b b'

variable {b b' b'' : Bench} {c : Caller} {call : Reactor} {near : Option Bool}

namespace Handing

theorem refl (x : Handed b) : Handing b b := ⟨x, Nat.le_refl _, fun _ _ => Iff.rfl, rfl⟩

theorem trans (s : Handing b b') (s' : Handing b' b'') : Handing b b'' where
  handed := s'.handed
  later := Nat.le_trans s.later s'.later
  promises t ht := (s'.promises t (Nat.le_trans ht s.later)).trans (s.promises t ht)
  unwatched := s'.unwatched.trans s.unwatched

/-- Whoever is known stays known. -/
theorem knows (s : Handing b b') (k : b.probe.Knows b.kept c) : b'.probe.Knows b'.kept c :=
  ⟨Nat.le_trans k.ticket s.later, (s.promises c.ticket k.ticket).trans k.kind⟩

end Handing

/-- What is idle changes nothing of what was seen or given. -/
theorem History.Since.seen {h h' : History} (hs : h.Since Entry.isIdle h') :
    h'.callbacks = h.callbacks ∧ h'.settlements = h.settlements ∧ h'.replies = h.replies := by
  refine hs.keeps (P := fun h' => h'.callbacks = h.callbacks ∧ h'.settlements = h.settlements
    ∧ h'.replies = h.replies) ⟨rfl, rfl, rfl⟩ ?_
  rintro n earlier idle ⟨called, settled, replied⟩
  obtain ⟨called', settled', replied'⟩ := seen_cons_of_isIdle idle earlier
  exact ⟨called'.trans called, settled'.trans settled, replied'.trans replied⟩

/-- **What has nothing to do with callers leaves their books alone.** -/
theorem Handed.idle (x : Handed b) (callers : b'.probe.callers = b.probe.callers)
    (journal : b.annals.Since Entry.isIdle b'.annals) : Handing b b' := by
  obtain ⟨waiting, last, unsettled, unwatched, unseen⟩ : b'.probe.waiting = b.probe.waiting
      ∧ b'.probe.lastTicket = b.probe.lastTicket ∧ b'.probe.unsettled = b.probe.unsettled
      ∧ b'.probe.unwatched = b.probe.unwatched ∧ b'.probe.unseen = b.probe.unseen := by
    simpa only [Probe.callers, Prod.mk.injEq] using callers
  obtain ⟨called, settled, replied⟩ := journal.seen
  have kept : b'.kept = b.kept := by rw [Bench.kept, Bench.kept, settled, unseen]
  refine ⟨⟨?_, ?_, ?_⟩, Nat.le_of_eq last.symm, fun t _ => ?_, unwatched⟩
  · rw [kept, called, replied]
    exact x.balances.congr callers
  · exact x.earned.since journal fun n earlier idle => (earned_of_isIdle idle earlier).1
  · exact x.founded.since journal fun n earlier idle => (earned_of_isIdle idle earlier).2
  · rw [kept, Probe.promises, Probe.promises, unsettled]

namespace Hands

instance : Tolerant Hands where
  refl _ x := .refl x
  trans s s' x := (s x).trans (s' (s x).handed)
  aside s x := x.idle s.callers (s.journal.mono fun _ => Entry.isIdle_of_isIncidental)

/-- Listeners may be told something, and may fail. -/
instance : Custom Hands where
  broadcast C fresh := Observed.broadcast_of_free C fresh
    (fun _ _ x => x.idle rfl (.refl _ _))
    fun _ _ _ _ x => x.idle rfl ((History.Since.refl _ _).cons rfl)

end Hands

/-! ### Settling promises -/

/-- A bench with another memory of its probe. -/
def Bench.put (b : Bench) (p : Probe) : Bench := { b with probe := p }

/-- A bench on which a promise has been settled, unless that had been done before. -/
def Bench.settle (b : Bench) (c : Caller) (outcome : Except Fault (Option Bool)) : Bench :=
  if c.ticket ∈ b.probe.unsettled then
    if c.ticket ∈ b.probe.unwatched then
      b.put ((b.probe.settled c.ticket).hidden c.ticket outcome)
    else noted (b.put (b.probe.settled c.ticket)) (.settled c.ticket c.name outcome)
  else b

/-- A bench on which a promise can be watched: whoever watches it sees at once how it was
settled. -/
def Bench.watch (b : Bench) (c : Caller) : Bench :=
  match b.probe.unseen.lookup c.ticket with
  | some outcome =>
    noted (b.put (b.probe.watching c.ticket)) (.settled c.ticket c.name outcome)
  | none => b.put (b.probe.watching c.ticket)

theorem exec_settle (c : Caller) (outcome : Except Fault (Option Bool)) (b : Bench) :
    exec (Probe.settle c outcome) b = (.ok (), b.settle c outcome) := by
  rw [Probe.settle, exec_bind_of_ok (exec_getProbe b), Bench.settle]
  split
  · rw [exec_bind_of_ok (exec_modifyProbe _ b), exec_bind_of_ok (exec_getProbe _)]
    split <;> rfl
  · rfl

theorem exec_watch (c : Caller) (b : Bench) :
    exec (Probe.watch c) b = (.ok (), b.watch c) := by
  rw [Probe.watch, exec_bind_of_ok (exec_getProbe b), exec_bind_of_ok (exec_modifyProbe _ b),
    Bench.watch]
  cases b.probe.unseen.lookup c.ticket <;> rfl

/-- A promise that is seen to be settled is settled. -/
theorem Bench.kept_noted_settled (b : Bench) (ticket : Nat) (name : String)
    (outcome : Except Fault (Option Bool)) :
    (noted b (.settled ticket name outcome)).kept.Perm ((ticket, outcome) :: b.kept) := by
  have settled := (seen_cons_settled b.clock.now ticket name outcome b.annals).2.1
  refine (List.Perm.of_eq (congrArg (· ++ b.probe.unseen) settled)).trans ?_
  exact (List.perm_append_comm.append_right _).trans (.of_eq (List.append_assoc ..))

/-- Settling a promise makes none. -/
theorem Bench.promises_settle (b : Bench) (c : Caller) (outcome : Except Fault (Option Bool)) :
    ((b.settle c outcome).probe.promises (b.settle c outcome).kept).Perm
      (b.probe.promises b.kept) := by
  have all {p : Probe} {kept : Outcomes} (unsettled : c.ticket ∈ b.probe.unsettled)
      (same : p.unsettled = b.probe.unsettled.erase c.ticket)
      (perm : kept.Perm ((c.ticket, outcome) :: b.kept)) :
      (p.promises kept).Perm (b.probe.promises b.kept) := by
    refine .trans ?_ (Balances.promises_settle _ outcome unsettled)
    rw [Probe.promises, same]
    exact (perm.map _).append_right _
  rw [Bench.settle]
  split
  · rename_i unsettled
    split
    · exact all unsettled rfl List.perm_middle
    · exact all unsettled rfl ((b.put _).kept_noted_settled ..)
  · exact .refl _

theorem Bench.callers_settle (b : Bench) (c : Caller) (outcome : Except Fault (Option Bool)) :
    (b.settle c outcome).probe.lastTicket = b.probe.lastTicket
      ∧ (b.settle c outcome).probe.unwatched = b.probe.unwatched := by
  rw [Bench.settle]
  split
  · split <;> exact ⟨rfl, rfl⟩
  · exact ⟨rfl, rfl⟩

/-- What is looked up in a list without repetitions and what is left are the list. The induction is on
the list. -/
theorem lookup_append_filter_perm {β : Type} {l : List (Nat × β)} (distinct : (l.map (·.1)).Nodup)
    (ticket : Nat) :
    (((l.lookup ticket).map (ticket, ·)).toList ++ l.filter (·.1 != ticket)).Perm l := by
  induction l with
  | nil => exact .nil
  | cons first l ih =>
    obtain ⟨own, value⟩ := first
    obtain ⟨fresh, others⟩ := List.nodup_cons.mp distinct
    by_cases same : ticket = own
    · subst same
      have all : l.filter (·.1 != ticket) = l := by
        refine List.filter_eq_self.mpr fun s hs => bne_iff_ne.mpr fun e => fresh ?_
        exact List.mem_map.mpr ⟨s, hs, e⟩
      simp [all]
    · have other : (ticket == own) = false := beq_false_of_ne same
      have kept : (own != ticket) = true := bne_iff_ne.mpr (Ne.symm same)
      rw [List.lookup_cons, other, List.filter_cons, if_pos kept]
      exact List.perm_middle.trans ((ih others).cons _)

/-- **A promise can be watched from now on**, and nothing else happens to callers. -/
structure Closing (c : Caller) (b b' : Bench) : Prop where
  /-- What callers get is what they are given. -/
  handed : Handed b'
  /-- No ticket is given out. -/
  last : b'.probe.lastTicket = b.probe.lastTicket
  /-- No promise is made. -/
  promises : (b'.probe.promises b'.kept).Perm (b.probe.promises b.kept)
  /-- The promise can be watched. -/
  unwatched : b'.probe.unwatched = b.probe.unwatched.erase c.ticket

namespace Handed

/-- No promise is settled twice without being seen. -/
theorem distinct_unseen (x : Handed b) : (b.probe.unseen.map (·.1)).Nodup := by
  have settled := (List.nodup_append.mp x.balances.once).1
  rw [Bench.kept, List.map_append] at settled
  exact (List.nodup_append.mp settled).2.1

/-- Nothing is lost when a promise can be watched. -/
theorem kept_watch (x : Handed b) (c : Caller) : (b.watch c).kept.Perm b.kept := by
  have perm := (lookup_append_filter_perm x.distinct_unseen c.ticket).append_left
    b.annals.settlements
  rw [Bench.watch]
  cases found : b.probe.unseen.lookup c.ticket with
  | none =>
    rw [found] at perm
    exact perm
  | some outcome =>
    rw [found] at perm
    refine .trans (.of_eq ?_) perm
    refine (congrArg (· ++ _) (History.settlements_cons _ b.annals)).trans ?_
    exact List.append_assoc _ _ _

/-- **A promise can be watched from now on**, and how it was settled is seen. -/
theorem watch (x : Handed b) (c : Caller) : Closing c b (b.watch c) := by
  have kept := x.kept_watch c
  have balances := (x.balances.watch c.ticket).perm kept
  have promises := (kept.map (·.1)).append_right b.probe.unsettled
  rw [Bench.watch] at balances promises ⊢
  cases found : b.probe.unseen.lookup c.ticket with
  | none =>
    rw [found] at balances promises
    exact ⟨⟨balances, x.earned, x.founded⟩, rfl, promises, rfl⟩
  | some outcome =>
    rw [found] at balances promises
    obtain ⟨before, after, e, -⟩ := List.lookup_eq_some_iff.mp found
    have hidden : (c.ticket, outcome) ∈ b.probe.unseen :=
      e ▸ List.mem_append_right _ List.mem_cons_self
    obtain ⟨-, near, rfl⟩ := x.balances.unseen _ hidden
    have given := x.balances.right c.ticket near (List.mem_append_right _ hidden)
    obtain ⟨called, -, replied⟩ := seen_cons_settled b.clock.now c.ticket c.name (.ok near) b.annals
    refine ⟨⟨?_, .cons given x.earned, .cons nofun x.founded⟩, rfl, promises, rfl⟩
    exact called ▸ replied ▸ balances

/-- **A promise is given an answer**, and takes it unless it has been settled. -/
theorem settle (x : Handed b) (k : b.probe.Knows b.kept c) (promise : c.reply.isPromise = true)
    (near : Option Bool) :
    Handing b ((noted b (.turned (.replied c.ticket near))).settle c (.ok near)) := by
  let b₁ := noted b (.turned (.replied c.ticket near))
  obtain ⟨called, settled, replied⟩ : b₁.annals.callbacks = b.annals.callbacks
      ∧ b₁.annals.settlements = b.annals.settlements
      ∧ b₁.annals.replies = b.annals.replies ++ [(c.ticket, near)] :=
    seen_cons_replied b.clock.now c.ticket near b.annals
  have kept : b₁.kept = b.kept := congrArg (· ++ b.probe.unseen) settled
  have promises := b₁.promises_settle c (.ok near)
  rw [kept] at promises
  obtain ⟨last, unwatched⟩ := b₁.callers_settle c (.ok near)
  have given : (c.ticket, near) ∈ b₁.annals.replies :=
    replied ▸ List.mem_append_right _ (List.mem_singleton_self _)
  have earned : b₁.annals.Always Earned := .cons trivial x.earned
  have founded : b₁.annals.Always Founded := .cons nofun x.founded
  refine ⟨?_, Nat.le_of_eq last.symm, fun t _ => promises.mem_iff, unwatched⟩
  rw [Bench.settle]
  split
  · rename_i unsettled
    have balances : Balances (b.probe.settled c.ticket) ((c.ticket, .ok near) :: b.kept)
        b₁.annals.callbacks b₁.annals.replies := by
      rw [called, replied]
      refine x.balances.settle unsettled (List.sublist_append_left _ _) (fun a ha => ?_) ?_
      · exact (List.mem_append.mp ha).imp_right fun ha => by rw [List.mem_singleton.mp ha]
      · intro near' e
        cases e
        exact replied ▸ given
    split
    · rename_i hidden
      refine ⟨?_, earned, founded⟩
      exact (balances.hide hidden near).perm (kept ▸ List.perm_middle)
    · refine ⟨?_, .cons given earned, .cons nofun founded⟩
      obtain ⟨called', -, replied'⟩ :=
        seen_cons_settled b.clock.now c.ticket c.name (.ok near) b₁.annals
      have seen := balances.perm (kept ▸ (b₁.put (b₁.probe.settled c.ticket)).kept_noted_settled
        c.ticket c.name (.ok near))
      exact called' ▸ replied' ▸ seen
  · rename_i settled
    refine ⟨?_, earned, founded⟩
    rw [called, replied, kept]
    exact x.balances.ignore k promise settled

/-- **A callback is called** when it has been given an answer. -/
theorem callBack (x : Handed b) (k : b.probe.Knows b.kept c)
    (callback : c.reply.isPromise = false) (near : Option Bool) :
    Handing b (noted (noted b (.turned (.replied c.ticket near)))
      (.answered c.ticket c.name near)) := by
  let b₁ := noted b (.turned (.replied c.ticket near))
  let b₂ := noted b₁ (.answered c.ticket c.name near)
  obtain ⟨called, settled, replied⟩ : b₁.annals.callbacks = b.annals.callbacks
      ∧ b₁.annals.settlements = b.annals.settlements
      ∧ b₁.annals.replies = b.annals.replies ++ [(c.ticket, near)] :=
    seen_cons_replied b.clock.now c.ticket near b.annals
  obtain ⟨called', settled', replied'⟩ : b₂.annals.callbacks
        = b₁.annals.callbacks ++ [(c.ticket, near)]
      ∧ b₂.annals.settlements = b₁.annals.settlements ∧ b₂.annals.replies = b₁.annals.replies :=
    seen_cons_answered b.clock.now c.ticket c.name near b₁.annals
  have kept : b₂.kept = b.kept := congrArg (· ++ b.probe.unseen) (settled'.trans settled)
  refine ⟨⟨?_, ?_, ?_⟩, Nat.le_refl _, fun t _ => ?_, rfl⟩
  · rw [called', replied', called, replied, kept]
    exact x.balances.callBack k callback
  · exact .cons ⟨_, _, rfl⟩ (.cons trivial x.earned)
  · exact .cons nofun (.cons nofun x.founded)
  · rw [kept]
    exact Iff.rfl

/-- **A promise takes a fault**, if it has not been settled, and can be watched from now on. -/
theorem reject (x : Handed b) (c : Caller) (fault : Fault)
    (unwatched : c.ticket ∈ b.probe.unwatched) :
    Closing c b ((b.settle c (.error fault)).watch c) := by
  by_cases unsettled : c.ticket ∈ b.probe.unsettled
  · let p := (b.probe.settled c.ticket).watching c.ticket
    -- That it is settled is seen when the promise can be watched.
    have seen : (b.settle c (.error fault)).watch c
        = noted (b.put p) (.settled c.ticket c.name (.error fault)) := by
      rw [Bench.settle, if_pos unsettled, if_pos unwatched]
      simp [Bench.watch, Bench.put, p, Probe.hidden, Probe.watching]
    have others : b.probe.unseen.filter (·.1 != c.ticket) = b.probe.unseen := by
      refine List.filter_eq_self.mpr fun s hs => bne_iff_ne.mpr fun e => ?_
      have settled : s.1 ∈ b.kept.map (·.1) := List.mem_map_of_mem (List.mem_append_right _ hs)
      exact (List.nodup_append.mp x.balances.once).2.2 _ settled _ unsettled e
    have kept : (b.put p).kept = b.kept := congrArg (b.annals.settlements ++ ·) others
    have perm := (b.put p).kept_noted_settled c.ticket c.name (.error fault)
    rw [kept] at perm
    have balances := ((x.balances.settle unsettled (.refl _) (fun _ => .inl)
      fun _ e => by cases e).watch c.ticket).perm perm
    obtain ⟨called, -, replied⟩ :=
      seen_cons_settled b.clock.now c.ticket c.name (.error fault) b.annals
    rw [seen]
    refine ⟨⟨called ▸ replied ▸ balances, ?_, .cons nofun x.founded⟩, rfl, ?_, rfl⟩
    · exact .cons (fun _ => x.balances.not_given unsettled) x.earned
    · refine .trans ?_ (Balances.promises_settle _ (.error fault) unsettled)
      exact (perm.map _).append_right _
  · have same : b.settle c (.error fault) = b := if_neg unsettled
    rw [same]
    exact x.watch c

end Handed

/-! ### What the probe does -/

namespace Handed

/-- **There is an answer**, for which there is a reason. -/
theorem resolve (x : Handed b) {tickets : List Nat}
    (founded : Founded ⟨b.clock.now, .turned (.resolved tickets near)⟩ b.annals) :
    Handing b (noted b (.turned (.resolved tickets near))) := by
  let b₁ := noted b (.turned (.resolved tickets near))
  obtain ⟨called, settled, replied⟩ : b₁.annals.callbacks = b.annals.callbacks
      ∧ b₁.annals.settlements = b.annals.settlements ∧ b₁.annals.replies = b.annals.replies :=
    seen_cons_resolved b.clock.now near b.annals tickets
  have kept : b₁.kept = b.kept := congrArg (· ++ b.probe.unseen) settled
  refine ⟨⟨?_, .cons trivial x.earned, .cons founded x.founded⟩, Nat.le_refl _, fun t _ => ?_, rfl⟩
  · rw [called, replied, kept]
    exact x.balances
  · rw [kept]
    exact Iff.rfl

variable (C : call.Observes Hands)
include C

/-- **Somebody who is known is given an answer.** -/
theorem answer (x : Handed b) (k : b.probe.Knows b.kept c) (near : Option Bool) :
    Handing b (after (Probe.answer call near c) b) := by
  rw [after, Probe.answer, Bench.turn, exec_bind_of_ok (exec_note _ b)]
  cases kind : c.reply with
  | promise =>
    rw [exec_settle]
    exact x.settle k (by rw [kind]; rfl) near
  | callback script =>
    have s := x.callBack k (by rw [kind]; rfl) near
    rw [exec_bind_of_ok (exec_note _ _)]
    refine s.trans (Observed.after_tryCatch (R := Hands) (C _ _ ⟨_, _, rfl⟩) ?_ s.handed)
    intro fault b₁ _ r
    exact Tolerant.trans r (Observed.bind (Observed.turn rfl) (fun _ => .throw fault) b₁)

/-- All of some who are known are given an answer. The induction is on them. -/
theorem answers (x : Handed b) (waiting : List Caller)
    (known : ∀ c ∈ waiting, b.probe.Knows b.kept c) (near : Option Bool) :
    Handing b (after (waiting.forM fun c => Probe.answer call near c) b) := by
  induction waiting generalizing b with
  | nil => exact .refl x
  | cons c waiting ih =>
    rw [forM_cons]
    refine Observed.after_bind (x.answer C (known c List.mem_cons_self) near) fun _ b₁ _ s => ?_
    exact s.trans (ih s.handed fun c' hc => s.knows (known c' (List.mem_cons_of_mem c hc)))

/-- **All who wait are given an answer**, for which there is a reason. -/
theorem answerAll (x : Handed b) (founded : ∀ tickets,
      Founded ⟨b.clock.now, .turned (.resolved tickets near)⟩ b.annals) :
    Handing b (after (Probe.answerAll call near) b) := by
  let b₁ := noted b (.turned (.resolved (b.probe.waiting.map (·.ticket)) near))
  let b₂ := b₁.put { b₁.probe with waiting := [] }
  have s : Handing b b₁ := x.resolve (founded _)
  have s' : Handing b₁ b₂ := ⟨⟨s.handed.balances.dismiss, s.handed.earned, s.handed.founded⟩,
    Nat.le_refl _, fun _ _ => Iff.rfl, rfl⟩
  have same : after (Probe.answerAll call near) b
      = after (Probe.finish call >>= fun _ => b.probe.waiting.forM fun c =>
          Probe.answer call near c) b₂ := rfl
  rw [same]
  refine (s.trans s').trans (Observed.after_bind ?_ fun _ b₃ _ s₃ => ?_)
  · exact Observed.finish C b₂ s'.handed
  · refine s₃.trans (s₃.handed.answers C _ (fun c hc => ?_) near)
    exact ((s.trans s').trans s₃).knows (x.balances.waiting c hc)

omit C in
/-- To ask whether the target is there changes nothing. -/
theorem after_targetAvailable (b : Bench) : after Target.isAvailable b = b := by
  rw [after, Target.isAvailable, exec_bind_of_ok (exec_get b)]
  cases target : b.target with
  | fusion | sensor => rfl
  | timers | nothing =>
    rw [Target.refuse, exec_bind_of_ok (exec_get b), target]
    rfl

/-- **Somebody asks** who is known, and whose question has just been noted. -/
theorem ask (x : Handed b) (k : b.probe.Knows b.kept c)
    (asked : ∃ timeout, b.annals.cause = some (.turned (.asked c.ticket timeout)))
    (timeout : Number) : Handing b (after (Probe.ask call timeout c) b) := by
  refine Observed.after_bind ((after_targetAvailable b).symm ▸ .refl x) fun available b₁ e _ => ?_
  obtain rfl : b = b₁ := (after_targetAvailable b).symm.trans (congrArg Prod.snd e)
  cases available with
  | false =>
    obtain ⟨_, cause⟩ := asked
    have s : Handing b (noted b (.turned (.resolved [c.ticket] none))) :=
      x.resolve fun tickets near e => by
        cases e
        exact .inr ⟨_, _, rfl, cause⟩
    exact s.trans (s.handed.answer C (s.knows k) none)
  | true =>
    let b₁ := b.put { b.probe with waiting := b.probe.waiting ++ [c] }
    have s : Handing b b₁ := ⟨⟨x.balances.enqueue k, x.earned, x.founded⟩, Nat.le_refl _,
      fun _ _ => Iff.rfl, rfl⟩
    have rest := Observed.bind (R := Hands) Observed.getProbe fun p =>
      Observed.ite (p := (!p.checking) = true) (Observed.openCheck C timeout) (Observed.pure ())
    exact s.trans (rest b₁ s.handed)

/-- **Somebody asks with a callback**, under the next number, which is then that of no promise. -/
theorem check (x : Handed b) (name : String) (timeout : Number) (script : List Step) :
    Handing b (after (Probe.check call name timeout script) b)
      ∧ b.probe.lastTicket < (after (Probe.check call name timeout script) b).probe.lastTicket
      ∧ b.probe.lastTicket + 1 ∉ (after (Probe.check call name timeout script) b).probe.promises
        (after (Probe.check call name timeout script) b).kept := by
  let b₁ := b.put { b.probe with lastTicket := b.probe.lastTicket + 1 }
  let b₂ := noted b₁ (.turned (.asked (b.probe.lastTicket + 1) timeout))
  have s : Handing b b₁ := ⟨⟨x.balances.number, x.earned, x.founded⟩, Nat.le_succ _,
    fun _ _ => Iff.rfl, rfl⟩
  have s' : Handing b₁ b₂ := s.handed.idle rfl ((History.Since.refl _ _).cons rfl)
  have apart : b.probe.lastTicket + 1 ∉ b₁.probe.promises b₁.kept := fun mem =>
    absurd (x.balances.numbered _ mem).2 (Nat.not_succ_le_self _)
  have known : b₁.probe.Knows b₁.kept ⟨b.probe.lastTicket + 1, name, .callback script⟩ :=
    ⟨Nat.le_refl _, fun mem => absurd mem apart, fun promise => by cases promise⟩
  have asked : Handing b₁ (after (Probe.check call name timeout script) b) :=
    s'.trans (s'.handed.ask C (s'.knows known) ⟨timeout, rfl⟩ timeout)
  exact ⟨s.trans asked, asked.later, mt (asked.promises _ (Nat.le_refl _)).mp apart⟩

omit C in
/-- **A call that asks with a promise comes back**: the promise takes the fault if asking failed, and
then can be watched. -/
theorem closes {timeout : Number} (hidden : c.ticket ∈ b.probe.unwatched)
    (asked : Handing b (after (Probe.ask call timeout c) b)) :
    ∃ b', Handing b b' ∧ Closing c b' (after (tryCatch (Probe.ask call timeout c)
      (fun fault => Probe.settle c (.error fault)) >>= fun _ => Probe.watch c) b) := by
  rcases e : exec (Probe.ask call timeout c) b with ⟨fault | _, b'⟩
  all_goals
    have left : after (Probe.ask call timeout c) b = b' := congrArg Prod.snd e
    rw [left] at asked
    refine ⟨b', asked, ?_⟩
  · have caught : exec (tryCatch (Probe.ask call timeout c) fun fault =>
        Probe.settle c (.error fault)) b = (.ok (), b'.settle c (.error fault)) := by
      rw [exec_tryCatch, e]
      exact exec_settle ..
    rw [after, exec_bind_of_ok caught, exec_watch]
    exact asked.handed.reject c fault (asked.unwatched ▸ hidden)
  · have caught : exec (tryCatch (Probe.ask call timeout c) fun fault =>
        Probe.settle c (.error fault)) b = (.ok (), b') := by
      rw [exec_tryCatch, e]
    rw [after, exec_bind_of_ok caught, exec_watch]
    exact asked.handed.watch c

/-- **Somebody asks with a promise**, under the next number. The promise takes a fault if asking
fails. -/
theorem query (x : Handed b) (name : String) (patience : Option Number) :
    Handing b (after (Probe.query call name patience) b)
      ∧ b.probe.lastTicket < (after (Probe.query call name patience) b).probe.lastTicket
      ∧ b.probe.lastTicket + 1 ∈ (after (Probe.query call name patience) b).probe.promises
        (after (Probe.query call name patience) b).kept := by
  let ticket := b.probe.lastTicket + 1
  let c : Caller := ⟨ticket, name, .promise⟩
  let timeout := patience.getD b.probe.timeout
  let b₁ := b.put { b.probe with
    lastTicket := ticket
    unsettled := b.probe.unsettled ++ [ticket]
    unwatched := b.probe.unwatched ++ [ticket] }
  let b₂ := noted b₁ (.turned (.asked ticket timeout))
  have s : Handing b₁ b₂ := Handed.idle ⟨x.balances.promise, x.earned, x.founded⟩ rfl
    ((History.Since.refl _ _).cons rfl)
  have promises : b₁.probe.promises b₁.kept = b.probe.promises b.kept ++ [ticket] :=
    (List.append_assoc ..).symm
  have known : b₁.probe.Knows b₁.kept c := by
    refine ⟨Nat.le_refl _, iff_of_true ?_ rfl⟩
    rw [promises]
    exact List.mem_append_right _ (List.mem_singleton_self _)
  have asked : Handing b₂ (after (Probe.ask call timeout c) b₂) :=
    s.handed.ask C (s.knows known) ⟨timeout, rfl⟩ timeout
  have start : after (Probe.query call name patience) b
      = after (tryCatch (Probe.ask call timeout c) (fun fault => Probe.settle c (.error fault))
        >>= fun _ => Probe.watch c) b₂ := rfl
  have hidden : c.ticket ∈ b₂.probe.unwatched := List.mem_append_right _ (List.mem_singleton_self _)
  obtain ⟨b₃, s₃, closing⟩ := closes hidden asked
  rw [← start] at closing
  have fresh : ticket ∉ b.probe.unwatched := fun mem =>
    absurd (x.balances.unwatched _ mem) (Nat.not_succ_le_self _)
  have last : ticket ≤ (after (Probe.query call name patience) b).probe.lastTicket := by
    rw [closing.last]
    exact s₃.later
  have promised : ticket ∈ b₂.probe.promises b₂.kept :=
    (s.promises ticket (Nat.le_refl _)).mpr (known.kind.mpr rfl)
  refine ⟨⟨closing.handed, Nat.le_of_lt last, fun t ht => ?_, ?_⟩, last,
    closing.promises.mem_iff.mpr ((s₃.promises ticket (Nat.le_refl _)).mpr promised)⟩
  · have old : t ∈ b₁.probe.promises b₁.kept ↔ t ∈ b.probe.promises b.kept := by
      rw [promises]
      refine List.mem_append.trans (or_iff_left fun new => ?_)
      rw [List.mem_singleton.mp new] at ht
      exact Nat.not_succ_le_self _ ht
    have later : t ≤ b₁.probe.lastTicket := Nat.le_succ_of_le ht
    exact closing.promises.mem_iff.trans ((s₃.promises t later).trans ((s.promises t later).trans old))
  · rw [closing.unwatched, s₃.unwatched]
    exact (List.erase_append_right _ fresh).trans (by simp)

end Handed

/-! ### A custom -/

namespace Hands

variable (C : call.Observes Hands)
include C

/-- A reading that the probe has just been told is a reason for an answer. -/
theorem onReading {r : Reading} (told : Announced b (.listener .probe r)) :
    Hands b (after (Probe.onReading call r) b) := fun x => by
  obtain ⟨time, earlier, latest⟩ := told
  refine x.answerAll C fun tickets _ near e => ?_
  cases e
  rw [Bench.annals, latest]
  exact ⟨r.stamp, rfl⟩

/-- A timer that has just fired is a reason not to know. -/
theorem expire {t : Timer} (task : t.task = .giveUp) : Observed Hands (Timer.fire call t) := by
  intro b x
  let fired := noted { b with clock := (b.clock.remove t.id).reach t.due } (.timerFired t.id)
  let b₁ := { fired with
    clock := fired.clock.disarm t.id
    probe := { fired.probe with timer := none } }
  let count := [("pendingCallbacks", Tree.int b.probe.waiting.length)]
  -- The record that is logged does not hide the timer.
  obtain ⟨b₂, logged, s, cause⟩ : ∃ b₂, exec (Bench.log .debug "proximity-check"
      "Proximity check timed out" count) b₁ = (.ok (), b₂) ∧ Handing b b₂
      ∧ b₂.annals.cause = some (.timerFired t.id) := by
    have s : Handing b b₁ := x.idle rfl ((History.Since.refl _ _).cons rfl)
    refine ⟨_, exec_log .., ?_⟩
    split
    · exact ⟨s.trans (s.handed.idle rfl ((History.Since.refl _ _).cons rfl)), rfl⟩
    · exact ⟨s, rfl⟩
  have start : exec (Timer.fire call t) b = exec (Probe.giveUp call) { b₁ with probe := b.probe } := by
    rw [Timer.fire, exec_bind_of_ok (show exec (Timer.strike t) b = (.ok (), _) from rfl), Timer.run,
      task]
    rfl
  have rest : exec (Timer.fire call t) b = exec (Probe.answerAll call none) b₂ :=
    start.trans (exec_bind_of_ok logged)
  rw [after, rest]
  refine s.trans (s.handed.answerAll C fun tickets _ near e => ?_)
  cases e
  exact .inl ⟨t.id, cause⟩

end Hands

/-- **What callers get is what they are given**, whatever is called. -/
instance : ProbeCustom Hands where
  onReading C told := Hands.onReading C told
  expire C task := Hands.expire C task
  check C name timeout script _ x := (x.check C name timeout script).1
  query C name timeout _ x := (x.query C name timeout).1

/-! ### Sessions -/

/-- The answers that were given are in the history. -/
theorem History.replies_filter (h : History) :
    replies (h.filter (·.entry.isHistoric)) = replies h := by
  induction h with
  | nil => rfl
  | cons n h ih =>
    rw [replies_cons, List.filter_cons]
    split
    · rw [replies_cons, ih]
    · rename_i forgotten
      have none : n.entry.replied? = none := by
        obtain ⟨time, entry⟩ := n
        cases entry with
        | turned t =>
          cases t with
          | replied => exact absurd rfl forgotten
          | _ => rfl
        | _ => rfl
      rw [ih, none]
      exact (List.append_nil _).symm

/-- Nobody has got anything where nothing has happened. -/
theorem Handed.opening (callers : b.probe.callers = ([], 0, [], [], [])) (journal : b.journal = []) :
    Handed b := by
  obtain ⟨waiting, last, unsettled, unwatched, unseen⟩ : b.probe.waiting = []
      ∧ b.probe.lastTicket = 0 ∧ b.probe.unsettled = [] ∧ b.probe.unwatched = []
      ∧ b.probe.unseen = [] := by
    simpa only [Probe.callers, Prod.mk.injEq] using callers
  have annals : b.annals = [] := journal
  have kept : b.kept = [] := by rw [Bench.kept, annals, unseen]; rfl
  have promises : b.probe.promises [] = [] := unsettled
  refine ⟨?_, annals ▸ .nil, annals ▸ .nil⟩
  rw [kept, annals]
  constructor
  all_goals simp [waiting, promises, unwatched, unseen, callbacks, replies, History.gather]

/-- **Between two steps, what callers get is what they are given**, and all of it has been seen. -/
theorem Reached.handed (h : Reached b) : Handed b ∧ b.kept = b.annals.settlements := by
  obtain ⟨s, b₀, bare, hands⟩ := h.observed (R := Hands)
  obtain ⟨sensors, delay, patience, -, rfl⟩ := s.eq_of_bare bare
  obtain ⟨x, -, -, unwatched⟩ := hands (.opening rfl rfl)
  have unwatched : b.probe.unwatched = [] := unwatched
  have unseen : b.probe.unseen = [] := List.eq_nil_iff_forall_not_mem.mpr fun s hs => by
    have hidden := (x.balances.unseen s hs).1
    rw [unwatched] at hidden
    exact absurd hidden List.not_mem_nil
  refine ⟨x, ?_⟩
  rw [Bench.kept, unseen, List.append_nil]

/-- **Between two steps, the books balance** that can be seen from outside. -/
theorem Reached.balances (h : Reached b) :
    Balances b.probe b.annals.settlements b.annals.callbacks b.annals.replies := by
  obtain ⟨x, kept⟩ := h.handed
  exact kept ▸ x.balances

end Proximity
