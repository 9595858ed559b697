import Mathlib.Data.List.Pairwise
import Proximity.Proofs.Answers
import Proximity.Proofs.Dealing
import Proximity.Proofs.Recheck

/-!
# Callers that fail

When there is an answer, it is given to those who wait one after the other, and the first of
them whose callback fails is the last one to be given it: the callbacks are called in a loop
that nothing guards, and the failure leaves that loop. So a batch of callers, of whom any may
fail, is *served* up to the first who does (`Proximity.served`).

The main statement is `Proximity.served_until_failure`, about all histories in which no call
comes from another thread. A callback may ask again, and have others answered while the rest of
its own batch waits to be served. What is called from inside a round of answers therefore has
to be known to leave that round alone. This is a matter of tickets: whatever is called answers
no ticket that was settled before, and serves all batches that it comes to
(`Proximity.Serving`). Given that, a round is a matter of its own callers
(`Proximity.Underway`).

As for those who do not fail, it is seen whose callbacks were called and whose promises settled
(`Proximity.History.HandedOver`), and a round is dealt out in the same way whether somebody is going
to fail or not (`Proximity.Bench.DealsOut`).
-/

namespace Proximity

open Act Session History

/-! ### Failures in a history -/

/-- Whose callback failed by an entry. -/
def Entry.failed? : Entry → Option Nat
  | .turned (.balked ticket) => some ticket
  | _ => none

/-- Who is given an answer by an entry, or has failed at it. -/
def Entry.answered? : Entry → Option Nat
  | .turned (.replied ticket _) | .turned (.balked ticket) => some ticket
  | _ => none

/-- Whether nobody is given an answer by an entry, nor has failed at it. -/
def Entry.isUnanswered (entry : Entry) : Bool := entry.answered?.isNone

/-- Whether an entry answers none of some tickets. -/
def Entry.passes (tickets : List Nat) (entry : Entry) : Bool :=
  entry.answered?.all fun ticket => decide (ticket ∉ tickets)

/-- Those whose callback failed. -/
def History.failures (h : History) : List Nat := h.filterMap (·.entry.failed?)

/-- **Who of a batch is served**, when some fail: all up to the first who fails. -/
def served (failed : List Nat) : List Nat → List Nat
  | [] => []
  | ticket :: rest => if ticket ∈ failed then [ticket] else ticket :: served failed rest

/-- Those of a batch who are served have been given its answer, in their order, and nobody else
of it has been given any. -/
def History.Settled (h : History) (tickets : List Nat) (near : Option Bool) : Prop :=
  h.replies.filter (·.1 ∈ tickets) = (served h.failures tickets).map (·, near)

theorem Entry.isUnanswered_of_isPlain {entry : Entry} (h : entry.isPlain = true) :
    entry.isUnanswered = true := by
  cases entry with
  | turned t =>
    cases t with
    | replied | balked => cases h
    | _ => rfl
  | _ => rfl

theorem Entry.passes_of_isUnanswered {entry : Entry} (h : entry.isUnanswered = true)
    (tickets : List Nat) : entry.passes tickets = true := by
  rw [passes, Option.isNone_iff_eq_none.mp h]
  rfl

theorem Entry.passes_mono {entry : Entry} {tickets tickets' : List Nat}
    (h : entry.passes tickets = true) (sub : tickets' ⊆ tickets) : entry.passes tickets' = true := by
  rw [passes] at h ⊢
  cases e : entry.answered? with
  | none => rfl
  | some ticket =>
    rw [e] at h
    exact decide_eq_true fun ht => of_decide_eq_true h (sub ht)

variable {failed failed' tickets tickets' done rest : List Nat} {ticket : Nat}
variable {near : Option Bool} {time : Number} {h h' h'' : History} {n : Note}

theorem served_congr (same : ∀ t ∈ tickets, t ∈ failed ↔ t ∈ failed') :
    served failed tickets = served failed' tickets := by
  induction tickets with
  | nil => rfl
  | cons t tickets ih =>
    have first := same t List.mem_cons_self
    rw [served, served, ih fun t' ht => same t' (List.mem_cons_of_mem t ht)]
    simp only [first]

/-- Where nobody fails, all are served. -/
theorem served_of_sound (sound : ∀ t ∈ tickets, t ∉ failed) : served failed tickets = tickets := by
  induction tickets with
  | nil => rfl
  | cons t tickets ih =>
    rw [served, if_neg (sound t List.mem_cons_self),
      ih fun t' ht => sound t' (List.mem_cons_of_mem t ht)]

/-- Nobody is served after the first who fails. -/
theorem served_append_failed (sound : ∀ t ∈ done, t ∉ failed) (fails : ticket ∈ failed) :
    served failed (done ++ ticket :: rest) = done ++ [ticket] := by
  induction done with
  | nil => exact if_pos fails
  | cons t done ih =>
    rw [List.cons_append, served, if_neg (sound t List.mem_cons_self),
      ih fun t' ht => sound t' (List.mem_cons_of_mem t ht)]
    rfl

/-- Those who are served are some of the batch, in their order. -/
theorem served_sublist (failed tickets : List Nat) : (served failed tickets).Sublist tickets := by
  induction tickets with
  | nil => exact .slnil
  | cons t tickets ih =>
    rw [served]
    split
    · exact (List.nil_sublist tickets).cons_cons t
    · exact ih.cons_cons t

namespace History

/-- What passes some tickets gives them no answer, and none of them fails. -/
theorem answers_cons_of_passes (hn : n.entry.passes tickets = true) (h : History) :
    (replies (n :: h)).filter (·.1 ∈ tickets) = (replies h).filter (·.1 ∈ tickets)
      ∧ ∀ t ∈ tickets, t ∈ failures (n :: h) ↔ t ∈ failures h := by
  rcases n with ⟨time, entry⟩
  cases entry with
  | turned t =>
    cases t with
    | replied ticket near =>
      have stranger : ticket ∉ tickets := of_decide_eq_true hn
      have none : [(ticket, near)].filter (·.1 ∈ tickets) = [] :=
        filter_strangers fun p hp => by rwa [List.mem_singleton.mp hp]
      refine ⟨?_, fun t _ => Iff.rfl⟩
      rw [replies, List.filter_append, none, List.append_nil]
    | balked ticket =>
      have stranger : ticket ∉ tickets := of_decide_eq_true hn
      refine ⟨rfl, fun t ht => ?_⟩
      refine List.mem_cons.trans (or_iff_right ?_)
      rintro rfl
      exact stranger ht
    | _ => exact ⟨rfl, fun t _ => Iff.rfl⟩
  | _ => exact ⟨rfl, fun t _ => Iff.rfl⟩

theorem Since.answers (hs : h.Since (Entry.passes tickets) h') :
    h'.replies.filter (·.1 ∈ tickets) = h.replies.filter (·.1 ∈ tickets)
      ∧ ∀ t ∈ tickets, t ∈ h'.failures ↔ t ∈ h.failures := by
  refine hs.keeps (P := fun h' => h'.replies.filter (·.1 ∈ tickets)
      = h.replies.filter (·.1 ∈ tickets) ∧ ∀ t ∈ tickets, t ∈ h'.failures ↔ t ∈ h.failures)
    ⟨rfl, fun _ _ => Iff.rfl⟩ ?_
  rintro n earlier hn ⟨replies, failures⟩
  obtain ⟨replies', failures'⟩ := answers_cons_of_passes hn earlier
  exact ⟨replies'.trans replies, fun t ht => (failures' t ht).trans (failures t ht)⟩

/-- A batch that has been served stays so when others are answered. -/
theorem Settled.since (hh : h.Settled tickets near) (hs : h.Since (Entry.passes tickets) h') :
    h'.Settled tickets near := by
  obtain ⟨replies, failures⟩ := hs.answers
  rw [History.Settled, replies, served_congr failures]
  exact hh

theorem batches_append (new h : History) : batches (new ++ h) = batches h ++ batches new := by
  induction new with
  | nil => exact (List.append_nil _).symm
  | cons n new ih =>
    rw [List.cons_append, batches, batches]
    split
    · rw [ih, List.append_assoc]
    · exact ih

/-- Who was to be answered once was to be answered. -/
theorem resolved_subset (hs : h <:+ h') : h.resolved ⊆ h'.resolved := by
  obtain ⟨new, rfl⟩ := hs
  rw [resolved, resolved, batches_append, List.flatMap_append]
  exact List.subset_append_left _ _

theorem subset_resolved (hb : (tickets, near) ∈ h.batches) : tickets ⊆ h.resolved :=
  fun _ ht => List.mem_flatMap.mpr ⟨_, hb, ht⟩

/-- Nobody belongs to two batches. -/
theorem eq_of_mem_batches (distinct : h.resolved.Nodup) {B B' : List Nat × Option Bool}
    (hb : B ∈ h.batches) (hb' : B' ∈ h.batches) (ht : ticket ∈ B.1) (ht' : ticket ∈ B'.1) :
    B = B' := by
  obtain ⟨-, apart⟩ := List.nodup_flatMap.mp distinct
  have symm : Std.Symm (Function.onFun List.Disjoint fun B : List Nat × Option Bool => B.1) :=
    ⟨fun _ _ hd _ hx hx' => hd hx' hx⟩
  by_contra different
  exact apart.forall hb hb' different ht ht'

/-- Whoever was given an answer was given it by some entry. -/
theorem exists_of_mem_replies (ht : (ticket, near) ∈ h.replies) :
    ∃ n ∈ h, n.entry.answered? = some ticket := by
  induction h with
  | nil => cases ht
  | cons n h ih =>
    have old : (ticket, near) ∈ replies h → ∃ m ∈ n :: h, m.entry.answered? = some ticket := by
      intro ht
      obtain ⟨m, hm, e⟩ := ih ht
      exact ⟨m, List.mem_cons_of_mem n hm, e⟩
    rw [replies] at ht
    split at ht
    · rename_i e
      rcases List.mem_append.mp ht with ht | ht
      · exact old ht
      · cases List.mem_singleton.mp ht
        exact ⟨n, List.mem_cons_self, by rw [e]; rfl⟩
    · exact old ht

/-- Whoever failed did so by some entry. -/
theorem exists_of_mem_failures (ht : ticket ∈ h.failures) :
    ∃ n ∈ h, n.entry.answered? = some ticket := by
  obtain ⟨n, hn, e⟩ := List.mem_filterMap.mp ht
  refine ⟨n, hn, ?_⟩
  rcases n with ⟨time, entry⟩
  cases entry with
  | turned t =>
    cases t with
    | balked => exact e
    | _ => cases e
  | _ => cases e

end History

/-! ### The books -/

/-- **The books of a probe** whose callers may fail: how many questions there were, and who
waits. -/
structure Filed (h : History) (last : Nat) (waiting : List Nat) : Prop where
  /-- Tickets are given out one by one. -/
  tickets : h.asked = List.range' 1 last
  /-- Whoever asked was to be answered or waits, in the order of asking. -/
  asked : h.asked = h.resolved ++ waiting
  /-- Whoever was given an answer was to be answered. -/
  answered : ∀ n ∈ h, ∀ ticket, n.entry.answered? = some ticket → ticket ∈ h.resolved

namespace Filed

variable {last : Nat} {waiting : List Nat}

theorem distinct (f : Filed h last waiting) : (h.resolved ++ waiting).Nodup :=
  f.asked ▸ f.tickets ▸ List.nodup_range'

/-- What is spare and gives no answers leaves the books as they are. -/
theorem since (f : Filed h last waiting) (hs : h.Since Entry.isSpare h')
    (hu : h.Since Entry.isUnanswered h') : Filed h' last waiting := by
  obtain ⟨asked, batches, -⟩ := hs.books
  have resolved : h'.resolved = h.resolved := by rw [History.resolved, batches, History.resolved]
  refine ⟨asked.trans f.tickets, by rw [asked, resolved, f.asked], ?_⟩
  rw [resolved]
  refine hu.keeps (P := fun h' => ∀ n ∈ h', ∀ ticket, n.entry.answered? = some ticket →
    ticket ∈ h.resolved) f.answered fun n earlier hn ih m hm ticket e => ?_
  rcases List.mem_cons.mp hm with rfl | hm
  · rw [Entry.isUnanswered, e] at hn
    cases hn
  · exact ih m hm ticket e

/-- A question goes into the books. -/
theorem ask (f : Filed h last waiting) (time timeout : Number) :
    Filed (⟨time, .turned (.asked (last + 1) timeout)⟩ :: h) (last + 1) (waiting ++ [last + 1]) where
  tickets := by
    rw [History.asked, f.tickets, List.range'_concat, Nat.one_mul, Nat.add_comm 1 last]
  asked := (congrArg (· ++ [last + 1]) f.asked).trans (List.append_assoc ..)
  answered n hn ticket e := by
    rcases List.mem_cons.mp hn with rfl | hn
    · cases e
    · exact f.answered n hn ticket e

/-- All who wait are to be answered. -/
theorem resolve (f : Filed h last waiting) :
    Filed (⟨time, .turned (.resolved waiting near)⟩ :: h) last [] where
  tickets := f.tickets
  asked := by
    rw [resolved_cons_resolved, List.append_nil]
    exact f.asked
  answered n hn ticket e := by
    rcases List.mem_cons.mp hn with rfl | hn
    · cases e
    · exact resolved_subset (List.suffix_cons _ h) (f.answered n hn ticket e)

/-- Somebody who was to be answered is given an answer, or fails. -/
theorem answer (f : Filed h last waiting) (hn : n.entry.answered? = some ticket)
    (hr : ticket ∈ h.resolved) : Filed (n :: h) last waiting := by
  have answered : ∀ m ∈ n :: h, ∀ ticket, m.entry.answered? = some ticket → ticket ∈ h.resolved := by
    intro m hm ticket' e
    rcases List.mem_cons.mp hm with rfl | hm
    · cases hn.symm.trans e
      exact hr
    · exact f.answered m hm ticket' e
  rcases n with ⟨time, entry⟩
  cases entry with
  | turned t =>
    cases t with
    | replied | balked => exact ⟨f.tickets, f.asked, answered⟩
    | _ => cases hn
  | _ => cases hn

/-- Whose question is settled has asked, and was not to be answered before. -/
theorem asking {v : View} (f : Filed v.history v.lastTicket (v.waiting.map (·.ticket)))
    {earlier : History} (ha : Asking v tickets last earlier) :
    Filed earlier last tickets ∧ earlier.batches = v.history.batches
      ∧ v.history <:+ earlier := by
  cases ha with
  | waited last =>
    subst last
    exact ⟨f, rfl, List.suffix_rfl⟩
  | @declined timeout _ nobody last =>
    subst last
    have asked := f.ask v.clock.now timeout
    rw [nobody] at asked
    exact ⟨asked, rfl, List.suffix_cons _ _⟩

end Filed

/-! ### Batches that are served -/

/-- **All batches but some are served**, and nobody is answered who was to be answered before. -/
structure Orders (but : List (List Nat × Option Bool)) (h h' : History) : Prop where
  /-- Those who were to be answered before are passed. -/
  since : h.Since (Entry.passes h.resolved) h'
  /-- The other batches are served. -/
  settled : ∀ B ∈ h'.batches, B ∈ but ∨ h'.Settled B.1 B.2

namespace Orders

variable {but : List (List Nat × Option Bool)} {B : List Nat × Option Bool}

theorem of_unanswered (hu : h.Since Entry.isUnanswered h') (hb : h'.batches ⊆ but) :
    Orders but h h' :=
  ⟨hu.mono fun _ he => Entry.passes_of_isUnanswered he _, fun _ hB => .inl (hb hB)⟩

theorem trans (o : Orders but h h') (o' : Orders h'.batches h' h'') : Orders but h h'' where
  since := by
    refine o.since.trans (o'.since.mono fun e he => ?_)
    exact Entry.passes_mono he (resolved_subset o.since.suffix)
  settled B hB := by
    rcases o'.settled B hB with old | new
    · refine (o.settled B old).imp_right fun settled => settled.since ?_
      exact o'.since.mono fun e he => Entry.passes_mono he (subset_resolved old)
    · exact .inr new

/-- While a batch is being served, one of it is given an answer, or fails. -/
theorem answer (o : Orders (B :: but) h h') (distinct : h'.resolved.Nodup) (hB : B ∈ h'.batches)
    (ht : ticket ∈ B.1) (fresh : ticket ∉ h.resolved) (hn : n.entry.answered? = some ticket)
    (same : History.batches (n :: h') = h'.batches) : Orders (B :: but) h (n :: h') := by
  have passes : ∀ tickets, ticket ∉ tickets → n.entry.passes tickets = true := by
    intro tickets ht
    rw [Entry.passes, hn]
    exact decide_eq_true ht
  refine ⟨o.since.cons (passes _ fresh), fun B' hB' => ?_⟩
  rw [same] at hB'
  by_cases ht' : ticket ∈ B'.1
  · rw [eq_of_mem_batches distinct hB' hB ht' ht]
    exact .inl List.mem_cons_self
  · refine (o.settled B' hB').imp_right fun settled => settled.since ?_
    exact (History.Since.refl _ _).cons (passes _ ht')

/-- The batch that was being served has been served. -/
theorem close (o : Orders (B :: but) h h') (settled : h'.Settled B.1 B.2) : Orders but h h' := by
  refine ⟨o.since, fun B' hB' => ?_⟩
  rcases o.settled B' hB' with open' | done
  · rcases List.mem_cons.mp open' with rfl | old
    · exact .inr settled
    · exact .inl old
  · exact .inr done

end Orders

/-! ### What a call leaves -/

variable {v v' v'' : View}

/-- **A probe with its books.** -/
structure Staffed (v : View) : Prop where
  /-- Its parts agree. -/
  manned : Manned v
  /-- Its books are right. -/
  filed : Filed v.history v.lastTicket (v.waiting.map (·.ticket))

/-- **Whatever is called serves all batches that it comes to**, and passes those who were to be
answered before – unless another thread calls. -/
structure Serving (v v' : View) : Prop where
  /-- The history has grown. -/
  grows : v.history <:+ v'.history
  /-- The probe is left in order, and new batches are served. -/
  serves : v'.history.Confined → Staffed v →
    Staffed v' ∧ Orders v.history.batches v.history v'.history

theorem Staffed.spared (p : Staffed v) (h : Spared v v')
    (hu : v.history.Since Entry.isUnanswered v'.history) (a : Attended v') :
    Staffed v' ∧ Orders v.history.batches v.history v'.history := by
  obtain ⟨waiting, -, -, last, -⟩ := View.desk_eq h.desk
  refine ⟨⟨p.manned.spared h a, ?_⟩, .of_unanswered hu (h.history.books.2.1 ▸ List.Subset.refl _)⟩
  rw [last, waiting]
  exact p.filed.since h.history hu

namespace Serving

theorem refl (v : View) : Serving v v :=
  ⟨List.suffix_rfl, fun _ p => ⟨p, .of_unanswered (.refl _ _) (List.Subset.refl _)⟩⟩

theorem trans (h : Serving v v') (h' : Serving v' v'') : Serving v v'' := by
  refine ⟨h.grows.trans h'.grows, fun confined p => ?_⟩
  obtain ⟨p', o⟩ := h.serves (confined.of_suffix h'.grows) p
  obtain ⟨p'', o'⟩ := h'.serves confined p'
  exact ⟨p'', o.trans o'⟩

/-- A deed that spares the probe and gives no answers. -/
theorem spared (hd : Deed v v') (h : Spared v v')
    (hu : v.history.Since Entry.isUnanswered v'.history) : Serving v v' :=
  ⟨hu.suffix, fun _ p => p.spared h hu (p.manned.attended.deed hd)⟩

theorem plain (hd : Deed v v') (h : Spared v v') (hp : Plainly v v') : Serving v v' :=
  spared hd h (hp.history.mono fun _ => Entry.isUnanswered_of_isPlain)

theorem taking (ht : Taking v v') : Serving v v' := by
  refine spared (.taking ht) (.taking ht) ?_
  cases ht with
  | passOver hh => exact (Quietly.heard hh).plainly.history.mono fun _ => Entry.isUnanswered_of_isPlain
  | @accept r _ u hh =>
    have heard : v.history.Since Entry.isUnanswered u.history :=
      (Quietly.heard hh).plainly.history.mono fun _ => Entry.isUnanswered_of_isPlain
    rw [u.history_accept r]
    exact heard.cons rfl

theorem telling (ht : Telling v v') : Serving v v' := by
  refine spared (.telling ht) (.telling ht) ?_
  cases ht <;> exact (History.Since.refl _ _).cons rfl

/-- Somebody asks, which is noted. -/
theorem asked (f : Filed v.history v.lastTicket (v.waiting.map (·.ticket))) (timeout : Number)
    {c : Caller} (ticket : c.ticket = v.lastTicket + 1) :
    Filed ((v.ask timeout).queue c).history ((v.ask timeout).queue c).lastTicket
      (((v.ask timeout).queue c).waiting.map (·.ticket)) := by
  rw [View.tickets_queue timeout ticket]
  exact f.ask _ timeout

theorem move (h : Move v v') : Serving v v' := by
  have hp := Plainly.move h
  rcases h.spared_or_refused with
    hs | ⟨u, entry, -, he, rfl⟩ | ⟨timeout, c, checking, there, ticket, rfl⟩
  · exact plain (.move h) hs hp
  · exact ⟨hp.history.suffix, fun confined => absurd confined (not_confined_cons he)⟩
  · refine ⟨hp.history.suffix, fun _ p => ⟨⟨?_, asked p.filed timeout ticket⟩, ?_⟩⟩
    · exact p.manned.enqueue timeout checking (p.manned.attended.deed (.move h))
    · exact .of_unanswered ((History.Since.refl _ _).cons rfl) (List.Subset.refl _)

theorem rise (h : Rise v v') : Serving v v' := by
  have hd : Deed v v' := .going (.rise h)
  have hp := Plainly.going (.rise h)
  cases h with
  | join name => exact plain hd (.join v nofun) hp
  | resume => exact plain hd (.one rfl rfl rfl) hp
  | @begin timeout c there checking ticket =>
    refine ⟨hp.history.suffix, fun _ p => ?_⟩
    obtain ⟨m, joined⟩ := p.manned.begin timeout there checking ticket (p.manned.attended.deed hd)
    refine ⟨⟨m, ?_⟩, .of_unanswered (hp.history.mono fun _ => Entry.isUnanswered_of_isPlain) ?_⟩
    all_goals rw [joined]
    · exact (asked p.filed timeout ticket).since ((History.Since.refl _ _).cons rfl)
        ((History.Since.refl _ _).cons rfl)
    · exact List.Subset.refl _

end Serving

theorem steady_serving : Steady Serving := ⟨Serving.refl, .trans, .move⟩

/-! ### A round of answers -/

/-- **A batch is being served**: some have been given its answer and have not failed, and some
have still to be given it. -/
structure Underway (start : History) (done rest : List Nat) (near : Option Bool) (v : View) :
    Prop where
  /-- The probe is in order. -/
  staffed : Staffed v
  /-- All other batches are served. -/
  orders : Orders ((done ++ rest, near) :: start.batches) start v.history
  /-- The batch has come to its answer. -/
  batch : (done ++ rest, near) ∈ v.history.batches
  /-- It had not before. -/
  fresh : ∀ ticket ∈ done ++ rest, ticket ∉ start.resolved
  /-- The first of it have been given the answer. -/
  given : v.history.replies.filter (·.1 ∈ done ++ rest) = done.map (·, near)
  /-- None of it has failed. -/
  sound : ∀ ticket ∈ done ++ rest, ticket ∉ v.history.failures

/-- All batches have been served. -/
def ServedSince (start : History) (v : View) : Prop :=
  Staffed v ∧ Orders start.batches start v.history

namespace Underway

variable {start : History}

theorem resolved (u : Underway start done rest near v) : done ++ rest ⊆ v.history.resolved :=
  subset_resolved u.batch

theorem distinct (u : Underway start done rest near v) : v.history.resolved.Nodup :=
  (List.nodup_append.mp u.staffed.filed.distinct).1

/-- One of the batch is given an answer, or fails: that is noted. -/
theorem note (u : Underway start done rest near v) {t : Turn}
    (ha : (Entry.turned t).answered? = some ticket) (ht : ticket ∈ done ++ rest)
    (same : (v.turn t).history.batches = v.history.batches) (a : Attended (v.turn t)) :
    Staffed (v.turn t)
      ∧ Orders ((done ++ rest, near) :: start.batches) start (v.turn t).history := by
  refine ⟨⟨u.staffed.manned.turn a, u.staffed.filed.answer ha (u.resolved ht)⟩, ?_⟩
  exact u.orders.answer u.distinct u.batch ht (u.fresh ticket ht) ha same

/-- The next one is given the answer. -/
theorem reply (u : Underway start done (ticket :: rest) near v) :
    Underway start (done ++ [ticket]) rest near (v.turn (.replied ticket near)) := by
  have mine : ticket ∈ done ++ ticket :: rest := List.mem_append_right _ List.mem_cons_self
  have a : Attended (v.turn (.replied ticket near)) := u.staffed.manned.attended.deed
    (.giving (.reply v ticket near))
  obtain ⟨staffed, orders⟩ := u.note rfl mine rfl a
  have whole : done ++ [ticket] ++ rest = done ++ ticket :: rest := by simp
  refine ⟨staffed, whole ▸ orders, whole ▸ u.batch, whole ▸ u.fresh, ?_, whole ▸ u.sound⟩
  have given : [(ticket, near)].filter (·.1 ∈ done ++ ticket :: rest) = [(ticket, near)] :=
    List.filter_cons_of_pos (decide_eq_true mine)
  have history : (v.turn (.replied ticket near)).history.replies
      = v.history.replies ++ [(ticket, near)] := rfl
  rw [whole, history, List.filter_append, u.given, given, List.map_append]
  rfl

/-- Whatever a callback does leaves its batch as it was. -/
theorem serving (u : Underway start done rest near v) (s : Serving v v')
    (confined : v'.history.Confined) : Underway start done rest near v' := by
  obtain ⟨staffed, orders⟩ := s.serves confined u.staffed
  have passes := orders.since.mono fun _ he => Entry.passes_mono he u.resolved
  obtain ⟨replies, failures⟩ := passes.answers
  obtain ⟨new, history⟩ := s.grows
  refine ⟨staffed, ?_, ?_, u.fresh, replies.trans u.given, fun t ht => ?_⟩
  · refine ⟨(u.orders.since).trans (orders.since.mono fun _ he => ?_), fun B hB => ?_⟩
    · exact Entry.passes_mono he (resolved_subset u.orders.since.suffix)
    · exact (u.orders.trans orders).settled B hB
  · rw [← history, batches_append]
    exact List.mem_append_left _ u.batch
  · exact mt (failures t ht).mp (u.sound t ht)

/-- **The batch has been served**, when all of it have been given the answer. -/
theorem complete (u : Underway start done [] near v) : ServedSince start v := by
  refine ⟨u.staffed, u.orders.close ?_⟩
  rw [History.Settled, u.given, served_of_sound u.sound, List.append_nil]

/-- **The batch has been served**, when the last one who was given the answer fails. -/
theorem balk (u : Underway start (done ++ [ticket]) rest near v) :
    ServedSince start (v.turn (.balked ticket)) := by
  have mine : ticket ∈ done ++ [ticket] ++ rest :=
    List.mem_append_left _ (List.mem_append_right _ (List.mem_singleton_self ticket))
  have a : Attended (v.turn (.balked ticket)) :=
    u.staffed.manned.attended.deed (.giving (.balk v ticket))
  obtain ⟨staffed, orders⟩ := u.note rfl mine rfl a
  refine ⟨staffed, orders.close ?_⟩
  -- Nobody before has failed, since tickets are distinct.
  have distinct : (done ++ [ticket] ++ rest).Nodup := by
    obtain ⟨each, -⟩ := List.nodup_flatMap.mp u.distinct
    exact each _ u.batch
  have before : ∀ t ∈ done, t ∉ (v.turn (.balked ticket)).history.failures := by
    intro t ht failed
    rcases List.mem_cons.mp failed with rfl | failed
    · rw [List.append_assoc] at distinct
      exact (List.nodup_append.mp distinct).2.2 t ht t List.mem_cons_self rfl
    · exact u.sound t (List.mem_append_left _ (List.mem_append_left _ ht)) failed
  have failed : ticket ∈ (v.turn (.balked ticket)).history.failures := List.mem_cons_self
  have whole : done ++ [ticket] ++ rest = done ++ ticket :: rest := by simp
  show (v.history.replies).filter (·.1 ∈ done ++ [ticket] ++ rest) = _
  rw [u.given, whole, served_append_failed before failed]

end Underway

variable {b : Bench} {u : View} {call : Reactor} {start : History}

/-- **Somebody is given the answer.** If the callback comes back, the rest is served; if it
fails, nobody else is. -/
theorem exec_answer_underway (C : Reacts Serving call) (w : Wired b) {c : Caller}
    (due : b.history.Confined → Underway start done (c.ticket :: rest) near b.view) :
    (∃ b', exec (Probe.answer call near c) b = (.ok (), b') ∧ Wired b' ∧ b.history <:+ b'.history
        ∧ (b'.history.Confined → Underway start (done ++ [c.ticket]) rest near b'.view))
      ∨ ∃ e b', exec (Probe.answer call near c) b = (.error e, b') ∧ Wired b'
        ∧ b.history <:+ b'.history ∧ (b'.history.Confined → ServedSince start b'.view) := by
  obtain ⟨b₁, e₁, hv₁, s₁⟩ := ends_turn (b := b) (t := .replied c.ticket near) rfl
  have given : b₁.history.Confined → Underway start (done ++ [c.ticket]) rest near b₁.view := by
    intro confined
    rw [hv₁]
    exact (due (confined.of_suffix s₁.grows)).reply
  have begins : exec (Probe.answer call near c) b = exec _ b₁ := exec_bind_of_ok e₁
  rw [begins]
  rcases hc : c.reply with script | _
  · have ends : Ends (Bench.note (.answered c.ticket c.name near)) b₁ () b₁.view := ends_note rfl
    obtain ⟨b₂, e₂, hv₂, s₂⟩ := ends
    obtain ⟨w₃, g₃, r₃⟩ := C (.reply c near) b₂ (s₂.wired (s₁.wired w))
    have grows := (s₁.grows.trans s₂.grows).trans g₃
    rw [hv₂] at r₃
    have called := exec_bind_of_ok (f := fun _ => tryCatch (call (.reply c near)) fun fault => do
      Bench.turn (.balked c.ticket)
      throw fault) e₂
    rw [called, exec_tryCatch]
    rcases e : exec (call (.reply c near)) b₂ with ⟨fault | _, b₃⟩
    · simp only [after, e] at w₃ grows r₃
      refine .inr ⟨fault, noted b₃ (.turned (.balked c.ticket)), rfl,
        (beside_noted b₃ _).wired w₃, grows.trans (beside_noted b₃ _).grows, fun confined => ?_⟩
      have confined := confined.of_suffix (beside_noted b₃ _).grows
      have before := given (confined.of_suffix r₃.grows)
      rw [view_noted rfl]
      exact (before.serving r₃ confined).balk
    · simp only [after, e] at w₃ grows r₃
      refine .inl ⟨b₃, rfl, w₃, grows, fun confined => ?_⟩
      exact (given (confined.of_suffix r₃.grows)).serving r₃ confined
  · obtain ⟨b₂, e₂, hv₂, s₂⟩ := ends_settle (b := b₁) c (.ok near)
    refine .inl ⟨b₂, e₂, s₂.wired (s₁.wired w), s₁.grows.trans s₂.grows, fun confined => ?_⟩
    rw [hv₂]
    exact given (confined.of_suffix s₂.grows)

/-- **A batch is served**, whatever its callbacks do. The induction is on those who are still to
be given the answer. -/
theorem leads_underway (C : Reacts Serving call) (w : Wired b) (waiting : List Caller)
    (due : b.history.Confined →
      Underway start done (waiting.map (·.ticket)) near b.view) :
    Leads (fun _ v' => v'.history.Confined → ServedSince start v') u
      (waiting.forM fun c => Probe.answer call near c) b := by
  induction waiting generalizing b done with
  | nil => exact .pure w (fun confined => (due confined).complete) ()
  | cons c waiting ih =>
    rw [forM_cons]
    rcases exec_answer_underway C w due with ⟨b₁, e₁, w₁, g₁, due₁⟩ | ⟨e, b₁, e₁, w₁, g₁, served⟩
    · exact .follow e₁ g₁ (ih w₁ due₁)
    · exact .of_exec (exec_bind_of_error e₁) w₁ g₁ served

/-- **There is an answer**, and the batch it is for is about to be served. -/
theorem Staffed.close (p : Staffed v) {waiting : List Caller} (h : Close near v waiting v')
    (a : Attended v') : Underway v.history [] (waiting.map (·.ticket)) near v' := by
  have plain : v.history.Since Entry.isUnanswered v'.history :=
    (Plainly.close h).history.mono fun _ => Entry.isUnanswered_of_isPlain
  obtain ⟨m, closed⟩ := p.manned.close h a
  obtain ⟨earlier, time, asking, spare⟩ := closed.books
  obtain ⟨asked, old, grows⟩ := p.filed.asking asking
  have booked : Filed v'.history v'.lastTicket [] :=
    asked.resolve.since spare (plain.of_suffix (grows.trans (List.suffix_cons _ _)) spare.suffix)
  have batches : v'.history.batches = v.history.batches ++ [(waiting.map (·.ticket), near)] := by
    rw [spare.books.2.1, History.batches, old]
  have resolved : v'.history.resolved = v.history.resolved ++ waiting.map (·.ticket) := by
    rw [History.resolved, batches, List.flatMap_append]
    simp [History.resolved]
  -- Tickets are distinct, so nobody of the batch was to be answered before.
  have fresh : ∀ t ∈ waiting.map (·.ticket), t ∉ v.history.resolved := by
    have distinct := (List.nodup_append.mp booked.distinct).1
    rw [resolved] at distinct
    exact fun t ht old => (List.nodup_append.mp distinct).2.2 t old t ht rfl
  obtain ⟨replies, failures⟩ := (plain.mono fun _ he =>
    Entry.passes_of_isUnanswered he (waiting.map (·.ticket))).answers
  refine ⟨⟨m, closed.nobody ▸ booked⟩, .of_unanswered plain ?_, ?_, fresh, replies.trans ?_, ?_⟩
  · rw [batches]
    exact List.append_subset.mpr ⟨List.subset_cons_self _ _, by simp⟩
  · rw [batches]
    exact List.mem_append_right _ (List.mem_singleton_self _)
  · refine filter_strangers fun answer ha ht => ?_
    obtain ⟨n, hn, e⟩ := exists_of_mem_replies ha
    exact fresh _ ht (p.filed.answered n hn _ e)
  · intro t ht failed
    obtain ⟨n, hn, e⟩ := exists_of_mem_failures ((failures t ht).mp failed)
    exact fresh t ht (p.filed.answered n hn t e)

/-- **Serving all batches is a law.** -/
theorem law_serving : Law Serving where
  toSteady := steady_serving
  rise C w _ hr := by
    refine steady_serving.leads (steady_serving.keeps_activate C fun v => ?_) w (.rise hr)
    exact .spared (.going (.activate v)) (.one rfl rfl rfl) ((History.Since.refl _ _).cons rfl)
  accept C w h heard :=
    steady_serving.leads_accept w h heard .taking (steady_serving.keeps_broadcast C .telling true)
  alert C := steady_serving.keeps_broadcast C .telling false
  answer {depth near v waiting b} C w hc := by
    have closed : v.history <:+ b.history := (Plainly.close hc).history.suffix
    -- That the bench stays wired does not rest on the order of the probe, which is a hypothesis
    -- of what is to be shown.
    have free := Steady.free.leads_answers C.free (fun _ => trivial) w hc
    have answered : Staffed v → Leads (fun _ v' => v'.history.Confined → ServedSince v.history v') v
        (waiting.forM fun c => Probe.answer (react depth) near c) b := fun p =>
      leads_underway C w waiting fun _ =>
        p.close hc (p.manned.attended.deed (.giving (.close hc)))
    exact ⟨free.wired, free.grows, closed.trans free.grows,
      fun confined p => (answered p).related confined⟩

theorem Pristine.staffed (p : Pristine v) : Staffed v := by
  refine ⟨p.probing.1.manned, ?_⟩
  rw [p.history, p.lastTicket, p.waiting]
  exact ⟨rfl, rfl, fun n hn => absurd hn List.not_mem_nil⟩

/-- **What has become of those who asked**, if callbacks may fail: those who were to be answered have
been given their answers up to the first who failed, and nobody else has. -/
structure Served (h : History) (last : Nat) (waiting : List Nat) : Prop where
  /-- The books are right. -/
  filed : Filed h last waiting
  /-- Every batch is served. -/
  settled : ∀ B ∈ h.batches, h.Settled B.1 B.2

/-- **Nobody is given an answer twice**, nor while waiting. -/
theorem Served.distinct {last : Nat} {waiting : List Nat} (s : Served h last waiting) :
    (h.replies.map (·.1) ++ waiting).Nodup := by
  obtain ⟨resolved, waits, apart⟩ := List.nodup_append.mp s.filed.distinct
  have given : ∀ ticket ∈ h.replies.map (·.1), ticket ∈ h.resolved := by
    intro ticket ht
    obtain ⟨a, ha, rfl⟩ := List.mem_map.mp ht
    obtain ⟨n, hn, e⟩ := exists_of_mem_replies (show (a.1, a.2) ∈ h.replies from ha)
    exact s.filed.answered n hn _ e
  refine List.nodup_append.mpr ⟨List.nodup_iff_count_le_one.mpr fun ticket => ?_, waits,
    fun ticket ht => apart ticket (given ticket ht)⟩
  by_cases ht : ticket ∈ h.replies.map (·.1)
  · obtain ⟨B, hB, mine⟩ := List.mem_flatMap.mp (given ticket ht)
    -- Whoever belongs to a batch is given an answer with the batch.
    have own : (h.replies.map (·.1)).count ticket
        = ((h.replies.filter (·.1 ∈ B.1)).map (·.1)).count ticket := by
      rw [List.count_eq_countP, List.count_eq_countP, List.countP_map, List.countP_map,
        List.countP_filter]
      refine List.countP_congr fun a _ => ?_
      simp only [Function.comp_apply, beq_iff_eq, Bool.and_eq_true, decide_eq_true_eq]
      exact ⟨fun e => ⟨e, e ▸ mine⟩, And.left⟩
    have tickets : ((served h.failures B.1).map (·, B.2)).map (·.1) = served h.failures B.1 := by
      rw [List.map_map]
      exact List.map_id _
    obtain ⟨each, -⟩ := List.nodup_flatMap.mp resolved
    rw [own, s.settled B hB, tickets]
    exact List.nodup_iff_count_le_one.mp ((served_sublist _ _).nodup (each B hB)) ticket
  · rw [List.count_eq_zero_of_not_mem ht]
    exact Nat.zero_le 1

theorem Reached.served (h : Reached b) (confined : b.history.Confined) :
    Served b.history b.probe.lastTicket (b.probe.waiting.map (·.ticket)) ∧ Stance b.view := by
  obtain ⟨-, v, pristine, serving⟩ := law_serving.holds h
  obtain ⟨p, orders⟩ := serving.serves confined pristine.staffed
  refine ⟨⟨p.filed, fun B hB => (orders.settled B hB).resolve_left fun old => ?_⟩, p.manned.stance⟩
  rw [pristine.history] at old
  exact absurd old List.not_mem_nil

/-- **A batch is served up to the first caller who fails.** In a history in which no call comes
from another thread, no two questions have the same ticket, and whoever asked was to be answered
or waits. Nobody is called twice, no promise is settled twice, and nobody gets anything and waits.
Those who are answered together were asked one after the other, and the answer is handed over to all
up to the first of them whose callback fails, in that order, and to nobody after that one. An answer
rests on what the probe had just been told, or on its timer, or there was nothing to ask. Whoever
fails, between two steps a check is on just when somebody waits, when the probe has a timer, of which
it has no more than one, and when it listens.

And whenever a probe comes to an answer on the owner's thread, at any depth of calls, it is idle
before anybody is called. Then those who waited are called with the answer, one after the other,
until one of them fails; if nobody does, all of them are. -/
theorem served_until_failure (h : Reached b) (confined : b.history.Confined) :
    b.history.asked.Nodup
      ∧ b.history.asked
        = b.history.batches.flatMap (·.1) ++ b.probe.waiting.map (·.ticket)
      ∧ (b.annals.callbacks.map (·.1) ++ b.annals.settlements.map (·.1)
        ++ (b.probe.waiting.filter (·.ticket ∉ b.annals.settlements.map (·.1))).map
          (·.ticket)).Nodup
      ∧ (∀ tickets near, (tickets, near) ∈ b.history.batches →
        b.annals.HandedOver tickets (served b.history.failures tickets) near)
      ∧ (∀ ticket near, (ticket, near) ∈ b.annals.callbacks
        ∨ (ticket, .ok near) ∈ b.annals.settlements → ticket ∈ b.history.resolved)
      ∧ b.annals.Always Earned ∧ b.annals.Always Founded
      ∧ (b.probe.checking = true ↔ b.probe.waiting ≠ [])
      ∧ (b.probe.checking = true ↔ b.clock.expiries.length = 1)
      ∧ (b.probe.checking = false ↔ b.clock.expiries = [])
      ∧ (b.probe.checking = true ↔ .probe ∈ b.fusion.listeners)
      ∧ ∀ m, Poised m → m.DealsOut := by
  obtain ⟨state, stance⟩ := h.served confined
  obtain ⟨x, -⟩ := h.handed
  have balances := h.balances
  have seen : b.history.replies = b.annals.replies := replies_filter b.annals
  have asked : b.history.asked = b.history.resolved ++ b.probe.waiting.map (·.ticket) :=
    state.filed.asked
  obtain ⟨waits, timed, untimed, listens⟩ := stance.checking_iff
  refine ⟨asked ▸ state.filed.distinct, asked, ?_, fun tickets near hb => ?_,
    fun ticket near got => ?_, x.earned, x.founded, waits, timed, untimed, listens,
    fun m p => p.dealsOut⟩
  · exact balances.distinct (seen ▸ state.distinct)
  · exact balances.handedOver (seen ▸ state.settled _ hb)
  · have given : (ticket, near) ∈ b.history.replies :=
      seen ▸ got.elim (balances.called.subset ·) (balances.right ticket near)
    obtain ⟨n, hn, e⟩ := exists_of_mem_replies given
    exact state.filed.answered n hn ticket e

/-- A session in which two wait for the same answer, and the first of them fails at it. -/
def balkedSession : Bench :=
  (Scenario.ofSensors (.standIn true [] []) .absent []).after
    [.check "first" 50 [.throwError "no"], .check "second" 50 [], .event .primary true none]

/-- **A caller who fails may cost others their answer.** Both were to be answered that something
is near, and the second one has not been called and does not wait any longer. -/
theorem balked_session :
    Reached balkedSession ∧ balkedSession.history.Confined
      ∧ ([1, 2], some true) ∈ balkedSession.history.batches
      ∧ balkedSession.annals.callbacks = [(1, some true)]
      ∧ balkedSession.annals.callbacks.filter (·.1 ∈ [1, 2]) ≠ [1, 2].map (·, some true)
      ∧ balkedSession.annals.settlements.map (·.1) = []
      ∧ balkedSession.probe.waiting.map (·.ticket) = [] := by
  refine ⟨Scenario.reached_after rfl (by decide +kernel) _, ?_, ?_, ?_, ?_, ?_, ?_⟩
  all_goals decide +kernel

/-- A session in which four wait until their time is up, and the third of them fails, but not
before it has asked again. -/
def forfeitSession : Bench :=
  (Scenario.ofSensors (.standIn true [] []) .absent []).after
    [.check "first" 10 [], .query "second" none,
      .check "third" 10 [.check "again" 10 [], .throwError "no"], .check "fourth" 10 [], .advance 10]

/-- A bench on which two wait, of whom the first one fails. -/
def wearyBench : Bench :=
  (Scenario.ofSensors (.standIn true [] []) .absent []).after
    [.check "first" 50 [.throwError "no"], .check "second" 50 []]

/-- The first three get to know that their time is up, and a check is on for the one who has asked
again. Of the two, the first one is called when they are told something, and no more than that. -/
theorem served_until_failure_session :
    forfeitSession.history.Confined
      ∧ forfeitSession.annals.callbacks = [(1, none), (3, none)]
      ∧ forfeitSession.annals.HandedOver [1, 2, 3, 4] [1, 2, 3] none
      ∧ forfeitSession.probe.checking = true
      ∧ .probe ∈ forfeitSession.fusion.listeners
      ∧ wearyBench.probe.waiting.map (·.ticket) = [1, 2]
      ∧ ∃ served rest o ended m', wearyBench.probe.waiting = served ++ rest ∧ Disengaged ended
        ∧ exec (react 2 (.listener .probe ⟨true, 1⟩)) wearyBench = (o, m')
        ∧ Dealt (performAll (react 0)) (some true) served o ended m'
        ∧ (o = .ok () → rest = []) ∧ Poised m' := by
  have reached : Reached forfeitSession := Scenario.reached_after rfl (by decide +kernel) _
  have confined : forfeitSession.history.Confined := by decide +kernel
  obtain ⟨-, -, -, batch, -, -, -, waits, -, -, listens, deals⟩ :=
    served_until_failure reached confined
  have checking : forfeitSession.probe.checking = true := waits.mpr (by decide +kernel)
  have three : served forfeitSession.history.failures [1, 2, 3, 4] = [1, 2, 3] := by decide +kernel
  have weary : Reached wearyBench := Scenario.reached_after rfl (by decide +kernel) _
  refine ⟨confined, by decide +kernel, ?_, checking, listens.mp checking, by decide +kernel, ?_⟩
  · exact three ▸ batch [1, 2, 3, 4] none (by decide +kernel)
  · exact deals wearyBench weary.poised 0 _ (some true) (by decide +kernel) (.reading ⟨true, 1⟩)

end Proximity
