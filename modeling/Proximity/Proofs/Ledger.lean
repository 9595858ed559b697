import Proximity.Proofs.History

/-!
# Questions and answers in a history

A probe is asked, comes to an answer for all who wait, and gives it to each of them.
Since callbacks may ask again when they are given an answer, and a check may be opened and
closed while others are still to be answered, the answers that are due form a stack
(`Proximity.History.owed`): those due last are given first. If each answer that is given
is the one on top (`Proximity.History.Prompt`), then

* whoever is due an answer is given it or still due it
  (`Proximity.History.replies_owed_perm`), and
* those who are answered together are given the same answer, in their order
  (`Proximity.History.replies_owed_filter`).

All this is about histories alone; that a probe is prompt is in
`Proximity.Proofs.Answers`.
-/

namespace Proximity

/-- Whether an entry is about no question and no answer. -/
def Entry.isSpare : Entry → Bool
  | .turned (.asked _ _) | .turned (.resolved _ _) | .turned (.replied _ _) => false
  | _ => true

namespace History

/-- The tickets of the questions, in the order of asking. -/
def asked : History → List Nat
  | [] => []
  | n :: earlier =>
    match n.entry with
    | .turned (.asked ticket _) => asked earlier ++ [ticket]
    | _ => asked earlier

/-- Who was answered together, and how. -/
def batches : History → List (List Nat × Option Bool)
  | [] => []
  | n :: earlier =>
    match n.entry with
    | .turned (.resolved tickets near) => batches earlier ++ [(tickets, near)]
    | _ => batches earlier

/-- The answers that were given, in their order. -/
def replies : History → List (Nat × Option Bool)
  | [] => []
  | n :: earlier =>
    match n.entry with
    | .turned (.replied ticket near) => replies earlier ++ [(ticket, near)]
    | _ => replies earlier

/-- **The answers that are due**, the next one first. -/
def owed : History → List (Nat × Option Bool)
  | [] => []
  | n :: earlier =>
    match n.entry with
    | .turned (.resolved tickets near) => tickets.map (·, near) ++ owed earlier
    | .turned (.replied _ _) => (owed earlier).tail
    | _ => owed earlier

/-- An answer that is given is the one that is due next. -/
def Prompt (n : Note) (earlier : History) : Prop :=
  ∀ ticket near, n.entry = .turned (.replied ticket near) →
    ∃ rest, earlier.owed = (ticket, near) :: rest

/-- The tickets of those who were answered, batch by batch. -/
def resolved (h : History) : List Nat := h.batches.flatMap (·.1)

variable {h h' : History} {n : Note} {time : Number} {tickets : List Nat} {near : Option Bool}

/-- What is spare changes nothing in the books. -/
theorem books_cons_of_isSpare (hn : n.entry.isSpare = true) (h : History) :
    asked (n :: h) = asked h ∧ batches (n :: h) = batches h ∧ replies (n :: h) = replies h
      ∧ owed (n :: h) = owed h := by
  rcases n with ⟨time, entry⟩
  cases entry with
  | turned t =>
    cases t with
    | asked | resolved | replied => cases hn
    | _ => exact ⟨rfl, rfl, rfl, rfl⟩
  | _ => exact ⟨rfl, rfl, rfl, rfl⟩

theorem Since.books (hh : h.Since Entry.isSpare h') :
    h'.asked = h.asked ∧ h'.batches = h.batches ∧ h'.owed = h.owed := by
  refine hh.keeps (P := fun h' => h'.asked = h.asked ∧ h'.batches = h.batches ∧ h'.owed = h.owed)
    ⟨rfl, rfl, rfl⟩ ?_
  rintro n earlier hn ⟨ha, hb, ho⟩
  obtain ⟨ha', hb', -, ho'⟩ := books_cons_of_isSpare hn earlier
  exact ⟨ha'.trans ha, hb'.trans hb, ho'.trans ho⟩

theorem resolved_cons_resolved :
    resolved (⟨time, .turned (.resolved tickets near)⟩ :: h) = resolved h ++ tickets := by
  rw [resolved, batches, List.flatMap_append]
  simp [resolved]

/-- **Whoever was due an answer has been given it or is still due it**, and nobody else. -/
theorem replies_owed_perm (hp : Always Prompt h) :
    ((replies h ++ owed h).map (·.1)).Perm (resolved h) := by
  induction h with
  | nil => exact .nil
  | cons n h ih =>
    have ih := ih hp.tail
    rcases n with ⟨time, entry⟩
    cases entry with
    | turned t =>
      cases t with
      | resolved tickets near =>
        have own : (tickets.map (·, near)).map (·.1) = tickets := by
          rw [List.map_map]
          exact List.map_id tickets
        rw [resolved_cons_resolved, replies, owed, List.map_append, List.map_append, own]
        refine (List.Perm.append_left _ List.perm_append_comm).trans ?_
        rw [← List.append_assoc, ← List.map_append]
        exact ih.append_right tickets
      | replied ticket near =>
        -- The answer moves from those that are due to those that are given.
        obtain ⟨rest, due⟩ := hp.head ticket near rfl
        rw [replies, owed, due, List.tail_cons, List.append_assoc, List.singleton_append, ← due]
        exact ih
      | _ => exact ih
    | _ => exact ih

/-- An answer that is given or due is for somebody who was to be answered. -/
theorem mem_resolved (hp : Always Prompt h) {p : Nat × Option Bool} (hr : p ∈ replies h ++ owed h) :
    p.1 ∈ resolved h :=
  (replies_owed_perm hp).mem_iff.mp (List.mem_map_of_mem hr)

/-- A batch is its own part of the answers. -/
theorem filter_batch (tickets : List Nat) (near : Option Bool) :
    (tickets.map (·, near)).filter (·.1 ∈ tickets) = tickets.map (·, near) := by
  refine List.filter_eq_self.mpr fun p hp => ?_
  obtain ⟨ticket, ht, rfl⟩ := List.mem_map.mp hp
  exact decide_eq_true ht

/-- No part of the answers is for strangers. -/
theorem filter_strangers {answers : List (Nat × Option Bool)}
    (strangers : ∀ p ∈ answers, p.1 ∉ tickets) : answers.filter (·.1 ∈ tickets) = [] :=
  List.filter_eq_nil_iff.mpr fun p hp ht => strangers p hp (of_decide_eq_true ht)

/-- **Those who are answered together are given the same answer, in their order.** -/
theorem replies_owed_filter (hp : Always Prompt h) (distinct : (resolved h).Nodup)
    (hb : (tickets, near) ∈ batches h) :
    (replies h ++ owed h).filter (·.1 ∈ tickets) = tickets.map (·, near) := by
  induction h with
  | nil => cases hb
  | cons n h ih =>
    rcases n with ⟨time, entry⟩
    cases entry with
    | turned t =>
      cases t with
      | resolved tickets' near' =>
        rw [resolved_cons_resolved] at distinct
        obtain ⟨distinct', -, apart⟩ := List.nodup_append.mp distinct
        rw [replies, owed, List.filter_append, List.filter_append]
        rcases List.mem_append.mp hb with hb | hb
        · -- The batch came before, and the new one has no ticket of it.
          have others : ∀ p ∈ tickets'.map (·, near'), p.1 ∉ tickets := by
            intro p hp' ht
            obtain ⟨ticket, ht', rfl⟩ := List.mem_map.mp hp'
            exact apart ticket (List.mem_flatMap.mpr ⟨_, hb, ht⟩) ticket ht' rfl
          rw [filter_strangers others, List.nil_append, ← List.filter_append]
          exact ih hp.tail distinct' hb
        · -- The batch is the new one, and none of it was given or due an answer before.
          cases List.mem_singleton.mp hb
          have strangers : ∀ p ∈ replies h ++ owed h, p.1 ∉ tickets := fun p hp' ht =>
            apart p.1 (mem_resolved hp.tail hp') p.1 ht rfl
          have given : ∀ p ∈ replies h, p.1 ∉ tickets := fun p hp' =>
            strangers p (List.mem_append_left _ hp')
          have due : ∀ p ∈ owed h, p.1 ∉ tickets := fun p hp' =>
            strangers p (List.mem_append_right _ hp')
          rw [filter_strangers given, filter_batch, filter_strangers due, List.nil_append,
            List.append_nil]
      | replied ticket near =>
        obtain ⟨rest, due⟩ := hp.head ticket near rfl
        rw [replies, owed, due, List.tail_cons, List.append_assoc, List.singleton_append, ← due]
        exact ih hp.tail distinct hb
      | _ => exact ih hp.tail distinct hb
    | _ => exact ih hp.tail distinct hb

end History

end Proximity
