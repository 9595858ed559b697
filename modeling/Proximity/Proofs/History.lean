import Proximity.Bench

/-!
# Histories

The *history* of a bench is what its journal tells about the fusion and the probe:
the turns that they take, the samples that come in, what listeners from outside are
told, and the calls that are refused because another thread makes them. Commands,
timers, log records and what sensors tell the fusion are left out.

What the fusion remembers can be told from the history alone. Each function below
reads one thing off it, from the last entry backwards:

| function | what it tells |
|---|---|
| `Proximity.History.paused` | whether the fusion was last paused or resumed |
| `Proximity.History.safe` | the mode that was last asked for |
| `Proximity.History.audience` | who joined and did not leave |
| `Proximity.History.primary` | what the primary last said since everything was torn down |
| `Proximity.History.fused` | the reading accepted last since everything was torn down |
| `Proximity.History.active` | whether the fusion went to work since then |
| `Proximity.History.telling` | whether listeners are being told something |

That the fusion remembers just that is `Proximity.Faithful`.
-/

namespace Proximity

/-- Whether an entry belongs to the history of a bench. -/
def Entry.isHistoric : Entry → Bool
  | .turned (.sampling _ _) | .turned (.crossed _ _ _) => false
  | .turned _ => true
  | .told (.fusion _) _ => false
  | .told _ _ => true
  | .logged .fatal _ _ _ => true
  | _ => false

/-- Whether an entry is about something that nothing can go on after. -/
def Entry.isFatal : Entry → Bool
  | .logged .fatal _ _ _ => true
  | _ => false

/-- A fatal entry is a log record. -/
theorem Entry.exists_of_isFatal {entry : Entry} (h : entry.isFatal = true) :
    ∃ origin message metadata, entry = .logged .fatal origin message metadata := by
  cases entry with
  | logged severity origin message metadata =>
    cases severity with
    | fatal => exact ⟨_, _, _, rfl⟩
    | _ => exact absurd h Bool.false_ne_true
  | _ => exact absurd h Bool.false_ne_true

/-- Notes, the latest first. -/
abbrev History := List Note

/-- **The history of a bench.** -/
def Bench.history (b : Bench) : History := b.journal.filter (·.entry.isHistoric)

namespace History

/-- Whether the last of pausing and resuming was pausing. -/
def paused : History → Bool
  | [] => false
  | n :: earlier =>
    match n.entry with
    | .turned .paused => true
    | .turned .resumed => false
    | _ => paused earlier

/-- Whether the secondary may stay on. -/
def safe : History → Bool
  | [] => false
  | n :: earlier =>
    match n.entry with
    | .turned (.mode on) => on
    | _ => safe earlier

/-- Who listens, in the order of joining. -/
def audience : History → List Listener
  | [] => []
  | n :: earlier =>
    match n.entry with
    | .turned (.joined l) => audience earlier ++ [l]
    | .turned (.left l) => (audience earlier).erase l
    | _ => audience earlier

/-- What the primary said last, unless everything was torn down since. -/
def primary : History → Option Bool
  | [] => none
  | n :: earlier =>
    match n.entry with
    | .turned (.sensed .primary r) => some r.near
    | .turned .tornDown => none
    | _ => primary earlier

/-- The reading that was accepted last, unless everything was torn down since. -/
def fused : History → Option Reading
  | [] => none
  | n :: earlier =>
    match n.entry with
    | .turned (.fused r) => some r
    | .turned .tornDown => none
    | _ => fused earlier

/-- Whether the fusion is at work. -/
def active : History → Bool
  | [] => false
  | n :: earlier =>
    match n.entry with
    | .turned .activated => true
    | .turned .tornDown => false
    | _ => active earlier

/-- Whether listeners are being told something. -/
def telling : History → Bool
  | [] => false
  | n :: earlier =>
    match n.entry with
    | .turned (.broadcast _ _) => true
    | .turned .hushed => false
    | _ => telling earlier

/-- Whether the secondary was readied for being joined. -/
def readied (h : History) : Prop := ∃ n ∈ h, n.entry = .turned .readied

theorem readied.of_suffix {h h' : History} (r : h.readied) (s : h <:+ h') : h'.readied := by
  obtain ⟨n, hn, e⟩ := r
  exact ⟨n, s.subset hn, e⟩

/-- Only one entry is about that. -/
theorem readied.tail {h : History} {n : Note} (r : readied (n :: h))
    (hn : n.entry ≠ .turned .readied) : h.readied := by
  obtain ⟨m, hm, e⟩ := r
  rcases List.mem_cons.mp hm with rfl | hm
  · exact absurd e hn
  · exact ⟨m, hm, e⟩

/-- **Whether anybody wants the fusion to work**: it is not paused, and somebody
listens. -/
def wanted (h : History) : Bool := !h.paused && !h.audience.isEmpty

/-- Something that some entries are about, in the order in which it happened. -/
def gather {α : Type} (f : Note → Option α) (h : History) : List α := h.reverse.filterMap f

/-! ### Properties of whole histories -/

/-- **A property holds at every note**, given what was noted earlier. -/
def Always (p : Note → History → Prop) (h : History) : Prop :=
  ∀ later n earlier, h = later ++ n :: earlier → p n earlier

/-- **A history has grown** by entries of a kind. -/
def Since (kind : Entry → Bool) (h h' : History) : Prop :=
  ∃ new, h' = new ++ h ∧ ∀ n ∈ new, kind n.entry = true

section Gather

variable {α : Type} (f : Note → Option α)

/-- What an entry gives comes after all that was given before. -/
theorem gather_cons (n : Note) (h : History) :
    gather f (n :: h) = gather f h ++ (f n).toList := by
  rw [gather, List.reverse_cons, List.filterMap_append, gather]
  cases e : f n <;> simp [e]

theorem gather_append (later earlier : History) :
    gather f (later ++ earlier) = gather f earlier ++ gather f later := by
  rw [gather, List.reverse_append, List.filterMap_append]
  rfl

end Gather

variable {p : Note → History → Prop} {kind : Entry → Bool} {h h' h'' : History}

theorem Always.nil : Always p [] := by
  intro later n earlier e
  cases later <;> cases e

/-- What always held goes on if it holds of the next note. -/
theorem Always.cons {n : Note} (hn : p n h) (hh : Always p h) : Always p (n :: h) := by
  intro later m earlier e
  cases later with
  | nil =>
    cases e
    exact hn
  | cons first later =>
    cases e
    exact hh later m earlier rfl

theorem Always.head {n : Note} (hh : Always p (n :: h)) : p n h := hh [] n h rfl

theorem Always.tail {n : Note} (hh : Always p (n :: h)) : Always p h :=
  fun later m earlier e => hh (n :: later) m earlier (e ▸ rfl)

/-- What always held did so at each time before. -/
theorem Always.of_suffix (hh : Always p h') (s : h <:+ h') : Always p h := by
  obtain ⟨later, rfl⟩ := s
  rintro later' n earlier rfl
  exact hh (later ++ later') n earlier (List.append_assoc _ _ _).symm

theorem Since.refl (kind : Entry → Bool) (h : History) : Since kind h h :=
  ⟨[], rfl, fun _ hn => absurd hn List.not_mem_nil⟩

theorem Since.cons {n : Note} (s : Since kind h h') (hn : kind n.entry = true) :
    Since kind h (n :: h') := by
  obtain ⟨new, rfl, hnew⟩ := s
  refine ⟨n :: new, rfl, fun m hm => ?_⟩
  rcases List.mem_cons.mp hm with rfl | hm
  · exact hn
  · exact hnew m hm

/-- What was added may come in two goes. -/
theorem Since.trans (s : Since kind h h') (s' : Since kind h' h'') : Since kind h h'' := by
  obtain ⟨new, rfl, hnew⟩ := s
  obtain ⟨new', rfl, hnew'⟩ := s'
  refine ⟨new' ++ new, (List.append_assoc ..).symm, fun n hn => ?_⟩
  rcases List.mem_append.mp hn with hn | hn
  · exact hnew' n hn
  · exact hnew n hn

/-- A wider kind of entries will do. -/
theorem Since.mono {kind' : Entry → Bool} (s : Since kind h h')
    (hk : ∀ e, kind e = true → kind' e = true) : Since kind' h h' := by
  obtain ⟨new, rfl, hnew⟩ := s
  exact ⟨new, rfl, fun n hn => hk n.entry (hnew n hn)⟩

theorem Since.suffix (s : Since kind h h') : h <:+ h' := by
  obtain ⟨new, rfl, -⟩ := s
  exact List.suffix_append new h

/-- What has grown by entries of a kind has grown by them from any time on. -/
theorem Since.of_suffix (s : Since kind h h'') (g : h <:+ h') (g' : h' <:+ h'') :
    Since kind h' h'' := by
  obtain ⟨new, rfl, hnew⟩ := s
  obtain ⟨old, rfl⟩ := g
  obtain ⟨new', e⟩ := g'
  rw [← List.append_assoc] at e
  obtain rfl := List.append_cancel_right e
  exact ⟨new', List.append_assoc .., fun n hn => hnew n (List.mem_append_left _ hn)⟩

/-- A history has grown by entries of two kinds at once. -/
theorem Since.and {kind' : Entry → Bool} (s : Since kind h h') (s' : Since kind' h h') :
    Since (fun e => kind e && kind' e) h h' := by
  obtain ⟨new, rfl, hnew⟩ := s
  obtain ⟨new', e, hnew'⟩ := s'
  obtain rfl := List.append_cancel_right e
  exact ⟨new, rfl, fun n hn => Bool.and_eq_true_iff.mpr ⟨hnew n hn, hnew' n hn⟩⟩

/-- **What one entry of a kind keeps, a history keeps that grows by entries of that kind.** -/
theorem Since.keeps {P : History → Prop} (s : Since kind h h') (hh : P h)
    (step : ∀ n h, kind n.entry = true → P h → P (n :: h)) : P h' := by
  obtain ⟨new, rfl, hnew⟩ := s
  induction new with
  | nil => exact hh
  | cons n new ih =>
    exact step n _ (hnew n List.mem_cons_self) (ih fun m hm => hnew m (List.mem_cons_of_mem n hm))

/-- What holds at entries of a kind whatever was noted before them, still holds at every
note when a history grows by entries of that kind. -/
theorem Always.since (hh : Always p h) (s : Since kind h h')
    (free : ∀ n earlier, kind n.entry = true → p n earlier) : Always p h' :=
  s.keeps hh fun n earlier hn hh => .cons (free n earlier hn) hh

end History

end Proximity
