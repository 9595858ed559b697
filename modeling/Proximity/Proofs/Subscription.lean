import Mathlib.Data.List.Nodup
import Proximity.Proofs.Exec

/-!
# The ledger of subscriptions

A hysteresis sensor learns how to stop a subscription only when the call that makes it comes
back, and until then anything may happen: the source delivers samples from inside that call,
listeners are told, and they pause the sensor, resume it, or give it another delay, so that
it subscribes again, in just the same way. So at any time some calls are *in flight*
(`Proximity.Flight`), each with the number of its subscription and the generation of sampling
that it was made for.

Through all of that every subscription that was made is accounted for
(`Proximity.Ledger`): it has been stopped, or the sensor holds it, or its call is in flight.
While the sensor is sampling, the latest subscription is held, or else it is in flight for
the current generation (`Proximity.Sound`). What happens to a ledger is this:

| | |
|---|---|
| `Proximity.Ledger.release` | what is held is stopped, and a new generation begins |
| `Proximity.Ledger.depart` | sampling starts, and a call takes off |
| `Proximity.Sound.land` | the call for the current generation comes back, and is held |
| `Proximity.Sound.divert` | the call for another generation comes back, and is stopped |

When no call is in flight, the books balance (`Proximity.Sound.balanced`).
-/

namespace Proximity

/-- The subscription to the source of the sole sensor that an entry is about making. -/
def Entry.made? : Entry → Option (Nat × Number)
  | .subscribed .sole n delay => some (n, delay)
  | _ => none

/-- The subscription to the source of the sole sensor that an entry is about stopping. -/
def Entry.stopped? : Entry → Option Nat
  | .stopped .sole n => some n
  | _ => none

/-- **The subscriptions that were made** to the source of the sole sensor, with their delays,
the latest first. -/
def Bench.made (b : Bench) : List (Nat × Number) := b.journal.filterMap (·.entry.made?)

/-- **The subscriptions that were stopped**, the latest first. -/
def Bench.stopped (b : Bench) : List Nat := b.journal.filterMap (·.entry.stopped?)

/-- How often the source was subscribed to. -/
def Hysteresis.subscriptions (h : Hysteresis) : Nat := (h.source.map (·.subscriptions)).getD 0

/-- **A call that subscribes to the source and has not come back.** -/
structure Flight where
  /-- The number of the subscription. -/
  number : Nat
  /-- The generation of sampling that it was made for. -/
  generation : Nat

/-- **Every subscription is accounted for.** -/
structure Ledger (flights : List Flight) (h : Hysteresis) (made : List (Nat × Number))
    (stopped : List Nat) : Prop where
  /-- The subscriptions are numbered in their order. -/
  numbered : made.map (·.1) = (List.range' 1 h.subscriptions).reverse
  /-- A subscription has been stopped, is held, or is in flight. -/
  split : (made.map (·.1)).Perm (stopped ++ (h.subscription.toList ++ flights.map (·.number)))
  /-- No two calls in flight are for the same generation. -/
  apart : (flights.map (·.generation)).Nodup
  /-- No call in flight is for a generation to come. -/
  past : ∀ f ∈ flights, f.generation ≤ h.generation

/-- No subscription is held, and none is in flight for the current generation. -/
def Idle (flights : List Flight) (h : Hysteresis) : Prop :=
  h.subscription = none ∧ ∀ f ∈ flights, f.generation ≠ h.generation

/-- **A subscription is the current one**: it is held, or else it is in flight for the current
generation. -/
def Current (flights : List Flight) (h : Hysteresis) (n : Nat) : Prop :=
  (h.subscription = some n ∧ ∀ f ∈ flights, f.generation ≠ h.generation)
    ∨ (h.subscription = none ∧ ⟨n, h.generation⟩ ∈ flights)

/-- **The ledger of a sensor that samples or does not.** -/
structure Sound (flights : List Flight) (h : Hysteresis) (made : List (Nat × Number))
    (stopped : List Nat) : Prop extends Ledger flights h made stopped where
  /-- While the sensor is sampling, its latest subscription is the current one, with the
  delay that is asked for. -/
  on : h.sampling = true → ∃ n, Current flights h n ∧ made.head? = some (n, h.delay)
  /-- While it is not, there is none, and it remembers no report. -/
  off : h.sampling = false → Idle flights h ∧ h.last = none

variable {flights : List Flight} {h h' : Hysteresis} {made : List (Nat × Number)}
  {stopped : List Nat} {n g : Nat}

namespace Ledger

theorem congr (l : Ledger flights h made stopped) (subs : h'.subscriptions = h.subscriptions)
    (subscription : h'.subscription = h.subscription)
    (generation : h'.generation = h.generation) : Ledger flights h' made stopped :=
  ⟨subs ▸ l.numbered, subscription ▸ l.split, l.apart, generation ▸ l.past⟩

/-- **What is held is stopped**, and a new generation begins. -/
theorem release (l : Ledger flights h made stopped) (subs : h'.subscriptions = h.subscriptions)
    (gen : h'.generation = h.generation + 1) (none : h'.subscription = none) :
    Ledger flights h' made (h.subscription.toList ++ stopped) ∧ Idle flights h' := by
  refine ⟨⟨subs ▸ l.numbered, ?_, l.apart, fun f hf => ?_⟩, none, fun f hf => ?_⟩
  · rw [none, List.append_assoc]
    exact l.split.trans (List.perm_append_comm_assoc _ _ _)
  · exact gen ▸ Nat.le_succ_of_le (l.past f hf)
  · exact gen ▸ Nat.ne_of_lt (Nat.lt_succ_of_le (l.past f hf))

/-- **Sampling starts**, and a call takes off for a new generation. -/
theorem depart (l : Ledger flights h made stopped) (idle : Idle flights h)
    (subs : h'.subscriptions = h.subscriptions + 1) (gen : h'.generation = h.generation + 1)
    (same : h'.subscription = h.subscription) (on : h'.sampling = true) :
    Sound (⟨h'.subscriptions, h'.generation⟩ :: flights) h'
      ((h'.subscriptions, h'.delay) :: made) stopped := by
  have none : h'.subscription = none := same.trans idle.1
  refine ⟨⟨?_, ?_, ?_, fun f hf => ?_⟩, fun _ => ⟨_, .inr ⟨none, List.mem_cons_self⟩, rfl⟩, ?_⟩
  · rw [List.map_cons, l.numbered, subs, List.range'_1_concat, List.reverse_concat, Nat.add_comm 1]
  · have split := l.split
    rw [idle.1] at split
    rw [none, List.map_cons, List.map_cons]
    exact (split.cons _).trans List.perm_middle.symm
  · refine List.nodup_cons.mpr ⟨fun mem => ?_, l.apart⟩
    obtain ⟨f, hf, e⟩ := List.mem_map.mp mem
    have past := l.past f hf
    have e : f.generation = h'.generation := e
    omega
  · rcases List.mem_cons.mp hf with rfl | hf
    · exact Nat.le_refl _
    · exact gen ▸ Nat.le_succ_of_le (l.past f hf)
  · rw [on]
    exact nofun

end Ledger

namespace Sound

/-- What matters of a sensor to its ledger. -/
theorem congr (s : Sound flights h made stopped) (subs : h'.subscriptions = h.subscriptions)
    (same : h'.subscription = h.subscription ∧ h'.generation = h.generation
      ∧ h'.sampling = h.sampling ∧ h'.delay = h.delay ∧ h'.last = h.last) :
    Sound flights h' made stopped := by
  obtain ⟨subscription, generation, sampling, delay, last⟩ := same
  have current : ∀ n, Current flights h' n ↔ Current flights h n := fun n => by
    rw [Current, Current, subscription, generation]
  have idle : Idle flights h' ↔ Idle flights h := by
    rw [Idle, Idle, subscription, generation]
  constructor
  · exact s.toLedger.congr subs subscription generation
  · simpa only [sampling, delay, current] using s.on
  · simpa only [sampling, last, idle] using s.off

/-- **The call for the current generation comes back**, and its subscription is held. -/
theorem land (s : Sound (⟨n, g⟩ :: flights) h made stopped) (same : h.generation = g) :
    Sound flights { h with subscription := some n } made stopped := by
  obtain ⟨fresh, apart⟩ := List.nodup_cons.mp s.apart
  have others : ∀ f ∈ flights, f.generation ≠ h.generation := fun f hf e =>
    fresh (List.mem_map.mpr ⟨f, hf, e.trans same⟩)
  -- Sampling must be on, since a call for the current generation is in flight; and then that
  -- call, being the only one, is for the latest subscription.
  have on : h.sampling = true := by
    cases off : h.sampling with
    | true => rfl
    | false => exact absurd same.symm ((s.off off).1.2 _ List.mem_cons_self)
  obtain ⟨k, current, latest⟩ := s.on on
  have inFlight : h.subscription = none ∧ k = n := by
    rcases current with ⟨-, none⟩ | ⟨none, mem⟩
    · exact absurd same.symm (none _ List.mem_cons_self)
    · rcases List.mem_cons.mp mem with e | mem
      · exact ⟨none, congrArg Flight.number e⟩
      · exact absurd rfl (others _ mem)
  obtain ⟨none, rfl⟩ := inFlight
  have split := s.split
  rw [none] at split
  refine ⟨⟨s.numbered, split, apart, fun f hf => s.past f (List.mem_cons_of_mem _ hf)⟩,
    fun _ => ⟨k, .inl ⟨rfl, others⟩, latest⟩, fun off => ?_⟩
  cases on.symm.trans off

/-- **The call for another generation comes back**, and its subscription is stopped. -/
theorem divert (s : Sound (⟨n, g⟩ :: flights) h made stopped) (other : h.generation ≠ g) :
    Sound flights h made (n :: stopped) := by
  have apart := (List.nodup_cons.mp s.apart).2
  refine ⟨⟨s.numbered, ?_, apart, fun f hf => s.past f (List.mem_cons_of_mem _ hf)⟩,
    fun on => ?_, fun off => ?_⟩
  · refine s.split.trans ?_
    rw [List.map_cons, ← List.append_assoc, List.cons_append, ← List.append_assoc]
    exact List.perm_middle
  · obtain ⟨k, current, latest⟩ := s.on on
    refine ⟨k, ?_, latest⟩
    rcases current with ⟨held, none⟩ | ⟨none, mem⟩
    · exact .inl ⟨held, fun f hf => none f (List.mem_cons_of_mem _ hf)⟩
    · rcases List.mem_cons.mp mem with e | mem
      · exact absurd (congrArg Flight.generation e) other
      · exact .inr ⟨none, mem⟩
  · obtain ⟨⟨none, others⟩, last⟩ := s.off off
    exact ⟨⟨none, fun f hf => others f (List.mem_cons_of_mem _ hf)⟩, last⟩

end Sound

/-! ### When no call is in flight -/

/-- **The books of a sensor balance.** -/
structure Balanced (h : Hysteresis) (made : List (Nat × Number)) (stopped : List Nat) : Prop where
  /-- The sensor samples just when it is there, is not paused and has listeners. -/
  sampling : h.sampling = true ↔ h.source.isSome = true ∧ h.paused = false ∧ h.listeners ≠ []
  /-- All subscriptions are stopped but one, if it samples. -/
  difference : made.length = stopped.length + if h.sampling then 1 else 0
  /-- Each is stopped at most once. -/
  once : stopped.Nodup
  /-- Only what was subscribed to is stopped. -/
  known : ∀ n ∈ stopped, n ∈ made.map (·.1)
  /-- The only live subscription of a sensor that samples is the latest, which was made with
  the delay that is asked for. -/
  live : h.sampling = true → ∃ n, made.head? = some (n, h.delay) ∧ h.subscription = some n
    ∧ ∀ m ∈ made.map (·.1), m ∉ stopped ↔ m = n
  /-- A sensor that does not sample has nothing to stop and remembers no report. -/
  forgets : h.sampling = false → h.subscription = none ∧ h.last = none

theorem Hysteresis.wantsSamples_iff :
    h.wantsSamples = true ↔ h.source.isSome = true ∧ h.paused = false ∧ h.listeners ≠ [] := by
  simp [wantsSamples, available, and_assoc]

/-- **Without calls in flight, the books balance.** -/
theorem Sound.balanced (s : Sound [] h made stopped) (wants : h.sampling = h.wantsSamples) :
    Balanced h made stopped := by
  have split : (made.map (·.1)).Perm (stopped ++ h.subscription.toList) := by
    simpa using s.split
  have distinct : (stopped ++ h.subscription.toList).Nodup := by
    refine split.nodup_iff.mp ?_
    rw [s.numbered]
    exact List.nodup_reverse.mpr List.nodup_range'
  have held : h.sampling = true → ∃ n, h.subscription = some n ∧ made.head? = some (n, h.delay) := by
    intro on
    obtain ⟨n, current, latest⟩ := s.on on
    rcases current with ⟨held, -⟩ | ⟨-, mem⟩
    · exact ⟨n, held, latest⟩
    · exact absurd mem List.not_mem_nil
  refine ⟨wants ▸ Hysteresis.wantsSamples_iff, ?_, distinct.of_append_left, fun n hn => ?_,
    fun on => ?_, fun off => ⟨(s.off off).1.1, (s.off off).2⟩⟩
  · have length := split.length_eq
    rw [List.length_map, List.length_append] at length
    rw [length]
    cases sampling : h.sampling with
    | true =>
      obtain ⟨n, e, -⟩ := held sampling
      rw [e]
      rfl
    | false =>
      rw [(s.off sampling).1.1]
      rfl
  · exact split.mem_iff.mpr (List.mem_append_left _ hn)
  · obtain ⟨n, e, latest⟩ := held on
    rw [e] at split distinct
    refine ⟨n, latest, e, fun m hm => ⟨fun unstopped => ?_, fun e stops => ?_⟩⟩
    · rcases List.mem_append.mp (split.mem_iff.mp hm) with stops | m_eq
      · exact absurd stops unstopped
      · exact List.mem_singleton.mp m_eq
    · exact List.disjoint_of_nodup_append distinct stops (List.mem_singleton.mpr e)

end Proximity
