import Proximity.Step

/-!
# Timers

A clock with the timers that are pending on it. A timer is due at a time; when
the clock is moved on, the timers that have become due fire in the order of their
due times, those set first coming first among equals.

Whoever sets a timer gets a handle, and handles have a memory of their own: a
handle is *armed* until its timer is cleared through it or fires. So "armed" and
"pending" are two records of the same fact, kept at different moments.
-/

namespace Proximity

/-- What is to be done when a timer fires. -/
inductive Task where
  /-- The fusion looks at its secondary sensor again. -/
  | recheck
  /-- The probe gives up waiting. -/
  | giveUp
  /-- A task from outside, with a name and what it does. -/
  | scripted (name : String) (script : List Step)
  deriving Inhabited

/-- A pending timer. -/
structure Timer where
  /-- The number of the timer. -/
  id : Nat
  /-- When it is due. -/
  due : Number
  /-- What is to be done then. -/
  task : Task
  deriving Inhabited

/-- **A clock with its timers.** -/
structure Clock where
  /-- The time. -/
  now : Number
  /-- The number of the timer that was set last. -/
  lastId : Nat
  /-- The timers that are pending, in the order they were set. -/
  pending : List Timer
  /-- The timers whose handles are armed. -/
  armed : List Nat
  deriving Inhabited

namespace Clock

/-- A clock at zero, without timers. -/
def start : Clock := ⟨0, 0, [], []⟩

/-- The clock with one more timer, due after a delay. No delay is less than
none. -/
def set (c : Clock) (delay : Number) (task : Task) : Clock :=
  let id := c.lastId + 1
  { c with
    lastId := id
    pending := c.pending ++ [⟨id, c.now + delay.atLeastZero, task⟩]
    armed := c.armed ++ [id] }

/-- The clock without a pending timer. -/
def remove (c : Clock) (id : Nat) : Clock :=
  { c with pending := c.pending.filter (·.id != id) }

/-- The clock with a handle no longer armed. -/
def disarm (c : Clock) (id : Nat) : Clock := { c with armed := c.armed.filter (· != id) }

/-- Whether the handle of a timer is armed. -/
def isArmed (c : Clock) (id : Nat) : Bool := id ∈ c.armed

/-- Removing a timer leaves the others pending. -/
theorem mem_pending_remove {c : Clock} {id : Nat} {t : Timer} :
    t ∈ (c.remove id).pending ↔ t ∈ c.pending ∧ t.id ≠ id := by
  simp [remove]

/-- The earliest of some timers; of several equally early, the first. -/
def earliest? : List Timer → Option Timer
  | [] => none
  | t :: rest =>
    match earliest? rest with
    | none => some t
    | some u => if u.due < t.due then some u else some t

/-- The earliest of some timers is one of them. -/
theorem mem_of_earliest? {timers : List Timer} {t : Timer} (h : earliest? timers = some t) :
    t ∈ timers := by
  induction timers generalizing t with
  | nil => simp [earliest?] at h
  | cons first rest ih =>
    rw [earliest?] at h
    cases hrest : earliest? rest with
    | none =>
      rw [hrest] at h
      exact List.mem_cons.mpr (Or.inl (Option.some.inj h).symm)
    | some u =>
      simp only [hrest] at h
      split at h
      · exact List.mem_cons_of_mem first (Option.some.inj h ▸ ih hrest)
      · exact List.mem_cons.mpr (Or.inl (Option.some.inj h).symm)

/-- **The timer that fires next** when the clock is moved on to a time. -/
def next? (c : Clock) (limit : Number) : Option Timer :=
  earliest? (c.pending.filter (·.due ≤ limit))

/-- The clock at a later time, or where it is when the time is not later. -/
def reach (c : Clock) (time : Number) : Clock :=
  { c with now := if c.now < time then time else c.now }

end Clock

end Proximity
