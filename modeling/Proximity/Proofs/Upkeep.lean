import Proximity.Proofs.Plain

/-!
# What most deeds leave alone

A fusion has some things to keep in order: its sensors, its timer, and whether it is at work
(`Proximity.View.apparatus`). Few deeds are about these. All others come to a handful of
things: an entry is written while the apparatus stays as it is (`Proximity.Idles`), the fusion
stops working, and the timer of the probe is set, called off, or goes off. There is no more to
coming and going, to telling the listeners, and to answering the callers.

So a property that is *kept up* by that handful (`Proximity.Upkeep`) is kept by every deed that
is not about the sensors, and only the others have to be looked at
(`Proximity.Upkeep.deed`).
-/

namespace Proximity

/-- Whether an entry is about nothing that the fusion does with its sensors or hears from
them. -/
def Entry.isRoutine : Entry → Bool
  | .turned (.mode _) | .turned (.sensed _ _) | .turned (.fused _) => false
  | .turned .readied | .turned .activated | .turned .tornDown | .turned .rechecked => false
  | _ => true

/-- **Only entries of a kind are added to the history**, and neither the secondary nor the
recheck is touched. -/
structure Spares (kind : Entry → Bool) (v v' : View) : Prop extends Adds kind v v' where
  /-- The secondary is as much switched off as it was. -/
  rests : v'.secondaryRests = v.secondaryRests
  /-- The same recheck is waited for. -/
  recheck : v'.fusion.pendingRecheck = v.fusion.pendingRecheck

namespace Spares

variable {kind kind' : Entry → Bool} {v v' : View}

theorem mono (h : Spares kind v v') (hk : ∀ e, kind e = true → kind' e = true) :
    Spares kind' v v' :=
  ⟨h.toAdds.mono hk, h.rests, h.recheck⟩

/-- Nothing need be added. -/
theorem none (hh : v'.history = v.history) (hp : v'.primaryThere = v.primaryThere)
    (hs : v'.secondaryThere = v.secondaryThere) (hr : v'.secondaryRests = v.secondaryRests)
    (hc : v'.fusion.pendingRecheck = v.fusion.pendingRecheck) : Spares kind v v' :=
  ⟨.none hh hp hs, hr, hc⟩

/-- One entry may be added. -/
theorem one {n : Note} (hn : kind n.entry = true) (hh : v'.history = n :: v.history)
    (hp : v'.primaryThere = v.primaryThere) (hs : v'.secondaryThere = v.secondaryThere)
    (hr : v'.secondaryRests = v.secondaryRests)
    (hc : v'.fusion.pendingRecheck = v.fusion.pendingRecheck) : Spares kind v v' :=
  ⟨.one hn hh hp hs, hr, hc⟩

end Spares

namespace View

/-- What the fusion and the probe know of their timers, and the clock these are on. -/
def clockwork (v : View) : Clock × Option Nat × Option Nat :=
  (v.clock, v.fusion.pendingRecheck, v.timer)

/-- **What a fusion has to keep in order**: its sensors, the timers, whether it has joined its
sensors, and whether it is at work. -/
def apparatus (v : View) :
    (Bool × Bool × Option Bool) × (Clock × Option Nat × Option Nat) × Bool × Bool :=
  ((v.primaryThere, v.secondaryThere, v.secondaryRests), v.clockwork,
    (v.fusion.connected, v.fusion.active))

end View

/-- **Only routine entries are written**, and the apparatus is left as it is. -/
structure Idles (v v' : View) : Prop where
  /-- The history has only grown by routine entries. -/
  history : v.history.Since Entry.isRoutine v'.history
  /-- The apparatus is as it was. -/
  apparatus : v'.apparatus = v.apparatus

namespace Idles

variable {v v' : View}

theorem clockwork (h : Idles v v') : v'.clockwork = v.clockwork := congrArg (·.2.1) h.apparatus

theorem connected (h : Idles v v') : v'.fusion.connected = v.fusion.connected :=
  congrArg (·.2.2.1) h.apparatus

theorem active (h : Idles v v') : v'.fusion.active = v.fusion.active :=
  congrArg (·.2.2.2) h.apparatus

/-- What is idle spares the sensors. -/
theorem spares (h : Idles v v') : Spares Entry.isRoutine v v' where
  history := h.history
  primary := congrArg (·.1.1) h.apparatus
  secondary := congrArg (·.1.2.1) h.apparatus
  rests := congrArg (·.1.2.2) h.apparatus
  recheck := congrArg (·.2.1.2.1) h.apparatus

end Idles

/-- **A property that is kept up by what most deeds come to.** -/
structure Upkeep (P : View → Prop) : Prop where
  /-- Routine entries may be written. -/
  idles : ∀ {v v'}, Idles v v' → P v → P v'
  /-- The fusion may stop working. -/
  tearDown : ∀ {v}, P v → P v.tearDown
  /-- The timer of the probe may be set. -/
  setTimer : ∀ {v} (timeout : Number), P v → P (v.setTimer timeout)
  /-- The timer of the probe may be called off. -/
  stopTimer : ∀ {v}, P v → P v.stopTimer
  /-- The timer of the probe may go off. -/
  giveUp : ∀ {v t}, t ∈ v.clock.pending → t.task = .giveUp → P v → P (v.giveUp t)

namespace Upkeep

variable {P : View → Prop} {v v' : View}

theorem none (U : Upkeep P) (p : P v) (hh : v'.history = v.history)
    (ha : v'.apparatus = v.apparatus) : P v' :=
  U.idles ⟨hh ▸ .refl _ _, ha⟩ p

/-- One routine entry is written. -/
theorem one (U : Upkeep P) (p : P v) {n : Note} (hn : n.entry.isRoutine = true)
    (hh : v'.history = n :: v.history) (ha : v'.apparatus = v.apparatus) : P v' :=
  U.idles ⟨hh ▸ .cons (.refl _ _) hn, ha⟩ p

/-! ### Coming and going -/

/-- A fusion that is paused stops working. -/
theorem pause (U : Upkeep P) (p : P v) : P v.pause := by
  have stops : P ((v.turn .paused).change fun f => { f with paused := true }) :=
    U.one p rfl rfl rfl
  exact U.tearDown stops

/-- A listener leaves. -/
theorem drop (U : Upkeep P) (p : P v) (l : Listener) : P (v.drop l) := by
  rw [View.drop]
  split
  · exact U.one p rfl rfl rfl
  · exact U.none p rfl rfl

/-- The last listener leaves, and the fusion stops working. -/
theorem leave (U : Upkeep P) (p : P v) (l : Listener) : P (v.leave l) := by
  rw [View.leave]
  split
  · exact U.tearDown (U.drop p l)
  · exact U.drop p l

/-- A listener joins. -/
theorem join (U : Upkeep P) (p : P v) (l : Listener) : P (v.join l) := by
  rw [View.join]
  split
  · exact p
  · exact U.one p rfl rfl rfl

/-! ### Checks -/

/-- A check is opened, with a timer that is none of the fusion. -/
theorem openCheck (U : Upkeep P) (p : P v) (timeout : Number) (c : Caller) :
    P (v.openCheck timeout c) := by
  have queued : P ((v.ask timeout).queue c) := U.one p rfl rfl rfl
  exact U.setTimer timeout queued

/-- Those who wait have their answer, and the timer is called off. -/
theorem taken (U : Upkeep P) (p : P v) (near : Option Bool) : P (v.take near).stopTimer := by
  have took : P (v.take near) := U.one p rfl rfl rfl
  exact U.stopTimer took

/-- A check is over. -/
theorem ended (U : Upkeep P) (p : P v) (near : Option Bool) : P (v.close near) :=
  U.none (U.leave (U.taken p near) .probe) rfl rfl

/-! ### Calls from another thread -/

/-- A call from another thread is refused. -/
theorem fatal (U : Upkeep P) (p : P v) {entry : Entry} (he : entry.isFatal = true) :
    P (v.note entry) := by
  obtain ⟨_, _, _, rfl⟩ := Entry.exists_of_isFatal he
  exact U.one p rfl rfl rfl

/-! ### Deeds -/

/-- A fusion that is about to go to work has done no more than take note of who wants it. -/
theorem rise (U : Upkeep P) (hr : Rise v v') (p : P v) : P v' := by
  cases hr with
  | join name => exact U.join p (.named name)
  | resume => exact U.one p rfl rfl rfl
  | @begin timeout c => exact U.join (U.openCheck p timeout c) .probe

theorem telling (U : Upkeep P) (ht : Telling v v') (p : P v) : P v' := by
  cases ht <;> exact U.one p rfl rfl rfl

/-- Callers of the probe do not concern the fusion. -/
theorem giving (U : Upkeep P) (hg : Giving v v') (p : P v) : P v' := by
  cases hg with
  | reply | balk => exact U.one p rfl rfl rfl
  | close hc =>
    cases hc with
    | reading => exact U.ended p _
    | expiry ht task => exact U.ended (U.giveUp ht task p) _
    | decline timeout =>
      have asked : P (v.ask timeout) := U.one p rfl rfl rfl
      exact U.one asked rfl rfl rfl

/-- **What is kept up is kept by every deed**, if the deeds about the sensors keep it. -/
theorem deed (U : Upkeep P) (p : P v) (hd : Deed v v') (move : Move v v' → P v')
    (taking : Taking v v' → P v') (activate : P v.activate) : P v' := by
  cases hd with
  | move hm => exact move hm
  | going hg =>
    cases hg with
    | rise hr => exact U.rise hr p
    | activate => exact activate
  | taking ht => exact taking ht
  | telling ht => exact U.telling ht p
  | giving hg => exact U.giving hg p

end Upkeep

end Proximity
