import Proximity.Proofs.Deed

/-!
# The history tells what the fusion remembers

A fusion remembers nothing about its listeners, its sensors and itself that is not to
be read off the history: `Proximity.Faithful`. So whoever knows the history knows who
listens, what was fused last and whether the fusion is at work, and a claim about the
memory of the fusion can be stated, and proved, as one about histories.
-/

namespace Proximity

/-- **The fusion remembers just what the history tells.** -/
structure Faithful (v : View) : Prop where
  /-- It is paused if that is what was done last. -/
  paused : v.fusion.paused = v.history.paused
  /-- It is in the mode that was asked for last. -/
  safe : v.fusion.safe = v.history.safe
  /-- Those listen who have joined and not left. -/
  listeners : v.fusion.listeners = v.history.audience
  /-- The last reading of the primary is what the primary said last. -/
  primary : v.fusion.lastPrimary.map (·.near) = v.history.primary
  /-- The last fused reading is the one that was accepted last. -/
  fused : v.fusion.lastFused = v.history.fused
  /-- It is at work if it went to work and did not stop. -/
  active : v.fusion.active = v.history.active
  /-- It is telling its listeners something if a broadcast is on. -/
  telling : v.fusion.telling = v.history.telling

namespace Faithful

variable {v v' : View}

/-- A call from another thread is refused before anything is remembered. -/
theorem fatal (h : Faithful v) {entry : Entry} (he : entry.isFatal = true) :
    Faithful (v.note entry) := by
  obtain ⟨_, _, _, rfl⟩ := Entry.exists_of_isFatal he
  exact { h with }

/-- What the primary said last is remembered. -/
theorem sense (h : Faithful v) (r : Reading) : Faithful (v.sense r) :=
  { h with primary := rfl }

/-- What the secondary says is not. -/
theorem second (h : Faithful v) (r : Reading) : Faithful (v.second r) := by
  rw [View.second]
  split <;> exact { h with }

/-- A fusion that stops working forgets its readings, as the history does. -/
theorem tearDown (h : Faithful v) : Faithful v.tearDown := by
  rw [View.tearDown]
  split
  · exact { h with primary := rfl, fused := rfl, active := rfl }
  · exact h

/-- A listener leaves, and is no longer in the audience. -/
theorem drop (h : Faithful v) (l : Listener) : Faithful (v.drop l) := by
  rw [View.drop]
  split
  · exact { h with listeners := congrArg (·.erase l) h.listeners }
  · rename_i absent
    exact { h with listeners := (List.erase_of_not_mem absent).trans h.listeners }

theorem leave (h : Faithful v) (l : Listener) : Faithful (v.leave l) := by
  rw [View.leave]
  split
  · exact (h.drop l).tearDown
  · exact h.drop l

/-- A listener joins, and is in the audience. -/
theorem join (h : Faithful v) (l : Listener) : Faithful (v.join l) := by
  rw [View.join]
  split
  · exact h
  · exact { h with listeners := congrArg (· ++ [l]) h.listeners }

/-- **Moves** leave a faithful memory faithful. -/
theorem move (hm : Move v v') (h : Faithful v) : Faithful v' := by
  cases hm with
  | refuse he => exact h.fatal he
  | sample => exact { h with }
  | elapse => exact { h with }
  | tag => exact { h with }
  | again r old => exact { h with primary := not_not.mp old }
  | consult r => exact { h.sense r with }
  | await r => exact h.sense r
  | verify r => exact { h.sense r with }
  | disown => exact { h with }
  | overhear r => exact h.second r
  | pause =>
    have h' : Faithful ((v.turn .paused).change fun f => { f with paused := true }) :=
      { h with paused := rfl }
    exact h'.tearDown
  | leave name => exact h.leave (.named name)
  | mode on => cases on <;> exact { h with safe := rfl }
  | ready => exact { h with }
  | link => exact { h with }
  | recheck => exact { h with }
  | lapse _ _ he => exact fatal (v := v.strike _) { h with } he
  | enqueue => exact { h with }
  | strand timeout _ _ _ he => exact fatal (v := v.openCheck timeout _) { h with } he
  | abandon near he => exact fatal (v := (v.take near).stopTimer) { h with } he
  | forsake _ _ he => exact fatal (v := ((v.giveUp _).take none).stopTimer) { h with } he

/-- So does what a sensor says. -/
theorem heard {r : Reading} (hh : Heard r v v') (h : Faithful v) : Faithful v' := by
  cases hh with
  | alone | gone => exact h.sense r
  | counted => exact h.second r

theorem close {near : Option Bool} {waiting : List Caller} (hc : Close near v waiting v')
    (h : Faithful v) : Faithful v' := by
  cases hc with
  | reading =>
    have h' := leave (v := (v.take near).stopTimer) { h with } .probe
    exact { h' with }
  | @expiry t =>
    have h' := leave (v := ((v.giveUp t).take none).stopTimer) { h with } .probe
    exact { h' with }
  | decline => exact { h with }

/-- The fused reading is remembered. -/
theorem accept (h : Faithful v) (r : Reading) : Faithful (v.accept r) := by
  rw [View.accept]
  split <;> exact { h with fused := rfl }

/-- Every deed keeps the memory faithful. -/
theorem deed (hd : Deed v v') (h : Faithful v) : Faithful v' := by
  cases hd with
  | move hm => exact h.move hm
  | going hg =>
    cases hg with
    | rise hr =>
      cases hr with
      | join name => exact h.join (.named name)
      | resume => exact { h with paused := rfl }
      | begin timeout => exact join (v := v.openCheck timeout _) { h with } .probe
    | activate => exact { h with active := rfl }
  | taking ht =>
    cases ht with
    | passOver hh => exact h.heard hh
    | @accept r _ u hh => exact (h.heard hh).accept r
  | telling ht =>
    cases ht with
    | hail => exact { h with telling := rfl }
    | tell => exact { h with }
    | hush => exact { h with telling := rfl }
  | giving hg =>
    cases hg with
    | close hc => exact h.close hc
    | reply => exact { h with }
    | balk => exact { h with }

end Faithful

/-- **The memory of the fusion stays faithful to the history.** -/
theorem law_faithful : Law fun v v' => Faithful v → Faithful v' := .ofInvariant Faithful.deed

end Proximity
