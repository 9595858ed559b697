import Proximity.Proofs.Custom

/-!
# What is done while listeners are being told something

While a broadcast is on, listeners may do what they like: ask for another one, have readings
fused, join, leave, pause, or fail. It makes no difference to the broadcast. The fusion remembers
that it is on (`Proximity.Civil`), and so nobody else begins one, and no error is logged; for only
a broadcast logs errors, and only about those whom it tells something.

To leave a broadcast on is a custom (`Proximity.Tact`) that has nothing to do with the callers of the
probe. So whatever is called, at any depth and on whatever bench, the broadcast stays on.
-/

namespace Proximity

open Act Session

variable {b b' b'' : Bench} {call : Reactor}

/-- **A broadcast is still on**, and no error has been logged. -/
structure Civil (b b' : Bench) : Prop where
  /-- The broadcast is on. -/
  telling : b'.fusion.telling = true
  /-- The same records are logged. -/
  threshold : b'.threshold = b.threshold
  /-- No error has been logged. -/
  journal : History.Since Entry.isCivil b.journal b'.journal

namespace Civil

theorem refl (on : b.fusion.telling = true) : Civil b b := ⟨on, rfl, .refl _ _⟩

/-- A broadcast that stays on at first and then, stays on. -/
theorem trans (h : Civil b b') (h' : Civil b' b'') : Civil b b'' :=
  ⟨h'.telling, h'.threshold.trans h.threshold, h.journal.trans h'.journal⟩

/-- Anything may be noted but an error. -/
theorem noted {entry : Entry} (on : b.fusion.telling = true) (civil : entry.isCivil = true) :
    Civil b (noted b entry) :=
  ⟨on, rfl, .cons (.refl _ _) civil⟩

end Civil

/-- **If a broadcast is on, it stays on.** -/
def Tact (b b' : Bench) : Prop := b.fusion.telling = true → Civil b b'

namespace Tact

instance : Tolerant Tact where
  refl _ := .refl
  trans h h' on := (h on).trans (h' (h on).telling)
  aside h on :=
    ⟨h.telling.trans on, h.threshold, h.journal.mono fun _ => Entry.isCivil_of_isIncidental⟩

/-- **While a broadcast is on, nobody begins another one.** -/
theorem broadcast (call : Reactor) (fresh : Bool) : Observed Tact (Fusion.broadcast call fresh) := by
  intro b
  refine Observed.after_bind (Observed.assertOwner b) fun _ b₁ _ r on => ?_
  have telling : b₁.fusion.telling = true := (r on).telling
  rw [after, exec_bind_of_ok (exec_getFusion b₁), telling]
  exact r on

instance : Custom Tact where
  broadcast _ fresh := broadcast _ fresh

instance : Careless Tact where
  note civil _ on := .noted on civil
  modifyProbe _ _ on := ⟨on, rfl, .refl _ _⟩

end Tact

end Proximity
