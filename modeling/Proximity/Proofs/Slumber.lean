import Proximity.Proofs.Readying
import Proximity.Proofs.Vigil

/-!
# The secondary sleeps while nothing is near

The secondary is expensive. Outside safe mode it should be on only while the primary is near
and waits for it, and off at all other times, without a timer that would switch it on.

The main statement is `Proximity.secondary_off`. The secondary is off and stays so if it was *let
off* when the primary went away (`Proximity.History.relieved`), and more precisely, if and only if
it is asleep (`Proximity.History.asleep`) and is not going to be looked at again
(`Proximity.History.contradicted`).

That need not be so while nothing is near. When the primary goes away, the secondary is switched
off only as a part of far's becoming the fused reading, and the recheck is not called off at all.
So a secondary that was switched on for a near primary stays on when the primary comes and goes
twice before anything was confirmed, and one that has contradicted the primary will be switched on
again by the timer (`Proximity.haunted_session`).
-/

namespace Proximity

variable {b : Bench}

/-- **The secondary sleeps while nothing is near.** When a fusion that has a secondary is at
work outside safe mode and the primary's last word is not near, the secondary is switched off
and no timer will switch it on, if the secondary was let off. If all calls come from the owner's
thread, this is so if and only if the secondary is asleep and will not be looked at again. -/
theorem secondary_off (h : Reached b) (there : b.sensors.secondary.available = true)
    (active : b.fusion.active = true) (guarded : b.fusion.safe = false)
    (away : b.history.primary ≠ some true) :
    (b.history.relieved = true →
      b.sensors.secondary.rests? = some true ∧ b.clock.rechecks = [])
    ∧ (b.history.Confined →
      (b.sensors.secondary.rests? = some true ∧ b.clock.rechecks = []
        ↔ b.history.asleep = true ∧ b.history.contradicted = false)) := by
  have tended := h.tended
  have tending : Tending b.history b.sensors.secondary.rests? b.fusion.pendingRecheck :=
    tended.cared there
  have told : b.history.safe = false := h.faithful.safe.symm.trans guarded
  have off : b.sensors.secondary.rests? = some true ↔ b.history.asleep = true := by
    obtain ⟨off, rests⟩ := Sensor.exists_rests?_of_available there
    rw [rests, Option.some_inj, tending.switch off rests]
  have idle : b.history.contradicted = false → b.clock.rechecks = [] := fun calm =>
    tended.tracked.rechecks_eq_nil (tending.waits.mpr calm)
  refine ⟨fun relieved => ⟨off.mpr ?_, idle ?_⟩, fun confined => and_congr off ⟨fun none => ?_, idle⟩⟩
  · exact History.asleep_of_relieved tending.awaited (h.readied active) told away relieved
  · exact History.contradicted_of_relieved away relieved
  · refine tending.waits.mp (Option.eq_none_iff_forall_ne_some.mpr fun id waits => ?_)
    obtain ⟨t, mem, -⟩ := tended.tracked.awaited confined id waits
    rw [show b.view.clock.rechecks = [] from none] at mem
    exact List.not_mem_nil mem

/-- A session in which the secondary contradicts the primary, which goes away after that. -/
def hauntedSession : Bench :=
  (Scenario.ofSensors (.standIn true [] []) (.standIn true [] []) []).after
    [.join "a", .event .primary true none, .event .secondary false none,
      .event .primary false none]

/-- **A timer can be about to switch the secondary on while nothing is near.** -/
theorem haunted_session :
    Reached hauntedSession ∧ hauntedSession.sensors.secondary.available = true
      ∧ hauntedSession.fusion.active = true ∧ hauntedSession.fusion.safe = false
      ∧ hauntedSession.history.primary = some false ∧ hauntedSession.history.relieved = false
      ∧ hauntedSession.clock.rechecks.length = 1 := by
  refine ⟨Scenario.reached_after rfl ?_ _, ?_, ?_, ?_, ?_, ?_, ?_⟩
  all_goals decide +kernel

/-- A session in which the secondary confirms the primary, which goes away after that. -/
def lulledSession : Bench :=
  (Scenario.ofSensors (.standIn true [] []) (.standIn true [] []) []).after
    [.join "a", .event .primary true none, .event .secondary true none,
      .event .primary false none]

/-- A session in which far becomes the fused reading in safe mode under a near primary, which goes
away when safe mode has been left. That is no news, but the secondary is asleep. -/
def drowsySession : Bench :=
  (Scenario.ofSensors (.standIn true [] []) (.standIn true [] []) []).after
    [.join "a", .safe true, .event .primary true none, .event .secondary false none, .safe false,
      .event .primary false none]

theorem secondary_off_session :
    lulledSession.history.relieved = true ∧ lulledSession.sensors.secondary.rests? = some true
      ∧ lulledSession.clock.rechecks = []
      ∧ drowsySession.history.relieved = false ∧ drowsySession.history.asleep = true
      ∧ drowsySession.sensors.secondary.rests? = some true
      ∧ drowsySession.clock.rechecks = [] := by
  have reached : Reached lulledSession := Scenario.reached_after rfl (by decide +kernel) _
  have relieved : lulledSession.history.relieved = true := by decide +kernel
  obtain ⟨off, none⟩ := (secondary_off reached (by decide +kernel) (by decide +kernel)
    (by decide +kernel) (by decide +kernel)).1 relieved
  have reached : Reached drowsySession := Scenario.reached_after rfl (by decide +kernel) _
  have asleep : drowsySession.history.asleep = true := by decide +kernel
  exact ⟨relieved, off, none, by decide +kernel, asleep,
    ((secondary_off reached (by decide +kernel) (by decide +kernel) (by decide +kernel)
      (by decide +kernel)).2 (by decide +kernel)).mpr ⟨asleep, by decide +kernel⟩⟩

end Proximity
