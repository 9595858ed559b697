import Proximity.Proofs.Tending

/-!
# A near primary is followed up

When the primary says that something is near, outside safe mode, that waits for the
secondary: to be confirmed, or to be contradicted, which leaves a recheck to be waited for. It
must not wait for nothing. The primary will not say the same again, so if the secondary is off
and no timer will switch it on, the fusion is stuck until the primary's word changes.

The main statement is `Proximity.secondary_on_or_recheck`: while the primary is near, the
secondary is on or one timer will switch it on, as long as it is not *stranded*
(`Proximity.History.stranded`). That happens when the primary says near while it is being
joined, before the fusion readies the secondary by switching it off
(`Proximity.stranded_session`).
-/

namespace Proximity

variable {b : Bench}

/-- **A near primary is followed up.** As long as every call comes from the owner's thread and
nobody changes the mode of a fusion that has a secondary, then while the primary's last word is
near, the secondary is switched on, or the fusion waits for just one timer that will switch it
on – unless the secondary is stranded. -/
theorem secondary_on_or_recheck (h : Reached b) (confined : b.history.Confined)
    (unswitched : b.history.Unswitched) (there : b.sensors.secondary.available = true)
    (near : b.history.primary = some true) (free : b.history.stranded = false) :
    b.sensors.secondary.rests? = some false
      ∨ ∃ t, b.clock.rechecks = [t] ∧ b.fusion.pendingRecheck = some t.id
          ∧ b.clock.isArmed t.id = true := by
  have tended := h.tended
  have tending : Tending b.history b.sensors.secondary.rests? b.fusion.pendingRecheck :=
    tended.cared there
  rcases History.awake_or_contradicted unswitched near free with awake | contradicted
  · obtain ⟨off, rests⟩ := Sensor.exists_rests?_of_available there
    rw [rests, (tending.switch off rests).trans awake]
    exact .inl rfl
  · have waits : b.fusion.pendingRecheck ≠ none :=
      mt tending.waits.mp (ne_false_of_eq_true contradicted)
    obtain ⟨id, waits⟩ := Option.ne_none_iff_exists'.mp waits
    obtain ⟨t, only, rfl⟩ := tended.tracked.rechecks_eq_singleton confined waits
    have only : b.clock.rechecks = [t] := only
    have armed : t.id ∈ b.clock.armed :=
      tended.tracked.armed t (only ▸ List.mem_singleton_self t)
    exact .inr ⟨t, only, waits, decide_eq_true armed⟩

/-- A session in which the secondary is stranded: the primary says near while it is being
joined, and the fusion, which switches the secondary on for that, readies it next. The
primary's saying it again changes nothing. -/
def strandedSession : Bench :=
  (Scenario.ofSensors (.standIn true [] [some true]) (.standIn true [] []) []).after
    [.join "a", .event .primary true none]

/-- **A near primary can be forgotten.** -/
theorem stranded_session :
    Reached strandedSession ∧ strandedSession.history.Confined
      ∧ strandedSession.history.Unswitched
      ∧ strandedSession.sensors.secondary.available = true
      ∧ strandedSession.fusion.active = true ∧ strandedSession.history.primary = some true
      ∧ strandedSession.history.stranded = true
      ∧ strandedSession.sensors.secondary.rests? = some true
      ∧ strandedSession.clock.pending.length = 0 := by
  refine ⟨Scenario.reached_after rfl ?_ _, ?_, ?_, ?_, ?_, ?_, ?_, ?_, ?_⟩
  all_goals decide +kernel

/-- A session in which the secondary contradicts the primary. -/
def contradictedSession : Bench :=
  (Scenario.ofSensors (.standIn true [] []) (.standIn true [] []) []).after
    [.join "a", .event .primary true none, .event .secondary false none]

theorem secondary_on_or_recheck_session :
    contradictedSession.sensors.secondary.rests? = some true
      ∧ ∃ t, contradictedSession.clock.rechecks = [t]
          ∧ contradictedSession.fusion.pendingRecheck = some t.id
          ∧ contradictedSession.clock.isArmed t.id = true := by
  have reached : Reached contradictedSession := Scenario.reached_after rfl (by decide +kernel) _
  have off : contradictedSession.sensors.secondary.rests? = some true := by decide +kernel
  refine ⟨off, (secondary_on_or_recheck reached (by decide +kernel) (by decide +kernel)
    (by decide +kernel) (by decide +kernel) (by decide +kernel)).resolve_left ?_⟩
  rw [off]
  decide

end Proximity
