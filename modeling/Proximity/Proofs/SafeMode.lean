import Proximity.Proofs.Tending

/-!
# Safe mode keeps the secondary on

In safe mode the secondary may stay on whatever the primary says. Nothing that is done there
switches it off, except one thing: a fusion that stops working switches off both its sensors,
in either mode. When it goes back to work, it switches on the primary alone, since it has joined
its sensors before. The secondary is then *dormant* (`Proximity.History.dormant`) until the
primary has something to say, or safe mode is asked for once more.

The main statement is `Proximity.secondary_on_iff_not_dormant`: in safe mode, the secondary is on
if and only if it is not dormant. That it can be dormant under a fusion that is at work is
`Proximity.dormant_session`.

| in safe mode | the secondary |
|---|---|
| safe mode is entered, or asked for again | is switched on |
| the fusion stops working | is switched off, and no recheck is waited for |
| the primary has news | is switched on, unless a recheck is waited for |
| a recheck comes | is switched on |

So in safe mode the secondary is asleep just when it is dormant
(`Proximity.History.asleep_eq_dormant`), and the history tells of that wherever one gets
(`Proximity.Tending`). The last two rows of the table fit in because no recheck is waited for where
the secondary is dormant: the primary's first word wakes it, and no timer does.
-/

namespace Proximity

namespace History

/-- **Whether the secondary is dormant**: the fusion has stopped working, and since then the
primary has said nothing and the mode was not asked for. -/
def dormant : History → Bool
  | [] => false
  | n :: earlier =>
    match n.entry with
    | .turned .tornDown => true
    | .turned (.mode _) | .turned (.sensed .primary _) => false
    | _ => dormant earlier

variable {h : History}

/-- Under a dormant secondary the primary has said nothing. -/
theorem primary_of_dormant (asleep : h.dormant = true) : h.primary = none := by
  induction h with
  | nil => cases asleep
  | cons n h ih =>
    rcases n with ⟨time, entry⟩
    cases entry with
    | turned t =>
      cases t with
      | tornDown => rfl
      | mode => cases asleep
      | sensed role =>
        cases role with
        | primary => cases asleep
        | secondary | sole => exact ih asleep
      | _ => exact ih asleep
    | _ => exact ih asleep

/-- In safe mode nothing is waited for under a dormant secondary. -/
theorem contradicted_of_dormant (asleep : h.dormant = true) (safe : h.safe = true) :
    h.contradicted = false := by
  induction h with
  | nil => cases asleep
  | cons n h ih =>
    rcases n with ⟨time, entry⟩
    cases entry with
    | turned t =>
      cases t with
      | tornDown | rechecked => rfl
      | mode => cases asleep
      | sensed role =>
        cases role with
        | primary => cases asleep
        | secondary =>
          have safe : History.safe h = true := safe
          simp [contradicted, safe, ih asleep safe]
        | sole => exact ih asleep safe
      | _ => exact ih asleep safe
    | _ => exact ih asleep safe

/-- **In safe mode the secondary is asleep just when it is dormant.** -/
theorem asleep_eq_dormant (awaited : h.Always Awaited) (safe : h.safe = true) :
    h.asleep = h.dormant := by
  induction h with
  | nil => cases safe
  | cons n h ih =>
    have ih := ih awaited.tail
    rcases n with ⟨time, entry⟩
    cases entry with
    | turned t =>
      cases t with
      | sensed role r =>
        have on : History.safe h = true := safe
        have ih := ih on
        cases role with
        | primary =>
          simp only [asleep, dormant, on, ↓reduceIte]
          split
          · -- The primary can repeat itself only after it has said something.
            rename_i old
            refine ih.trans (Bool.eq_false_iff.mpr fun quiet => ?_)
            rw [primary_of_dormant quiet] at old
            cases old
          · refine Bool.eq_false_iff.mpr fun waits => ?_
            obtain ⟨waits, quiet⟩ := Bool.and_eq_true_iff.mp waits
            exact absurd waits (ne_true_of_eq_false (contradicted_of_dormant (ih ▸ quiet) on))
        | secondary => simp [asleep, dormant, on, ih]
        | sole => exact ih
      | mode on =>
        have asked : on = true := safe
        simp [asleep, dormant, asked]
      | readied =>
        have on : History.safe h = true := safe
        simp [asleep, dormant, on, ih on]
      | tornDown => rfl
      | rechecked =>
        have safe : History.safe h = true := safe
        have waits : contradicted h = true := awaited.head rfl
        exact (Bool.eq_false_iff.mpr fun quiet : dormant h = true =>
          absurd waits (ne_true_of_eq_false (contradicted_of_dormant quiet safe))).symm
      | _ => exact ih safe
    | _ => exact ih safe

end History

variable {b : Bench}

/-- **Safe mode keeps the secondary on.** In safe mode the secondary is switched on – if and only
if it is not dormant. -/
theorem secondary_on_iff_not_dormant (h : Reached b)
    (there : b.sensors.secondary.available = true) (safe : b.fusion.safe = true) :
    b.sensors.secondary.rests? = some false ↔ b.history.dormant = false := by
  have tending : Tending b.history b.sensors.secondary.rests? b.fusion.pendingRecheck :=
    h.tended.cared there
  have told : b.history.safe = true := h.faithful.safe.symm.trans safe
  obtain ⟨off, rests⟩ := Sensor.exists_rests?_of_available there
  have asleep : off = b.history.dormant :=
    (tending.switch off rests).trans (History.asleep_eq_dormant tending.awaited told)
  rw [rests, Option.some_inj, asleep]

/-- A session in which safe mode is asked for, and the fusion is paused and resumed after that. -/
def dormantSession : Bench :=
  (Scenario.ofSensors (.standIn true [] []) (.standIn true [] []) []).after
    [.join "a", .safe true, .pause, .resume]

/-- **The secondary can be off in safe mode**, under a fusion that is at work. -/
theorem dormant_session :
    Reached dormantSession ∧ dormantSession.sensors.secondary.available = true
      ∧ dormantSession.fusion.active = true ∧ dormantSession.fusion.safe = true
      ∧ dormantSession.history.dormant = true
      ∧ dormantSession.sensors.secondary.rests? = some true := by
  refine ⟨Scenario.reached_after rfl ?_ _, ?_, ?_, ?_, ?_, ?_⟩
  all_goals decide +kernel

/-- The same session, and the primary has spoken after that. -/
def awokenSession : Bench :=
  (Scenario.ofSensors (.standIn true [] []) (.standIn true [] []) []).after
    [.join "a", .safe true, .pause, .resume, .event .primary true none]

theorem secondary_on_iff_not_dormant_session :
    awokenSession.fusion.active = true ∧ awokenSession.history.dormant = false
      ∧ awokenSession.sensors.secondary.rests? = some false := by
  have reached : Reached awokenSession := Scenario.reached_after rfl (by decide +kernel) _
  have awake : awokenSession.history.dormant = false := by decide +kernel
  exact ⟨by decide +kernel, awake,
    (secondary_on_iff_not_dormant reached (by decide +kernel) (by decide +kernel)).mpr awake⟩

end Proximity
