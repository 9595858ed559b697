import Proximity.Proofs.Stretch

/-!
# Actions of which nothing comes

Much of what is done on a bench leaves the fusion and the clock alone, and brings about nothing
that anybody outside would notice (`Proximity.Hush`): no listener is told anything, no sensor is
switched on, no timer is set. Some actions are like that wherever they are done
(`Proximity.Soft`), such as switching a sensor off. Others are on some benches: a reading of the
secondary comes to nothing, when the fusion has heard nothing of the primary and does not wait
for the secondary either (`Proximity.hushes_onSecondary`).
-/

namespace Proximity

open Act Session

variable {α β : Type} {b b' b'' : Bench}

/-! ### Hush -/

/-- Whether an entry is about no listener that is told something, no sensor that is switched on,
and no timer that is set. -/
def Entry.isSoft : Entry → Bool
  | .told (.named _) _ | .told .probe _ => false
  | .commanded _ .resume | .subscribed _ _ _ | .timerSet _ _ _ => false
  | _ => true

/-- **Nothing comes of what is done**: the fusion and the clock stay as they were, and all that
is noted is soft. -/
structure Hush (b b' : Bench) : Prop where
  /-- The fusion stays as it was. -/
  fusion : b'.fusion = b.fusion
  /-- The clock stays as it was. -/
  clock : b'.clock = b.clock
  /-- All that is noted is soft. -/
  soft : History.Since Entry.isSoft b.journal b'.journal

namespace Hush

theorem refl (b : Bench) : Hush b b := ⟨rfl, rfl, .refl _ _⟩

theorem trans (h : Hush b b') (h' : Hush b' b'') : Hush b b'' :=
  ⟨h'.fusion.trans h.fusion, h'.clock.trans h.clock, h.soft.trans h'.soft⟩

/-- Anything soft may be noted. -/
theorem noted (b : Bench) {entry : Entry} (soft : entry.isSoft = true) : Hush b (noted b entry) :=
  ⟨rfl, rfl, .cons (.refl _ _) soft⟩

/-- The history grows by what is noted. -/
theorem history (h : Hush b b') : b.history <:+ b'.history := by
  obtain ⟨new, e, -⟩ := h.soft
  rw [Bench.history, Bench.history, e, List.filter_append]
  exact List.suffix_append _ _

end Hush

/-- Nothing comes of an action on a bench, whether it fails or not. -/
def Hushes (act : Act α) (b : Bench) : Prop := Hush b (after act b)

/-- Nothing ever comes of an action. -/
def Soft (act : Act α) : Prop := ∀ b, Hushes act b

namespace Hushes

variable {x : Act α} {f : α → Act β} {a : α}

/-- What an action does is known to the last detail. -/
theorem of_exec {o : Except Fault α} (e : exec x b = (o, b')) (h : Hush b b') : Hushes x b := by
  have left : after x b = b' := congrArg Prod.snd e
  rwa [Hushes, left]

theorem pure (a : α) (b : Bench) : Hushes (pure a) b := .refl b

theorem throw (e : Fault) (b : Bench) : Hushes (throw e : Act α) b := .refl b

/-- Nothing comes of two actions if nothing comes of either. -/
theorem step (e : exec x b = (.ok a, b')) (h : Hush b b') (hf : Hushes (f a) b') :
    Hushes (x >>= f) b :=
  .of_exec ((exec_bind_of_ok e).trans (Prod.eta _).symm) (h.trans hf)

theorem read (e : exec x b = (.ok a, b)) (hf : Hushes (f a) b) : Hushes (x >>= f) b :=
  .step e (.refl b) hf

/-- What comes after an action of which nothing comes starts from the bench that it leaves. -/
theorem bind (hx : Hushes x b) (hf : ∀ a b', Hush b b' → Hushes (f a) b') :
    Hushes (x >>= f) b := by
  rcases e : exec x b with ⟨fault | a, b'⟩
  · have left : after x b = b' := congrArg Prod.snd e
    exact .of_exec (exec_bind_of_error e) (left ▸ hx)
  · have left : after x b = b' := congrArg Prod.snd e
    have hush : Hush b b' := left ▸ hx
    exact .step e hush (hf a b' hush)

end Hushes

namespace Soft

variable {x : Act α} {f : α → Act β}

theorem pure (a : α) : Soft (pure a : Act α) := Hushes.pure a

/-- **Soft actions may follow one another.** -/
theorem bind (hx : Soft x) (hf : ∀ a, Soft (f a)) : Soft (x >>= f) :=
  fun b => (hx b).bind fun a b' _ => hf a b'

theorem note {entry : Entry} (soft : entry.isSoft = true) : Soft (Bench.note entry) :=
  fun b => .noted b soft

/-- A sensor may change, as neither the fusion nor the clock does. -/
theorem modifySensor (role : Role) (g : Sensor → Sensor) : Soft (Bench.modifySensor role g) :=
  fun _ => ⟨rfl, rfl, .refl _ _⟩

theorem getSensor (role : Role) : Soft (Bench.getSensor role) := fun b => .refl b

/-- Records of any kind are soft. -/
theorem log (severity : Severity) (origin message : String) (metadata : List (String × Tree)) :
    Soft (Bench.log severity origin message metadata) := fun b => by
  refine .of_exec (exec_log severity origin message metadata b) ?_
  split
  · exact .noted b rfl
  · exact .refl b

/-- So are reports to the error tracker. -/
theorem report (fault : Fault) (extra : List (String × Tree)) :
    Soft (Bench.report fault extra) := fun b => by
  refine .of_exec (exec_report fault extra b) ?_
  split
  · exact .noted b rfl
  · exact .refl b

theorem fusionLog (message : String) : Soft (Fusion.logAbout message) :=
  bind (fun b => .refl b) fun _ => log _ _ _ _

theorem hysteresisLog (role : Role) (severity : Severity) (message : String)
    (metadata : List (String × Tree)) :
    Soft (Hysteresis.logAbout role severity message metadata) :=
  bind (bind (getSensor role) fun _ => pure _) fun _ => log _ _ _ _

/-- A call that is refused is logged and reported. -/
theorem assertOwner : Soft Bench.assertOwner := fun b => by
  by_cases h : OnThread b
  · exact .of_exec (exec_assertOwner h) (.refl b)
  · obtain ⟨owner, e⟩ := exec_assertOwner_of_not h
    have refused : Hush b (Act.noted b (refusal owner b.thread)) := .noted b rfl
    exact .of_exec e (refused.trans (report _ _ _))

/-- A sensor may refuse a call, and nothing comes of that. -/
theorem assertConfined (role : Role) : Soft (Hysteresis.assertConfined role) := by
  refine bind (bind (getSensor role) fun _ => pure _) fun h => ?_
  rw [Bench.assertOwnerIf]
  split
  · exact assertOwner
  · exact pure ()

/-- A subscription may be stopped. -/
theorem dropSubscription (role : Role) : Soft (Hysteresis.dropSubscription role) := by
  refine bind (bind (getSensor role) fun _ => pure _) fun h => ?_
  refine bind (modifySensor role _) fun _ => ?_
  split
  · exact pure ()
  · exact bind (note rfl) fun _ => modifySensor role _

end Soft

/-- A hysteresis sensor that should not sample stops sampling at most. -/
theorem hushes_adjust (call : Reactor) (role : Role)
    (rests : (b.sensors.get role).asHysteresis.wantsSamples = false) :
    Hushes (Hysteresis.adjust call role) b := by
  refine .read (exec_hysteresisGet role b) ?_
  rw [rests, Bool.false_and, if_neg Bool.false_ne_true, Bool.not_false, Bool.true_and]
  split
  · refine (Soft.bind (.hysteresisLog _ _ _ _) fun _ => ?_) b
    refine .bind (.note rfl) fun _ => ?_
    exact .bind (.modifySensor role _) fun _ => .dropSubscription role
  · exact .pure () b

/-- **Nothing comes of switching a sensor off.** -/
theorem soft_pause (call : Reactor) (role : Role) : Soft (Sensor.pause call role) := by
  refine fun b => .read (exec_getSensor role b) ?_
  cases b.sensors.get role with
  | standIn s => exact (Soft.bind (.note rfl) fun _ => .modifySensor role _) b
  | hysteresis h =>
    refine (Soft.assertConfined role b).bind fun _ b₁ _ => ?_
    refine .step (exec_modifySensor role _ b₁) (Soft.modifySensor role _ b₁) ?_
    refine hushes_adjust call role ?_
    -- Paused as it is now, a hysteresis sensor wants no samples; nor does any other sensor.
    rw [Sensors.get_modify_self]
    cases b₁.sensors.get role with
    | hysteresis s => simp [Sensor.mapHysteresis, Sensor.asHysteresis, Hysteresis.wantsSamples]
    | standIn | absent | unplanned => rfl
  | absent | unplanned => exact .pure () b

/-! ### Readings that are not heeded -/

/-- **Nothing comes of a reading of the secondary that is not heeded.** -/
theorem hushes_onSecondary (call : Reactor) (r : Reading) (calm : b.fusion.lastPrimary = none)
    (idle : b.fusion.pendingRecheck = none) (unheeded : (b.fusion.safe && !b.fusion.paused) = false) :
    Hushes (Fusion.onSecondary call r) b := by
  refine (Soft.assertOwner b).bind fun _ b₁ h₁ => ?_
  have sensed : Hush b (Act.noted b₁ (.turned (.sensed .secondary r))) := h₁.trans (.noted b₁ rfl)
  refine .step (exec_note _ b₁) (.noted b₁ rfl) (.read (exec_getFusion _) ?_)
  rw [sensed.fusion, calm]
  cases safe : b.fusion.safe with
  | true =>
    rw [safe, Bool.true_and] at unheeded
    refine (Soft.fusionLog _ _).bind fun _ b₂ h₂ => .read (exec_getFusion b₂) ?_
    rw [(sensed.trans h₂).fusion, unheeded]
    exact .pure () b₂
  | false =>
    refine (soft_pause call .secondary _).bind fun _ b₂ h₂ => ?_
    refine .read (exec_getFusion b₂) ?_
    rw [(sensed.trans h₂).fusion, idle]
    exact .pure () b₂

end Proximity
