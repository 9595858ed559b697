import Mathlib.Logic.Relation
import Proximity.Proofs.Reached

/-!
# The course of a session

From outside, a bench is seen only when no call is in progress. What is done on it in between is
one deed after the other, and so what happens *inside* a call can be told, too: the views that a
session passes on its way are those on its course (`Proximity.Course`).

Teardowns are such moments. The fusion may be torn down from outside, by a listener that is being
told a reading, or by the probe when nobody waits any longer; and much may happen in the same
call after that. But a teardown is the last thing that is done by whoever pauses the fusion or
leaves it last, so that each one the history tells of was at some time the latest entry
(`Proximity.Course.exists_of_tornDown`).
-/

namespace Proximity

/-- **A course**: one deed after the other. -/
abbrev Course : View → View → Prop := Relation.ReflTransGen Deed

/-- Whatever is done on a bench takes a course. -/
theorem Course.law : Law Course := .ofDeeds (fun _ => .refl) (·.trans ·) (.single ·)

theorem Reached.course {b : Bench} (h : Reached b) : ∃ v, Pristine v ∧ Course v b.view :=
  (Course.law.holds h).2

/-- Whether an entry is anything but a teardown. -/
def Entry.goesOn : Entry → Bool
  | .turned .tornDown => false
  | _ => true

/-- **A history has grown, and only the last of what was added may be a teardown.** -/
def History.Halts (h h' : History) : Prop :=
  ∃ new, h' = new ++ h ∧ ∀ n ∈ new.tail, n.entry.goesOn = true

namespace History.Halts

variable {v v' u : View} {h h' : History}

theorem of_adds (h : Adds Entry.goesOn v v') : v.history.Halts v'.history := by
  obtain ⟨new, e, goesOn⟩ := h.history
  exact ⟨new, e, fun n hn => goesOn n (List.mem_of_mem_tail hn)⟩

/-- Whatever was added before, the teardown comes last. -/
theorem tearDown (h : Adds Entry.goesOn v u) : v.history.Halts u.tearDown.history := by
  rw [View.tearDown]
  split
  · obtain ⟨new, e, goesOn⟩ := h.history
    exact ⟨⟨_, .turned .tornDown⟩ :: new, congrArg (List.cons _) e, goesOn⟩
  · exact of_adds h

theorem pause (v : View) : v.history.Halts v.pause.history :=
  tearDown (.one rfl rfl rfl rfl)

theorem leave (h : Adds Entry.goesOn v u) (l : Listener) :
    v.history.Halts (u.leave l).history := by
  have dropped : Adds Entry.goesOn v (u.drop l) := h.trans (.drop u rfl)
  rw [View.leave]
  split
  · exact tearDown dropped
  · exact of_adds dropped

/-- A check is over. -/
theorem ended (h : Adds Entry.goesOn v u) (near : Option Bool) :
    v.history.Halts (u.close near).history :=
  leave (h.trans (.taken u fun _ => rfl)) .probe

/-- What is quiet is no teardown. -/
theorem quiet (h : Quietly v v') : v.history.Halts v'.history :=
  of_adds <| h.mono fun e he => by
    cases e with
    | turned t => cases t <;> first | rfl | cases he
    | _ => rfl

theorem move (hm : Move v v') : v.history.Halts v'.history := by
  rcases hm.quiet_or with hq | rfl | ⟨l, rfl⟩
  · exact quiet hq
  · exact pause v
  · exact leave (.refl v) l

theorem going (hg : Going v v') : v.history.Halts v'.history := by
  refine of_adds ?_
  cases hg with
  | rise hr =>
    cases hr with
    | join => exact .join v rfl
    | resume => exact .one rfl rfl rfl rfl
    | @begin timeout c =>
      have opened : Adds Entry.goesOn v (v.openCheck timeout c) := .one rfl rfl rfl rfl
      exact opened.trans (.join _ rfl)
  | activate => exact .one rfl rfl rfl rfl

theorem taking (ht : Taking v v') : v.history.Halts v'.history := by
  have heard : ∀ {r u}, Heard r v u → Adds Entry.goesOn v u := fun hh => by
    cases hh with
    | alone | gone => exact .one rfl rfl rfl rfl
    | counted => exact .second v rfl
  refine of_adds ?_
  cases ht with
  | passOver hh => exact heard hh
  | accept hh =>
    refine (heard hh).trans ?_
    rw [View.accept]
    split <;> exact .one rfl rfl rfl rfl

theorem giving (hg : Giving v v') : v.history.Halts v'.history := by
  cases hg with
  | reply | balk => exact of_adds (.one rfl rfl rfl rfl)
  | close hc =>
    cases hc with
    | reading => exact ended (.refl v) _
    | expiry => exact ended (.none rfl rfl rfl) none
    | decline timeout =>
      have asked : Adds Entry.goesOn v (v.ask timeout) := .one rfl rfl rfl rfl
      exact of_adds (asked.trans (.one rfl rfl rfl rfl))

/-- **Whatever is done, a teardown comes last.** -/
theorem deed (hd : Deed v v') : v.history.Halts v'.history := by
  cases hd with
  | move hm => exact move hm
  | going hg => exact going hg
  | taking ht => exact taking ht
  | telling ht => cases ht <;> exact of_adds (.one rfl rfl rfl rfl)
  | giving hg => exact giving hg

/-- A teardown was there before, or it is the latest entry. -/
theorem suffix_or_eq (s : h.Halts h') {n : Note} {earlier : History}
    (within : n :: earlier <:+ h') (torn : n.entry = .turned .tornDown) :
    n :: earlier <:+ h ∨ h' = n :: earlier := by
  -- None but the first of the new entries is a teardown, so that the suffix begins after these.
  have after : ∀ new : History, (∀ m ∈ new, m.entry.goesOn = true) →
      n :: earlier <:+ new ++ h → n :: earlier <:+ h := fun new goesOn => by
    induction new with
    | nil => exact id
    | cons m new ih =>
      intro within
      rcases List.suffix_cons_iff.mp within with e | within
      · have other := goesOn m List.mem_cons_self
        rw [← (List.cons.inj e).1, torn] at other
        cases other
      · exact ih (fun k hk => goesOn k (List.mem_cons_of_mem m hk)) within
  obtain ⟨new, rfl, goesOn⟩ := s
  cases new with
  | nil => exact .inl within
  | cons first new =>
    rcases List.suffix_cons_iff.mp within with e | within
    · exact .inr e.symm
    · exact .inl (after new goesOn within)

end History.Halts

/-- **Every teardown is a moment on the course.** Where the history tells of one, the course has
passed a view in which it had just happened. The induction is on the deeds done. -/
theorem Course.exists_of_tornDown {v w : View} (hc : Course v w) {n : Note} {earlier : History}
    (within : n :: earlier <:+ w.history) (new : ¬ n :: earlier <:+ v.history)
    (torn : n.entry = .turned .tornDown) :
    ∃ u, Course v u ∧ Course u w ∧ u.history = n :: earlier := by
  induction hc with
  | refl => exact absurd within new
  | @tail w w' hc hd ih =>
    rcases (History.Halts.deed hd).suffix_or_eq within torn with old | latest
    · obtain ⟨u, before, after, e⟩ := ih old
      exact ⟨u, before, after.tail hd, e⟩
    · exact ⟨w', hc.tail hd, .refl, latest⟩

end Proximity
