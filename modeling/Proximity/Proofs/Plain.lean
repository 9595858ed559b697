import Proximity.Proofs.Faithful

/-!
# What deeds leave in the history

A deed adds some entries to the history and leaves the sensors as they are
(`Proximity.Adds`). The theorems of this file say what kinds of entries these are.

* *Plain* entries (`Proximity.Entry.isPlain`) are about no reading that is fused or
  told, and about no answer that is given. Only the deeds that do these things add
  others.
* *Still* entries (`Proximity.Entry.isStill`) are about nothing that makes anybody want
  the fusion to work, or that makes it work. A move that is not both plain and still is
  that the fusion is paused or that a listener leaves (`Proximity.Move.quiet_or`).

So a claim about what is fused, told or answered, or about when the fusion is at work, has to
look at few deeds only.
-/

namespace Proximity

/-- Whether an entry is about no reading that is fused or told, and about no answer that
is given. -/
def Entry.isPlain : Entry → Bool
  | .told _ _ => false
  | .turned (.fused _) | .turned (.broadcast _ _) | .turned .hushed => false
  | .turned (.replied _ _) | .turned (.balked _) => false
  | _ => true

/-- Whether an entry is about nothing that makes anybody want the fusion to work, or that
makes it work. -/
def Entry.isStill : Entry → Bool
  | .turned (.joined _) | .turned (.left _) | .turned .paused | .turned .resumed => false
  | .turned .activated | .turned .tornDown => false
  | _ => true

/-- Whether an entry is plain and still. -/
def Entry.isQuiet (entry : Entry) : Bool := entry.isPlain && entry.isStill

/-- **Only entries of a kind are added to the history**, and the sensors are left as they
are. -/
structure Adds (kind : Entry → Bool) (v v' : View) : Prop where
  /-- The history has only grown by entries of the kind. -/
  history : v.history.Since kind v'.history
  /-- The primary is as much there as it was. -/
  primary : v'.primaryThere = v.primaryThere
  /-- The secondary is as much there as it was. -/
  secondary : v'.secondaryThere = v.secondaryThere

/-- Only plain entries are added. -/
abbrev Plainly : View → View → Prop := Adds Entry.isPlain

/-- Only plain and still entries are added. -/
abbrev Quietly : View → View → Prop := Adds Entry.isQuiet

namespace Adds

variable {kind kind' : Entry → Bool} {v v' v'' : View}

theorem refl (v : View) : Adds kind v v := ⟨.refl _ _, rfl, rfl⟩

theorem trans (h : Adds kind v v') (h' : Adds kind v' v'') : Adds kind v v'' :=
  ⟨h.history.trans h'.history, h'.primary.trans h.primary, h'.secondary.trans h.secondary⟩

/-- A wider kind of entries will do. -/
theorem mono (h : Adds kind v v') (hk : ∀ e, kind e = true → kind' e = true) :
    Adds kind' v v' :=
  ⟨h.history.mono hk, h.primary, h.secondary⟩

/-- Nothing may be added, whatever else changes. -/
theorem none (hh : v'.history = v.history) (hp : v'.primaryThere = v.primaryThere)
    (hs : v'.secondaryThere = v.secondaryThere) : Adds kind v v' :=
  ⟨hh ▸ .refl _ _, hp, hs⟩

/-- One entry may be added, whatever else changes. -/
theorem one {n : Note} (hn : kind n.entry = true) (hh : v'.history = n :: v.history)
    (hp : v'.primaryThere = v.primaryThere) (hs : v'.secondaryThere = v.secondaryThere) :
    Adds kind v v' :=
  ⟨hh ▸ .cons (.refl _ _) hn, hp, hs⟩

/-- A fusion that stops working notes that, if it was at work. -/
theorem tearDown (v : View) (torn : kind (.turned .tornDown) = true) :
    Adds kind v v.tearDown := by
  rw [View.tearDown]
  split
  · exact .one torn rfl rfl rfl
  · exact .refl v

/-- So does one that is paused. -/
theorem pause (v : View) (paused : kind (.turned .paused) = true)
    (torn : kind (.turned .tornDown) = true) : Adds kind v v.pause := by
  have stops : Adds kind v ((v.turn .paused).change fun f => { f with paused := true }) :=
    .one paused rfl rfl rfl
  exact stops.trans (tearDown _ torn)

/-- That a listener left is noted if it was one. -/
theorem drop (v : View) {l : Listener} (left : kind (.turned (.left l)) = true) :
    Adds kind v (v.drop l) := by
  rw [View.drop]
  split
  · exact .one left rfl rfl rfl
  · exact .none rfl rfl rfl

/-- That a listener joined is noted unless it was one. -/
theorem join (v : View) {l : Listener} (joined : kind (.turned (.joined l)) = true) :
    Adds kind v (v.join l) := by
  rw [View.join]
  split
  · exact .refl v
  · exact .one joined rfl rfl rfl

/-- The last one who leaves stops the fusion. -/
theorem leave (v : View) {l : Listener} (left : kind (.turned (.left l)) = true)
    (torn : kind (.turned .tornDown) = true) : Adds kind v (v.leave l) := by
  rw [View.leave]
  split
  · exact (drop v left).trans (tearDown _ torn)
  · exact drop v left

/-- Those who wait have their answer, and the timer is called off. -/
theorem taken (v : View) {near : Option Bool}
    (resolved : ∀ tickets, kind (.turned (.resolved tickets near)) = true) :
    Adds kind v (v.take near).stopTimer :=
  .one (resolved _) rfl rfl rfl

/-- A check is over. -/
theorem ended (v : View) {near : Option Bool}
    (resolved : ∀ tickets, kind (.turned (.resolved tickets near)) = true)
    (left : kind (.turned (.left .probe)) = true) (torn : kind (.turned .tornDown) = true) :
    Adds kind v (v.close near) :=
  ((taken v resolved).trans (leave _ left torn)).trans (.none rfl rfl rfl)

/-- There is an answer, for whatever reason. -/
theorem close {near : Option Bool} {waiting : List Caller} (h : Close near v waiting v')
    (asked : ∀ ticket timeout, kind (.turned (.asked ticket timeout)) = true)
    (resolved : ∀ tickets near, kind (.turned (.resolved tickets near)) = true)
    (left : kind (.turned (.left .probe)) = true) (torn : kind (.turned .tornDown) = true) :
    Adds kind v v' := by
  cases h with
  | reading => exact ended v (resolved · _) left torn
  | @expiry t =>
    have struck : Adds kind v (v.giveUp t) := .none rfl rfl rfl
    exact struck.trans (ended _ (resolved · _) left torn)
  | decline timeout =>
    have question : Adds kind v (v.ask timeout) := .one (asked _ _) rfl rfl rfl
    exact question.trans (.one (resolved _ _) rfl rfl rfl)

/-- The secondary says something that counts. -/
theorem second (v : View) {r : Reading} (sensed : kind (.turned (.sensed .secondary r)) = true) :
    Adds kind v (v.second r) := by
  rw [View.second]
  split <;> exact .one sensed rfl rfl rfl

end Adds

namespace Quietly

variable {v v' : View} {t : Timer} {entry : Entry}

/-! ### Calls from another thread

Such a call is refused, whatever was done before it, and nothing goes on after that. -/

/-- A call from another thread is noted, and nothing else happens. -/
theorem fatal (he : entry.isFatal = true) : Quietly v (v.note entry) := by
  obtain ⟨_, _, _, rfl⟩ := Entry.exists_of_isFatal he
  exact .one rfl rfl rfl rfl

/-- A timer may have gone off before. -/
theorem lapse (he : entry.isFatal = true) : Quietly v ((v.strike t).note entry) := by
  have struck : Quietly v (v.strike t) := .none rfl rfl rfl
  exact struck.trans (fatal he)

/-- Somebody may have asked before. -/
theorem strand (timeout : Number) (c : Caller) (he : entry.isFatal = true) :
    Quietly v ((v.openCheck timeout c).note entry) := by
  have opened : Quietly v (v.openCheck timeout c) := .one rfl rfl rfl rfl
  exact opened.trans (fatal he)

/-- Those who waited may have been taken off the queue before. -/
theorem abandon (near : Option Bool) (he : entry.isFatal = true) :
    Quietly v ((v.take near).stopTimer.note entry) :=
  (Adds.taken v fun _ => rfl).trans (fatal he)

theorem forsake (he : entry.isFatal = true) :
    Quietly v (((v.giveUp t).take none).stopTimer.note entry) := by
  have struck : Quietly v (v.giveUp t) := .none rfl rfl rfl
  exact struck.trans (abandon none he)

/-! ### Other deeds -/

theorem plainly (h : Quietly v v') : Plainly v v' :=
  h.mono fun _ he => (Bool.and_eq_true_iff.mp he).1

/-- What a sensor says is noted. -/
theorem heard {r : Reading} (h : Heard r v v') : Quietly v v' := by
  cases h with
  | alone | gone => exact .one rfl rfl rfl rfl
  | counted => exact .second v rfl

end Quietly

/-- **A move is quiet, unless the fusion is paused or a listener leaves.** -/
theorem Move.quiet_or {v v' : View} (h : Move v v') :
    Quietly v v' ∨ v' = v.pause ∨ ∃ l, v' = v.leave l := by
  cases h with
  | pause => exact .inr (.inl rfl)
  | leave name => exact .inr (.inr ⟨.named name, rfl⟩)
  | refuse he => exact .inl (.fatal he)
  | lapse _ _ he => exact .inl (.lapse he)
  | strand timeout _ _ _ he => exact .inl (.strand timeout _ he)
  | abandon near he => exact .inl (.abandon near he)
  | forsake _ _ he => exact .inl (.forsake he)
  | overhear r => exact .inl (.second v rfl)
  | mode on => cases on <;> exact .inl (.one rfl rfl rfl rfl)
  | elapse | tag | link => exact .inl (.none rfl rfl rfl)
  | ready | sample | again | consult | await | verify | disown | enqueue | recheck =>
    exact .inl (.one rfl rfl rfl rfl)

namespace Plainly

variable {v v' : View}

/-- **A move is plain.** -/
theorem move (h : Move v v') : Plainly v v' := by
  rcases h.quiet_or with hq | rfl | ⟨l, rfl⟩
  · exact hq.plainly
  · exact .pause v rfl rfl
  · exact .leave v rfl rfl

/-- So is going to work. -/
theorem going (h : Going v v') : Plainly v v' := by
  cases h with
  | rise h =>
    cases h with
    | join => exact Adds.join v rfl
    | resume => exact .one rfl rfl rfl rfl
    | @begin timeout c =>
      have opened : Plainly v (v.openCheck timeout c) := .one rfl rfl rfl rfl
      exact opened.trans (.join _ rfl)
  | activate => exact .one rfl rfl rfl rfl

theorem close {near : Option Bool} {waiting : List Caller} (h : Close near v waiting v') :
    Plainly v v' :=
  Adds.close h (fun _ _ => rfl) (fun _ _ => rfl) rfl rfl

end Plainly

end Proximity
