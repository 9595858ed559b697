import Mathlib.Data.List.TakeWhile
import Proximity.Environment

/-!
# What an environment holds

A variable of a process cannot hold any text: what is set is held up to its first NUL and in whole
characters. What can be held is held as it is (`Proximity.Environment.storable_storable`), so an
environment in which every variable *fits* (`Proximity.Environment.Fits`) is one in which setting a
variable to its own value changes nothing. All environments fit that are come by through setting
variables (`Proximity.Environment.fits_ofList`, `Proximity.Environment.Fits.set`).

Holding never makes a text longer (`Proximity.Environment.weight_held_le`), if the units of its
characters are counted. So a text that lost something does not become what it was by being held.
-/

namespace Proximity

namespace Environment

/-! ### What is held is held as it is -/

theorem toList_storable (text : String) :
    (storable text).toList = Text.whole (text.toList.takeWhile (· != '\x00')) := by
  rw [storable, String.toList_ofList]

/-- A text that can be held has no NUL in it. -/
theorem ne_nul_of_mem_storable {text : String} {c : Char} (h : c ∈ (storable text).toList) :
    (c != '\x00') = true := by
  rw [bne_iff_ne]
  rintro rfl
  rw [toList_storable] at h
  have left : ('\x00' != '\x00') = true :=
    List.mem_takeWhile_imp (p := (· != '\x00')) (Text.nul_mem_of_mem_whole h)
  exact bne_iff_ne.mp left rfl

/-- **What can be held of a text is held as it is.** -/
theorem storable_storable (text : String) : storable (storable text) = storable text := by
  rw [← String.toList_inj, toList_storable (storable text),
    List.takeWhile_eq_self_iff.mpr fun _ => ne_nul_of_mem_storable, toList_storable,
    Text.whole_whole]

/-- How many units there are in a text. -/
def weight (text : String) : Nat := (text.toList.flatMap Text.units).length

/-- **Holding makes no text longer.** -/
theorem weight_held_le (name text : String) : weight (held name text) ≤ weight text := by
  rw [held]
  split
  · exact le_rfl
  · rw [weight, toList_storable, Text.flatMap_units_whole, Text.length_mend]
    have part : text.toList.takeWhile (· != '\x00') ++ text.toList.dropWhile (· != '\x00')
        = text.toList := List.takeWhile_append_dropWhile
    rw [weight, ← congrArg (List.flatMap Text.units) part, List.flatMap_append, List.length_append]
    exact Nat.le_add_right _ _

/-! ### Environments that fit -/

/-- **An environment fits** if all its variables have values that can be held. -/
def Fits (env : Environment) : Prop := ∀ v ∈ env.entries, storable v.2 = v.2

theorem mem_putEntry {name value : String} {entries : List (String × String)}
    {entry : String × String} (h : entry ∈ putEntry name value entries) :
    entry = (name, value) ∨ entry ∈ entries := by
  induction entries with
  | nil => exact .inl (List.mem_singleton.mp h)
  | cons first rest ih =>
    obtain ⟨n, v⟩ := first
    rw [putEntry] at h
    split at h
    · rename_i here
      rcases List.mem_cons.mp h with rfl | there
      · exact .inl (by rw [here])
      · exact .inr (List.mem_cons_of_mem _ there)
    · rcases List.mem_cons.mp h with rfl | there
      · exact .inr List.mem_cons_self
      · exact (ih there).imp_right (List.mem_cons_of_mem _)

namespace Fits

variable {env : Environment}

theorem setVariable (h : env.Fits) (name value : String) : (env.setVariable name value).Fits := by
  intro v member
  rcases mem_putEntry member with rfl | given
  · exact storable_storable value
  · exact h v given

theorem set (h : env.Fits) (name value : String) : (env.set name value).Fits := by
  rw [Environment.set]
  split
  · exact h
  · exact h.setVariable name value

theorem adopt (h : env.Fits) (text value : String) : (env.adopt text value).Fits := by
  rw [Environment.adopt]
  split
  · exact h.set text value
  · split
    · exact h.setVariable _ value
    · exact h

/-- A variable that is set is held as it is. -/
theorem held_eq (h : env.Fits) {name value : String} (set : env.get? name = some value) :
    held name value = value := by
  rw [held]
  split
  · rfl
  · rename_i process
    rw [get?, if_neg process] at set
    obtain ⟨before, after, split, -⟩ := List.lookup_eq_some_iff.mp set
    exact h (name, value) (by simp [split])

end Fits

/-- **Every environment that is made from settings fits.** -/
theorem fits_ofList (settings : List (String × String)) : (ofList settings).Fits := by
  have all : ∀ env : Environment, env.Fits →
      (settings.foldl (fun env v => env.adopt v.1 v.2) env).Fits := by
    induction settings with
    | nil => exact fun _ h => h
    | cons v rest ih => exact fun env h => ih _ (h.adopt v.1 v.2)
  exact all {} fun _ member => absurd member List.not_mem_nil

end Environment

end Proximity
