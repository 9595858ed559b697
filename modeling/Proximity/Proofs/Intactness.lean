import Mathlib.Data.List.Basic
import Proximity.Redaction

/-!
# What a redaction leaves alone

A redaction is to change nothing but what stands under sensitive keys: a tree should come out of it
*intact* (`Proximity.Redaction.Intact`), with the same value, or a value of the same shape, at every
path that goes through no sensitive key, and with no path that was not there before.

There are no new paths, and nearly all the old ones are there. A path through the one key under
which no record takes an entry is lost, with all that is behind it, whatever else the tree holds
(`Proximity.Redaction.at?_redact`). So a tree comes out intact exactly if there is no such key in
it, other than under a sensitive one (`Proximity.Redaction.intact_iff_assignable`), and there are
trees that do not (`Proximity.Redaction.not_intact_shadow`).
-/

namespace Proximity

/-! ### Paths -/

namespace Tree

/-- One leg of a path into a tree. -/
inductive Leg where
  /-- To an item of a list, by its position. -/
  | item (position : Nat)
  /-- To the value under a key of a record. -/
  | key (key : String)
  deriving DecidableEq

/-- A way into a tree, from the outside. -/
abbrev Path := List Leg

/-- **What stands at a path**, if the path is there. -/
def at? : Path → Tree → Option Tree
  | [], tree => some tree
  | .item i :: path, list items => items[i]?.bind (at? path)
  | .key key :: path, record entries => (entries.lookup key).bind (at? path)
  | _ :: _, _ => none

variable {path rest : Path} {tree : Tree}

@[simp] theorem at?_nil (tree : Tree) : tree.at? [] = some tree := by rw [at?]

theorem at?_append (path rest : Path) (tree : Tree) :
    tree.at? (path ++ rest) = (tree.at? path).bind (at? rest) := by
  induction path generalizing tree with
  | nil => simp
  | cons leg path ih =>
    have further : at? (path ++ rest) = fun tree => (at? path tree).bind (at? rest) := funext ih
    cases leg <;> cases tree <;> simp [at?, further, Option.bind_assoc]

/-- **Two values of the same shape**: lists of the same length, records with the same keys, or the
same scalar. -/
def SameShape : Tree → Tree → Prop
  | list items, list others => items.length = others.length
  | record entries, record others => ∀ key, key ∈ entries.map (·.1) ↔ key ∈ others.map (·.1)
  | tree, other => tree = other

end Tree

namespace Redaction

open Proximity.Tree (Path)

/-- An open path: it goes through no sensitive key. -/
def IsOpen (path : Path) : Prop := ∀ key, .key key ∈ path → ¬ Sensitive key

/-- **A tree comes out of its redaction intact**: every open path of the tree is there and leads to
a value of the same shape, and no path is there that was not. -/
def Intact (tree : Tree) : Prop :=
  (∀ path, IsOpen path → ∀ value, tree.at? path = some value →
      ∃ value', (redact tree).at? path = some value' ∧ value.SameShape value')
    ∧ ∀ path value, (redact tree).at? path = some value → ∃ value', tree.at? path = some value'

/-! ### What is found under a key -/

theorem lookup_redactEntries (key : String) (entries : List (String × Tree)) :
    (redactEntries entries).lookup key =
      if Sensitive key then (entries.lookup key).map fun _ => mask
      else if key = unassignable then none else (entries.lookup key).map redact := by
  induction entries with
  | nil => simp [redactEntries]
  | cons entry rest ih =>
    obtain ⟨k, value⟩ := entry
    simp only [redactEntries, isSensitive_iff]
    by_cases here : key = k
    · subst here
      split
      · simp
      · split
        · rw [ih, if_neg ‹_›, if_pos ‹_›]
        · simp
    · have elsewhere : (key == k) = false := beq_eq_false_iff_ne.mpr here
      rw [List.lookup_cons, elsewhere, ← ih]
      split
      · rw [List.lookup_cons, elsewhere]
      · split
        · rfl
        · rw [List.lookup_cons, elsewhere]

/-- The keys that come out of a redaction are those that went in, in their order, but for the one
under which no record takes an entry. -/
theorem keys_redactEntries (entries : List (String × Tree)) :
    (redactEntries entries).map (·.1) = (entries.map (·.1)).filter (· != unassignable) := by
  induction entries with
  | nil => rfl
  | cons entry rest ih =>
    obtain ⟨key, value⟩ := entry
    simp only [redactEntries, isSensitive_iff, List.map_cons]
    split
    · rename_i sensitive
      have assignable : key ≠ unassignable := fun same =>
        not_sensitive_unassignable (same ▸ sensitive)
      rw [List.map_cons, ih, List.filter_cons_of_pos (by simpa using assignable)]
    · split
      · rename_i special
        rw [ih, List.filter_cons_of_neg (by simpa using special)]
      · rename_i assignable
        rw [List.map_cons, ih, List.filter_cons_of_pos (by simpa using assignable)]

/-! ### What is found at a path -/

/-- **What a redaction leaves at an open path**: what was there, redacted – unless the path goes
through the key under which no record takes an entry. -/
theorem at?_redact {path : Path} (isOpen : IsOpen path) (tree : Tree) :
    (redact tree).at? path =
      if .key unassignable ∈ path then none else (tree.at? path).map redact := by
  induction path generalizing tree with
  | nil => simp
  | cons leg path ih =>
    have further := ih fun key member => isOpen key (List.mem_cons_of_mem _ member)
    cases leg with
    | item i =>
      cases tree with
      | list items =>
        simp only [redact, redactItems_eq_map, Tree.at?, List.getElem?_map]
        cases items[i]? with
        | none => simp
        | some item => simpa using further item
      | _ => simp [redact, Tree.at?]
    | key key =>
      cases tree with
      | record entries =>
        simp only [redact, Tree.at?, lookup_redactEntries, if_neg (isOpen key List.mem_cons_self)]
        by_cases special : key = unassignable
        · simp [special]
        · cases entries.lookup key with
          | none => simp
          | some value => simpa [special, Ne.symm special] using further value
      | _ => simp [redact, Tree.at?]

/-- Behind a mask there is nothing. -/
theorem at?_mask {path : Path} {value : Tree} (h : mask.at? path = some value) : path = [] := by
  cases path with
  | nil => rfl
  | cons leg path => cases leg <;> cases h

/-- **A redaction makes no path.** -/
theorem at?_of_at?_redact {path : Path} {tree value : Tree}
    (h : (redact tree).at? path = some value) : ∃ value', tree.at? path = some value' := by
  induction path generalizing tree with
  | nil => exact ⟨tree, Tree.at?_nil tree⟩
  | cons leg path ih =>
    cases leg with
    | item i =>
      cases tree with
      | list items =>
        simp only [redact, redactItems_eq_map, Tree.at?, List.getElem?_map, Option.bind_map] at h
        obtain ⟨item, found, further⟩ := Option.bind_eq_some_iff.mp h
        simp only [Tree.at?, found, Option.bind_some]
        exact ih further
      | _ => cases h
    | key key =>
      cases tree with
      | record entries =>
        simp only [redact, Tree.at?, lookup_redactEntries] at h
        obtain ⟨out, found, further⟩ := Option.bind_eq_some_iff.mp h
        split at found
        · obtain ⟨given, there, rfl⟩ := Option.map_eq_some_iff.mp found
          obtain rfl := at?_mask further
          exact ⟨given, by simp [Tree.at?, there]⟩
        · split at found
          · cases found
          · obtain ⟨given, there, rfl⟩ := Option.map_eq_some_iff.mp found
            simp only [Tree.at?, there, Option.bind_some]
            exact ih further
      | _ => cases h

/-! ### What comes out intact -/

/-- **A value keeps its shape**, unless it is a record with the key under which none takes an
entry. -/
theorem sameShape_redact_iff (tree : Tree) :
    tree.SameShape (redact tree) ↔ tree.at? [.key unassignable] = none := by
  cases tree with
  | list items => simp [Tree.SameShape, redact, redactItems_eq_map, Tree.at?]
  | record entries =>
    have found : Tree.at? [.key unassignable] (.record entries) = entries.lookup unassignable := by
      simp [Tree.at?]
    rw [found, List.lookup_eq_none_iff]
    simp only [Tree.SameShape, redact, keys_redactEntries, List.mem_filter]
    constructor
    · intro same entry member
      have : entry.1 ≠ unassignable := by
        have := (same entry.1).mp (List.mem_map_of_mem member)
        exact bne_iff_ne.mp this.2
      exact bne_iff_ne.mpr this.symm
    · intro assignable key
      refine ⟨fun member => ⟨member, ?_⟩, And.left⟩
      obtain ⟨entry, there, rfl⟩ := List.mem_map.mp member
      exact bne_iff_ne.mpr (bne_iff_ne.mp (assignable entry there)).symm
  | _ => simp [Tree.SameShape, redact, Tree.at?]

theorem isOpen_append {path rest : Path} : IsOpen (path ++ rest) ↔ IsOpen path ∧ IsOpen rest := by
  simp only [IsOpen, List.mem_append, or_imp, forall_and]

theorem isOpen_unassignable : IsOpen [.key unassignable] := by
  intro key member
  obtain rfl := Tree.Leg.key.inj (List.mem_singleton.mp member)
  exact not_sensitive_unassignable

/-- Where there is no such key at the end of an open path, there is none on the way. -/
theorem not_mem_of_assignable {tree : Tree}
    (assignable : ∀ path, IsOpen path → tree.at? (path ++ [.key unassignable]) = none)
    {path : Path} (isOpen : IsOpen path) {value : Tree} (there : tree.at? path = some value) :
    .key unassignable ∉ path := by
  intro member
  obtain ⟨before, after, rfl⟩ := List.append_of_mem member
  rw [List.append_cons, Tree.at?_append, assignable before (isOpen_append.mp isOpen).1] at there
  cases there

/-- **A redaction leaves alone what it should, but for one key.** A tree comes out of it intact
exactly if the key under which no record takes an entry is at no open path. A path through that key
is not there any more, a path to any other value leads to that value redacted, a value keeps its
shape unless it has that very key, and no path is there that was not. -/
theorem intact_iff_assignable (tree : Tree) :
    (Intact tree ↔ ∀ path, IsOpen path → tree.at? (path ++ [.key unassignable]) = none)
      ∧ (∀ path, IsOpen path → (redact tree).at? path =
          if .key unassignable ∈ path then none else (tree.at? path).map redact)
      ∧ (tree.SameShape (redact tree) ↔ tree.at? [.key unassignable] = none)
      ∧ ∀ path value, (redact tree).at? path = some value →
          ∃ value', tree.at? path = some value' := by
  refine ⟨⟨fun intact path isOpen => ?_, fun assignable => ⟨?_, ?_⟩⟩,
    fun path isOpen => at?_redact isOpen tree, sameShape_redact_iff tree,
    fun _ _ => at?_of_at?_redact⟩
  · have onwards : IsOpen (path ++ [.key unassignable]) :=
      isOpen_append.mpr ⟨isOpen, isOpen_unassignable⟩
    refine Option.eq_none_iff_forall_ne_some.mpr fun value there => ?_
    obtain ⟨out, found, -⟩ := intact.1 _ onwards value there
    rw [at?_redact onwards, if_pos (by simp)] at found
    cases found
  · intro path isOpen value there
    refine ⟨redact value, ?_, (sameShape_redact_iff value).mpr ?_⟩
    · rw [at?_redact isOpen, if_neg (not_mem_of_assignable assignable isOpen there), there]
      rfl
    · have := assignable path isOpen
      rwa [Tree.at?_append, there] at this
  · exact fun _ _ => at?_of_at?_redact

/-- A record with an entry under the key under which none is taken. -/
def shadow : Tree :=
  .record [("__proto__", .record [("a", .number 1)]), ("b", .number 2)]

/-- **There are trees that do not come out intact.** -/
theorem not_intact_shadow : redact shadow = .record [("b", .number 2)] ∧ ¬ Intact shadow := by
  have out : redact shadow = .record [("b", .number 2)] := by rfl
  refine ⟨out, fun intact => ?_⟩
  obtain ⟨value, found, -⟩ := intact.1 [.key "__proto__"] isOpen_unassignable _ rfl
  rw [out] at found
  cases found

end Redaction

end Proximity
