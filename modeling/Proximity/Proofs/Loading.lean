import Mathlib.Data.List.Nodup
import Mathlib.Data.List.Perm.Basic
import Proximity.EnvFile
import Proximity.Proofs.Holding

/-!
# What loading a file does to a variable that is set

Loading an environment file fills in what is not set. That alone would keep every variable that is.
But afterwards all names of the file are expanded and written back, those that were set before
among them, and what is written back need not be what was there
(`Proximity.EnvFile.kept_iff_withstands`):

| the file gives the name | what is written back | the variable keeps its value |
|---|---|---|
| nothing | nothing | always |
| another text | the value, its dollar signs unescaped | if no backslash stands before a dollar sign |
| the same text | the value, expanded and its dollar signs unescaped | if that gives the value again |

So a variable without a dollar sign in its value is safe, whatever the file, and one with a dollar
sign is not (`Proximity.EnvFile.lost_session`).
-/

namespace Proximity

open Environment (held putEntry)

namespace EnvFile

variable {env : Environment} {name value : String} {entries values : List (String × String)}

/-! ### The names of a table -/

theorem keys_putEntry (name value : String) (entries : List (String × String)) :
    (putEntry name value entries).map (·.1)
      = if name ∈ entries.map (·.1) then entries.map (·.1) else entries.map (·.1) ++ [name] := by
  induction entries with
  | nil => rfl
  | cons entry rest ih =>
    obtain ⟨n, v⟩ := entry
    by_cases here : n = name
    · simp [putEntry, here]
    · simp only [putEntry, if_neg here, List.map_cons, ih, List.mem_cons, Ne.symm here, false_or]
      split <;> rfl

/-- A value is put under a name that is there without any other change of the names. -/
theorem keys_putEntry_of_mem (h : name ∈ entries.map (·.1)) (value : String) :
    (putEntry name value entries).map (·.1) = entries.map (·.1) := by
  rw [keys_putEntry, if_pos h]

theorem nodup_keys_putEntry (h : (entries.map (·.1)).Nodup) (name value : String) :
    ((putEntry name value entries).map (·.1)).Nodup := by
  rw [keys_putEntry]
  split
  · exact h
  · rename_i new
    exact List.nodup_append.mpr ⟨h, List.nodup_singleton _, fun n there m only => by
      rw [List.mem_singleton.mp only]
      exact fun same => new (same ▸ there)⟩

/-- The entries whose names are positions, each with its position. -/
theorem map_filterMap_position (entries : List (String × String)) :
    (entries.filterMap fun e => (Environment.position? e.1).map fun n => (n, e)).map (·.2)
      = entries.filter fun e => Environment.isPosition e.1 := by
  induction entries with
  | nil => rfl
  | cons e rest ih =>
    cases found : Environment.position? e.1 <;> simp [Environment.isPosition, found, ih]

/-- Reading order is an order of the same entries. -/
theorem inOrder_perm (entries : List (String × String)) : (inOrder entries).Perm entries := by
  have sorted := ((List.mergeSort_perm (entries.filterMap fun e =>
    (Environment.position? e.1).map fun n => (n, e)) fun a b => a.1 ≤ b.1).map (·.2))
  rw [map_filterMap_position] at sorted
  have parts := List.filter_append_perm (fun e : String × String => Environment.isPosition e.1)
    entries
  rw [inOrder]
  exact (sorted.append_right _).trans parts

/-- **A file gives each of its names one value.** -/
theorem nodup_table (text : String) : ((table text).map (·.1)).Nodup := by
  have unique (assigned : List Assignment) : ∀ entries : List (String × String),
      (entries.map (·.1)).Nodup → ((assigned.foldl
        (fun entries a => putEntry a.name a.value entries) entries).map (·.1)).Nodup := by
    induction assigned with
    | nil => exact fun _ h => h
    | cons a rest ih => exact fun entries h => ih _ (nodup_keys_putEntry h a.name a.value)
  rw [table, ((inOrder_perm _).map _).nodup_iff]
  exact unique _ [] List.nodup_nil

/-! ### Filling in and writing back -/

/-- Filling in leaves alone what is set. -/
theorem get?_fill (entries : List (String × String)) (set : env.get? name = some value) :
    (fill entries env).get? name = some value := by
  induction entries generalizing env with
  | nil => exact set
  | cons e rest ih =>
    rw [fill, List.foldl_cons]
    refine ih ?_
    split
    · exact set
    · rename_i unset
      have other : name ≠ e.1 := fun same => unset (by rw [Environment.has, ← same, set]; rfl)
      rw [Environment.get?_set_of_ne env e.2 other, set]

/-- **What is written** is what a name has afterwards, as far as it can be held; the other names
have what they had. -/
theorem get?_write (distinct : (values.map (·.1)).Nodup) (env : Environment) (name : String) :
    (write values env).get? name = ((values.lookup name).map (held name)).or (env.get? name) := by
  induction values generalizing env with
  | nil => rfl
  | cons e rest ih =>
    obtain ⟨n, v⟩ := e
    obtain ⟨new, distinct⟩ := List.nodup_cons.mp distinct
    refine (ih distinct (env.set n v)).trans ?_
    by_cases here : name = n
    · subst here
      have nowhere : rest.lookup name = none := by
        refine List.lookup_eq_none_iff.mpr fun entry there => bne_iff_ne.mpr fun same => ?_
        exact new (List.mem_map.mpr ⟨entry, there, same.symm⟩)
      simp [nowhere]
    · simp [List.lookup_cons, beq_eq_false_iff_ne.mpr here, Environment.get?_set_of_ne env v here]

/-! ### Expanding one value after the other -/

theorem expandAll_append (env : Environment) (before after values : List (String × String)) :
    expandAll env (before ++ after) values
      = (expandAll env before values).bind (expandAll env after) := by
  induction before generalizing values with
  | nil => rfl
  | cons e rest ih =>
    simp only [List.cons_append, expandAll, ih]
    cases expandEntry ⟨env, values⟩ e.1 e.2 <;> rfl

/-- The names of the values stay the same. -/
theorem keys_expandAll {todo values' : List (String × String)}
    (all : ∀ e ∈ todo, e.1 ∈ values.map (·.1)) (h : expandAll env todo values = .ok values') :
    values'.map (·.1) = values.map (·.1) := by
  induction todo generalizing values with
  | nil => rw [← Except.ok.inj h]
  | cons e rest ih =>
    simp only [expandAll] at h
    cases out : expandEntry ⟨env, values⟩ e.1 e.2 with
    | error e => rw [out] at h; cases h
    | ok expanded =>
      rw [out] at h
      have same := keys_putEntry_of_mem (all e List.mem_cons_self) expanded
      refine (ih (fun e' there => ?_) h).trans same
      rw [same]
      exact all e' (List.mem_cons_of_mem _ there)

/-- A value whose turn does not come stays what it is. -/
theorem lookup_expandAll {todo values' : List (String × String)} (absent : name ∉ todo.map (·.1))
    (h : expandAll env todo values = .ok values') : values'.lookup name = values.lookup name := by
  induction todo generalizing values with
  | nil => rw [← Except.ok.inj h]
  | cons e rest ih =>
    obtain ⟨other, absent⟩ := not_or.mp (mt List.mem_cons.mpr absent)
    simp only [expandAll] at h
    cases out : expandEntry ⟨env, values⟩ e.1 e.2 with
    | error e => rw [out] at h; cases h
    | ok expanded =>
      rw [out] at h
      exact (ih absent h).trans (Environment.lookup_putEntry_of_ne expanded other values)

/-- What a name is given by a table, with the values before it expanded already. -/
def turn (env : Environment) (entries : List (String × String)) (name value : String) :
    Except LoadError String := do
  let values ← expandAll env (entries.takeWhile (·.1 != name)) entries
  expandEntry ⟨env, values⟩ name value

/-- **Every name gets what its turn gives it.** -/
theorem turn_eq {values' : List (String × String)} (distinct : (entries.map (·.1)).Nodup)
    (there : entries.lookup name = some value) (h : expandAll env entries entries = .ok values') :
    ∃ out, turn env entries name value = .ok out ∧ values'.lookup name = some out := by
  obtain ⟨before, after, split, earlier⟩ := List.lookup_eq_some_iff.mp there
  have ahead : entries.takeWhile (·.1 != name) = before := by
    rw [split, List.takeWhile_append_of_pos, List.takeWhile_cons_of_neg (by simp), List.append_nil]
    intro e there
    rw [bne_comm]
    exact earlier e there
  have later : name ∉ after.map (·.1) := by
    rw [split, List.map_append, List.map_cons] at distinct
    exact (List.nodup_cons.mp (List.nodup_append.mp distinct).2.1).1
  have steps : expandAll env (before ++ (name, value) :: after) entries = .ok values' := by
    rw [← split, h]
  rw [turn, ahead]
  rw [expandAll_append] at steps
  cases first : expandAll env before entries with
  | error e => rw [first] at steps; cases steps
  | ok values =>
    rw [first] at steps
    replace steps : expandAll env ((name, value) :: after) values = .ok values' := steps
    rw [expandAll] at steps
    cases out : expandEntry ⟨env, values⟩ name value with
    | error e => rw [out] at steps; cases steps
    | ok expanded =>
      rw [out] at steps
      refine ⟨expanded, out, (lookup_expandAll later steps).trans ?_⟩
      exact Environment.lookup_putEntry_self name expanded values

/-! ### Unescaping -/

/-- **Unescaping changes a text just if a backslash stands before a dollar sign**, and then it takes
a unit away. -/
theorem unescapeDollars_spec (text : List Char) :
    ¬ ['\\', '$'] <:+: text ∧ unescapeDollars text = text
      ∨ ['\\', '$'] <:+: text
        ∧ ((unescapeDollars text).flatMap Text.units).length < (text.flatMap Text.units).length := by
  fun_induction unescapeDollars text with
  | case1 => exact .inl ⟨by simp, rfl⟩
  | case2 rest ih =>
    refine .inr ⟨List.infix_append [] ['\\', '$'] rest, ?_⟩
    have : (Text.units '\\').length = 1 := rfl
    simp only [List.flatMap_cons, List.length_append]
    rcases ih with ⟨-, same⟩ | ⟨-, less⟩
    · rw [same]
      omega
    · omega
  | case3 c rest other ih =>
    have front : ¬ ['\\', '$'] <+: c :: rest := by
      rintro ⟨after, split⟩
      obtain ⟨rfl, rfl⟩ := List.cons.inj split
      exact other after rfl rfl
    simp only [List.infix_cons_iff, front, false_or, List.flatMap_cons, List.length_append,
      List.cons.injEq, true_and]
    exact ih.imp_right fun ⟨escaped, less⟩ => ⟨escaped, by omega⟩

/-- A value that was unescaped is held as the value it was just if nothing was unescaped. -/
theorem held_unescapeDollars_iff (fits : held name value = value) :
    held name (String.ofList (unescapeDollars value.toList)) = value
      ↔ ¬ ['\\', '$'] <:+: value.toList := by
  rcases unescapeDollars_spec value.toList with ⟨plain, same⟩ | ⟨escaped, less⟩
  · simp only [same, String.ofList_toList, fits, plain, not_false_eq_true]
  · refine iff_of_false (fun back => ?_) (not_not_intro escaped)
    have shorter := Environment.weight_held_le name (String.ofList (unescapeDollars value.toList))
    rw [back, Environment.weight, Environment.weight, String.toList_ofList] at shorter
    omega

/-! ### Values without a dollar sign -/

/-- A character that is no dollar sign, with none behind it, is a piece of its own. -/
theorem splitPiece_of_no_dollar {c : Char} {rest : List Char} (first : '$' ≠ c)
    (others : '$' ∉ rest) : splitPiece c rest = (.plain c, rest) := by
  unfold splitPiece
  split
  · exact absurd List.mem_cons_self others
  · exact absurd rfl first
  · rfl

theorem piecesWithin_of_no_dollar {bound : Nat} {text : List Char} (short : text.length ≤ bound)
    (h : '$' ∉ text) : piecesWithin bound text = text.map Piece.plain := by
  induction bound generalizing text with
  | zero =>
    rw [List.length_eq_zero_iff.mp (Nat.le_zero.mp short)]
    rfl
  | succ bound ih =>
    cases text with
    | nil => rfl
    | cons c rest =>
      obtain ⟨first, others⟩ := not_or.mp (mt List.mem_cons.mpr h)
      simp only [piecesWithin, splitPiece_of_no_dollar first others, List.map_cons,
        ih (Nat.le_of_succ_le_succ short) others]

/-- **A text without a dollar sign is expanded to itself.** -/
theorem expand_of_no_dollar {text : List Char} (h : '$' ∉ text) (scope : Scope) :
    expand scope text = .ok text := by
  have each (step : Piece → Except LoadError (List Char)) (plain : ∀ c, step (.plain c) = .ok [c]) :
      (text.map Piece.plain).mapM step = .ok (text.map fun c => [c]) := by
    clear h
    induction text with
    | nil => rfl
    | cons c rest ih =>
      rw [List.map_cons, List.mapM_cons, plain, ih]
      rfl
  rw [expand, expandWithin, pieces, piecesWithin_of_no_dollar le_rfl h, each _ fun _ => rfl]
  exact congrArg Except.ok ((List.flatMap_def ..).symm.trans (List.flatMap_singleton' text))

/-! ### What a variable withstands -/

theorem exists_of_turn {out : String} (h : turn env entries name value = .ok out) :
    ∃ values, expandEntry ⟨env, values⟩ name value = .ok out := by
  rw [turn] at h
  cases before : expandAll env (entries.takeWhile (·.1 != name)) entries with
  | error e => rw [before] at h; cases h
  | ok values => exact ⟨values, by rw [before] at h; exact h⟩

/-- A variable that is set to another text than the file's is only unescaped in its turn. -/
theorem turn_of_ne {written out : String} (set : env.get? name = some value)
    (other : written ≠ value) (h : turn env entries name written = .ok out) :
    out = String.ofList (unescapeDollars value.toList) := by
  obtain ⟨values, h⟩ := exists_of_turn h
  simp only [expandEntry, set, if_neg other.symm] at h
  exact (Except.ok.inj h).symm

/-- A variable without a dollar sign keeps its value in its turn. -/
theorem turn_of_no_dollar {out : String} (set : env.get? name = some value)
    (plain : '$' ∉ value.toList) (h : turn env entries name value = .ok out) : out = value := by
  obtain ⟨values, h⟩ := exists_of_turn h
  simp only [expandEntry, set, if_pos, expand_of_no_dollar plain] at h
  have same : unescapeDollars value.toList = value.toList := by
    rcases unescapeDollars_spec value.toList with ⟨-, same⟩ | ⟨escaped, -⟩
    · exact same
    · exact absurd (escaped.subset (by simp)) plain
  rw [← Except.ok.inj h, same, String.ofList_toList]

/-- **A variable withstands a file**: nothing that is written back to it is another value. -/
def Withstands (text : String) (env : Environment) (name value : String) : Prop :=
  match (table text).lookup name with
  | none => True
  | some written =>
    if written = value then
      ∃ out, turn (fill (table text) env) (table text) name value = .ok out ∧ held name out = value
    else ¬ ['\\', '$'] <:+: value.toList

/-- **Loading a file keeps the value of a variable just if the variable withstands the file**, as
every variable does that has no dollar sign in its value. -/
theorem kept_iff_withstands {text : String} {loaded : Loaded} (fits : env.Fits)
    (loads : load (some text) env = .ok loaded) (set : env.get? name = some value) :
    (loaded.env.get? name = some value ↔ Withstands text env name value)
      ∧ ('$' ∉ value.toList → Withstands text env name value) := by
  have filled := get?_fill (table text) set
  have fit := fits.held_eq set
  rw [load] at loads
  cases expanded : expandAll (fill (table text) env) (table text) (table text) with
  | error e =>
    simp only [expanded] at loads
    cases loads
  | ok values =>
    simp only [expanded] at loads
    obtain rfl := Except.ok.inj loads
    have names : values.map (·.1) = (table text).map (·.1) :=
      keys_expandAll (fun e there => List.mem_map_of_mem there) expanded
    have after := get?_write (names ▸ nodup_table text) (fill (table text) env) name
    show ((write values (fill (table text) env)).get? name = some value ↔ _) ∧ _
    rw [after, Withstands]
    cases found : (table text).lookup name with
    | none =>
      have absent : name ∉ (table text).map (·.1) := by
        rintro member
        obtain ⟨entry, there, rfl⟩ := List.mem_map.mp member
        exact bne_iff_ne.mp (List.lookup_eq_none_iff.mp found entry there) rfl
      simp [lookup_expandAll absent expanded, found, filled]
    | some written =>
      obtain ⟨out, its, final⟩ := turn_eq (nodup_table text) found expanded
      simp only [final, Option.map_some, Option.some_or, Option.some.injEq]
      split
      · rename_i same
        subst same
        refine ⟨⟨fun kept => ⟨out, its, kept⟩, ?_⟩, fun plain => ⟨out, its, ?_⟩⟩
        · rintro ⟨out', its', kept⟩
          rwa [← Except.ok.inj (its'.symm.trans its)]
        · rw [turn_of_no_dollar filled plain its, fit]
      · rename_i other
        rw [turn_of_ne filled other its]
        refine ⟨held_unescapeDollars_iff fit, fun plain escaped => plain ?_⟩
        exact escaped.subset (by simp)

/-- Three variables with dollar signs in their values. -/
def settings : List (String × String) := [("A", "\\$x"), ("B", "$C"), ("D", "$d")]

/-- A file that gives the first of them another text, the second the very same, and refers to the
third. -/
def file : String := "A=1\nB=$C\nE=$D\n"

/-- The text of a variable after a file has been loaded, if it can be. -/
def textAfter (text : String) (env : Environment) (name : String) : Option String :=
  match load (some text) env with
  | .ok loaded => loaded.env.get? name
  | .error _ => none

/-- **Variables that are set can lose their values**, whether a file gives them another text or the
very same. -/
theorem lost_session :
    (Environment.ofList settings).get? "A" = some "\\$x"
      ∧ textAfter file (.ofList settings) "A" = some "$x"
      ∧ (Environment.ofList settings).get? "B" = some "$C"
      ∧ textAfter file (.ofList settings) "B" = some "" := by
  decide +kernel

theorem kept_iff_withstands_session : ∃ loaded, load (some file) (.ofList settings) = .ok loaded
    ∧ loaded.env.get? "D" = some "$d" ∧ loaded.env.get? "A" ≠ some "\\$x" := by
  have fits := Environment.fits_ofList settings
  obtain ⟨loaded, loads⟩ : ∃ loaded, load (some file) (.ofList settings) = .ok loaded := by
    have done : textAfter file (.ofList settings) "E" = some "" := by decide +kernel
    rw [textAfter] at done
    split at done
    · exact ⟨_, ‹_›⟩
    · cases done
  have absent : (table file).lookup "D" = none := by decide +kernel
  have other : (table file).lookup "A" = some "1" := by decide +kernel
  have third : (Environment.ofList settings).get? "D" = some "$d" := by decide +kernel
  have first : (Environment.ofList settings).get? "A" = some "\\$x" := by decide +kernel
  refine ⟨loaded, loads, (kept_iff_withstands fits loads third).1.mpr ?_,
    mt (kept_iff_withstands fits loads first).1.mp ?_⟩
  · rw [Withstands, absent]
    trivial
  · rw [Withstands, other]
    exact fun plain => plain (by decide)

end EnvFile

end Proximity
