import Proximity.EnvFile.Reference
import Proximity.Environment

/-!
# Loading an environment file

An environment file adds variables to an environment. Loading goes in two passes:
first every name that is not set yet takes its value as it is written, then the
references in the values are expanded, one name after the other, and every value
is written back.

The two passes look at different things. A reference is looked up in the
environment *after the first pass*, whose values are not expanded; the expanded
values so far only decide whether what is found there is to be expanded again.
Expansion may go round in circles, and it may lead to one of the few names that
every table has taken for something that is no text (`Proximity.EnvFile.isTaken`).
Then there is no result.
-/

namespace Proximity

namespace EnvFile

/-! ### The table of a file -/

/-- The name under which a file assigns nothing. -/
def unassignable : String := "__proto__"

/-- The entries of a table in reading order: those whose names are positions
first, in the order of the positions, and the others as they are. -/
def inOrder (entries : List (String × String)) : List (String × String) :=
  let positions := entries.filterMap fun e => (Environment.position? e.1).map fun n => (n, e)
  (positions.mergeSort fun a b => a.1 ≤ b.1).map (·.2)
    ++ entries.filter fun e => !Environment.isPosition e.1

/-- **What a file assigns**: its names, each with the value assigned last. -/
def table (text : String) : List (String × String) :=
  let assigned := assignments (String.ofList (Text.whole text.toList))
  inOrder <| (assigned.filter (·.name != unassignable)).foldl
    (fun entries a => Environment.putEntry a.name a.value entries) []

/-! ### Expansion -/

/-- Why a file cannot be loaded. -/
inductive LoadError where
  /-- The references of a value go round in circles. -/
  | endless
  /-- A reference stands for something that is no text. -/
  | noText
  deriving DecidableEq

/-- The text of a load error. -/
def LoadError.message : LoadError → String
  | endless => "Maximum call stack size exceeded"
  | noText => "value.replace is not a function"

/-- What a reference is looked up in. -/
structure Scope where
  /-- The variables that are set. -/
  env : Environment
  /-- The values of the file, expanded as far as expansion has come. -/
  values : List (String × String)

/-- What a reference stands for within a value. -/
inductive Meaning where
  /-- A text as it is. -/
  | literal (text : List Char)
  /-- A text that may hold references itself. -/
  | value (text : List Char)
  /-- Something that is no text. -/
  | noText

/-- Names under which every table has a routine, the same one in all of them. -/
def routineNames : List String :=
  ["hasOwnProperty", "isPrototypeOf", "propertyIsEnumerable", "toLocaleString", "toString",
   "valueOf", "__defineGetter__", "__defineSetter__", "__lookupGetter__", "__lookupSetter__"]

/-- Names under which every table has something of its own that is no text. -/
def ownNames : List String := ["constructor", unassignable]

/-- **Whether a name is taken** in every table, even though nobody has set it. -/
def isTaken (name : String) : Bool := name ∈ routineNames || name ∈ ownNames

/-- The text of a routine that every table has under a name. -/
def routineText (name : String) : List Char :=
  ("function " ++ name ++ "() \x7b [native code] \x7d").toList

/-- What a fallback stands for: it is expanded only if it starts with a reference. -/
def fallbackMeaning (fallback : List Char) : Meaning :=
  if fallback.head? = some '$' then .value fallback else .literal fallback

/-- What the text that the file gives a name stands for, unless it is empty or is
the value at hand; and failing that, the fallback. -/
def valueMeaning (scope : Scope) (within : List Char) (r : Reference) : Meaning :=
  match scope.values.lookup r.name with
  | some text =>
    if text.isEmpty || text.toList = within then fallbackMeaning r.fallback
    else .value text.toList
  | none => if isTaken r.name then .noText else fallbackMeaning r.fallback

/-- **What a reference stands for within a value.** An escaped one stands for
itself. A variable that is set gives its text, which is expanded unless the file
gives the name the very same text; failing that, the file's own text is expanded,
unless it is the value at hand; failing that, the fallback is taken. A name that
is taken counts as set, to something that is no text, but a routine that the
values have as well is told by its text. -/
def Reference.meaning (scope : Scope) (within : List Char) (r : Reference) : Meaning :=
  if r.escaped then .literal r.written
  else
    match scope.env.get? r.name with
    | some text =>
      if text.isEmpty then valueMeaning scope within r
      else if scope.values.lookup r.name = some text then .literal text.toList
      else .value text.toList
    | none =>
      if r.name ∈ routineNames && (scope.values.lookup r.name).isNone then
        .literal (routineText r.name)
      else if isTaken r.name then .noText
      else valueMeaning scope within r

/-- A text with its references replaced by what they stand for. The bound is how
deep references may lead; it is an error if they lead deeper. -/
def expandWithin (scope : Scope) : Nat → List Char → Except LoadError (List Char)
  | 0, _ => .error .endless
  | bound + 1, text => do
    let parts ← (pieces text).mapM fun
      | .plain c => .ok [c]
      | .reference r =>
        match r.meaning scope text with
        | .literal text => .ok text
        | .value text => expandWithin scope bound text
        | .noText => .error .noText
    return parts.flatten

/-- How deep references can lead without going round in circles: no further than
there are different texts among the values and their ends. -/
def Scope.depth (scope : Scope) : Nat :=
  let size := fun entries : List (String × String) =>
    entries.foldl (fun n e => n + e.2.length + 1) 0
  size scope.env.entries + size scope.env.positions + size scope.values + 1

/-- **A text with its references expanded**, unless they go round in circles or
lead to something that is no text. -/
def expand (scope : Scope) (text : List Char) : Except LoadError (List Char) :=
  expandWithin scope (scope.depth + text.length + 1) text

/-- A text in which no backslash stands before a dollar sign. -/
def unescapeDollars : List Char → List Char
  | [] => []
  | '\\' :: '$' :: rest => '$' :: unescapeDollars rest
  | c :: rest => c :: unescapeDollars rest

/-- The expanded value of one name. A variable that is set to another text than
the file's keeps that text, and its references are left alone. -/
def expandEntry (scope : Scope) (name value : String) : Except LoadError String := do
  let expanded ←
    match scope.env.get? name with
    | some text => if text = value then expand scope value.toList else .ok text.toList
    | none => expand scope value.toList
  return String.ofList (unescapeDollars expanded)

/-- The values of a file, expanded one after the other. -/
def expandAll (env : Environment) :
    List (String × String) → List (String × String) →
      Except LoadError (List (String × String))
  | [], values => .ok values
  | (name, value) :: rest, values => do
    let expanded ← expandEntry ⟨env, values⟩ name value
    expandAll env rest (Environment.putEntry name expanded values)

/-! ### Loading -/

/-- An environment with the entries of a table set. -/
def write (entries : List (String × String)) (env : Environment) : Environment :=
  entries.foldl (fun env e => env.set e.1 e.2) env

/-- An environment with those entries of a table set that are not set yet. -/
def fill (entries : List (String × String)) (env : Environment) : Environment :=
  entries.foldl (fun env e => if env.has e.1 then env else env.set e.1 e.2) env

/-- What loading a file leaves behind. -/
structure Loaded where
  /-- The names that the file assigns. -/
  names : List String
  /-- The environment afterwards. -/
  env : Environment

/-- **Loads an environment file**: fills in what is not set, expands every value
and writes it back. Without a file nothing happens. -/
def load (file : Option String) (env : Environment) : Except LoadError Loaded :=
  match file with
  | none => .ok ⟨[], env⟩
  | some text => do
    let entries := table text
    let env := fill entries env
    let values ← expandAll env entries entries
    return ⟨entries.map (·.1), write values env⟩

end EnvFile

end Proximity
