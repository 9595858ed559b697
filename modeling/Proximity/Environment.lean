import Proximity.Text.Unit

/-!
# Environments

The variables that a process runs with: texts under names, each name once.

A variable cannot hold any text. Its text ends before the first NUL, and half
characters in it become replacement characters (`Proximity.Environment.storable`);
the same goes for names, and a name must be something and cannot have an equals
sign in it.

A name that is a *position* – a plain decimal numeral – is an exception. What is
set under it does not become a variable of the process; it is kept beside the
variables, and as it is.

A process keeps a variable as a *line* – its name, an equals sign and its value –
and looks a text up as what stands in front of an equals sign of a line
(`Proximity.Environment.ask?`). A variable `A` with the value `B=c` is therefore
found under `A`, where its value is `B=c`, and under `A=B`, where it is `c`.
-/

namespace Proximity

/-- The variables of a process. -/
structure Environment where
  /-- The variables and their values. -/
  entries : List (String × String) := []
  /-- What is kept at positions. -/
  positions : List (String × String) := []
  deriving Inhabited

namespace Environment

/-! ### Names and texts -/

/-- The position that a name is, if it is one: the value of a canonical decimal
numeral below `2 ^ 32 - 1`. -/
def position? (name : String) : Option Nat :=
  let digits := name.toList
  if digits.isEmpty || !digits.all Char.isDigit || (digits.head? = some '0' && 1 < digits.length)
  then none
  else
    let n := digits.foldl (fun n c => 10 * n + (c.toNat - '0'.toNat)) 0
    if n + 1 < 1 <<< 32 then some n else none

/-- Whether a name is a position. -/
def isPosition (name : String) : Bool := (position? name).isSome

/-- What a variable of a process holds of a text: its characters up to the first
NUL. -/
def storable (text : String) : String :=
  String.ofList (Text.whole (text.toList.takeWhile (· != '\x00')))

/-- **What is held of a text under a name.** -/
def held (name text : String) : String := if isPosition name then text else storable text

/-- The name of a variable that a text stands for, if it stands for any. -/
def name? (text : String) : Option String :=
  let name := storable text
  if name.isEmpty || name.toList.contains '=' then none else some name

/-! ### Looking up and setting -/

/-- The value under a name; `none` when there is none. -/
def get? (env : Environment) (name : String) : Option String :=
  (if isPosition name then env.positions else env.entries).lookup name

/-- Whether there is a value under a name. -/
def has (env : Environment) (name : String) : Bool := (env.get? name).isSome

/-- The entries of a table with a value put under a name: in place of the value
there is, or at the end. -/
def putEntry (name value : String) : List (String × String) → List (String × String)
  | [] => [(name, value)]
  | (n, v) :: rest => if n = name then (n, value) :: rest else (n, v) :: putEntry name value rest

/-- An environment with a variable of the process set to a text, as far as it can
hold it. -/
def setVariable (env : Environment) (name value : String) : Environment :=
  { env with entries := putEntry name (storable value) env.entries }

/-- An environment with a name set to a text. -/
def set (env : Environment) (name value : String) : Environment :=
  if isPosition name then { env with positions := putEntry name value env.positions }
  else env.setVariable name value

/-- An environment that takes a text under another one. If that is no name,
nothing is set. -/
def adopt (env : Environment) (text value : String) : Environment :=
  if isPosition text then env.set text value
  else
    match name? text with
    | some name => env.setVariable name value
    | none => env

/-- **The environment with some variables.** Those that cannot have their name are
not set. -/
def ofList (settings : List (String × String)) : Environment :=
  settings.foldl (fun env v => env.adopt v.1 v.2) {}

/-- What there is to be seen of an environment. A variable whose name is a position
stays hidden, since what is kept at the position is looked at in its stead. -/
def toList (env : Environment) : List (String × String) :=
  env.positions ++ env.entries.filter fun v => !isPosition v.1

/-! ### Asking by a text -/

/-- What a variable answers to a text: the rest of its line, if that starts with what
can be held of the text and an equals sign. -/
def answer? (text name value : String) : Option String :=
  (((storable text).toList ++ ['=']).isPrefixOf? (name.toList ++ '=' :: value.toList)).map
    String.ofList

/-- **What an environment has under a text**: what is kept at the position, if the
text is one, and what the first variable says that answers to it otherwise. -/
def ask? (env : Environment) (text : String) : Option String :=
  if isPosition text then env.positions.lookup text
  else env.entries.findSome? fun v => answer? text v.1 v.2

/-! ### What was set is there -/

theorem lookup_putEntry_self (name value : String) (entries : List (String × String)) :
    (putEntry name value entries).lookup name = some value := by
  induction entries with
  | nil => simp [putEntry]
  | cons entry rest ih =>
    obtain ⟨n, v⟩ := entry
    by_cases h : n = name
    · simp [putEntry, h]
    · have : name ≠ n := fun e => h e.symm
      simp [putEntry, h, List.lookup_cons, beq_eq_false_iff_ne.mpr this, ih]

theorem lookup_putEntry_of_ne {name other : String} (value : String) (h : other ≠ name)
    (entries : List (String × String)) :
    (putEntry name value entries).lookup other = entries.lookup other := by
  induction entries with
  | nil => simp [putEntry, List.lookup_cons, beq_eq_false_iff_ne.mpr h]
  | cons entry rest ih =>
    obtain ⟨n, v⟩ := entry
    by_cases hn : n = name
    · subst hn
      simp [putEntry, List.lookup_cons, beq_eq_false_iff_ne.mpr h]
    · rw [putEntry, if_neg hn, List.lookup_cons, List.lookup_cons, ih]

/-- A name that was set has what can be held of its new text. -/
@[simp] theorem get?_set_self (env : Environment) (name value : String) :
    (env.set name value).get? name = some (held name value) := by
  by_cases h : isPosition name <;>
    simp [get?, set, setVariable, held, h, lookup_putEntry_self]

/-- Setting a name leaves every other one alone. -/
theorem get?_set_of_ne (env : Environment) {name other : String} (value : String)
    (h : other ≠ name) : (env.set name value).get? other = env.get? other := by
  by_cases p : isPosition name <;> by_cases q : isPosition other <;>
    simp [get?, set, setVariable, p, q, lookup_putEntry_of_ne _ h]

end Environment

end Proximity
