import Proximity.Fault
import Proximity.Tree
import Proximity.Text.Case

/-!
# Redaction

Nothing that looks like a credential may leave in a report. A key is *sensitive*
when its lower case has one of seven words in it; redaction replaces the value
under every sensitive key, at any depth, by `[redacted]`, and goes through all
other values of records and lists.

One key is special: a record never takes an entry under `__proto__`, so a value
that stands under it does not come out of a redaction at all.
-/

namespace Proximity

namespace Redaction

/-- The words that make a key sensitive. -/
def sensitiveWords : List String :=
  ["password", "token", "secret", "authorization", "auth", "dsn", "email"]

/-- **A key is sensitive** when its lower case has a sensitive word in it. -/
def isSensitive (key : String) : Bool :=
  let key := Text.lowerCase key.toList
  sensitiveWords.any fun word => Text.hasWord word.toList key

/-- What makes a key sensitive: one of the words stands somewhere in its lower case. -/
def Sensitive (key : String) : Prop :=
  ∃ word ∈ sensitiveWords, word.toList <:+: Text.lowerCase key.toList

/-- The keys that are found to be sensitive are those that are. -/
theorem isSensitive_iff {key : String} : isSensitive key = true ↔ Sensitive key := by
  simp only [isSensitive, Sensitive, List.any_eq_true, Text.hasWord_iff_isInfix]

instance (key : String) : Decidable (Sensitive key) := decidable_of_iff _ isSensitive_iff

/-- What stands in for the value under a sensitive key. -/
def mask : Tree := .text "[redacted]"

/-- The key under which no record takes an entry. -/
def unassignable : String := "__proto__"

theorem not_sensitive_unassignable : ¬ Sensitive unassignable := by decide

mutual

/-- **A tree without its sensitive values.** -/
def redact : Tree → Tree
  | .null => .null
  | .flag b => .flag b
  | .number x => .number x
  | .text s => .text s
  | .list items => .list (redactItems items)
  | .record entries => .record (redactEntries entries)

/-- A list of trees, each without its sensitive values. -/
def redactItems : List Tree → List Tree
  | [] => []
  | item :: rest => redact item :: redactItems rest

/-- The entries of a record, the sensitive ones masked and the others without
their sensitive values. -/
def redactEntries : List (String × Tree) → List (String × Tree)
  | [] => []
  | (key, value) :: rest =>
    if isSensitive key then (key, mask) :: redactEntries rest
    else if key = unassignable then redactEntries rest
    else (key, redact value) :: redactEntries rest

end

/-- What becomes of one entry of a record; `none` when it does not come out. -/
def redactEntry (entry : String × Tree) : Option (String × Tree) :=
  if isSensitive entry.1 then some (entry.1, mask)
  else if entry.1 = unassignable then none
  else some (entry.1, redact entry.2)

/-- **The entries of a tree, redacted, as a record.** A list is taken as the
record of its items. -/
def redactRecord (tree : Tree) : Tree := .record (tree.entries.filterMap redactEntry)

/-- The entries of a tree, redacted, if it is a tree that can be asked for
entries. -/
def redactGiven : Tree → Except Fault Tree
  | .null => .error .noEntries
  | tree => .ok (redactRecord tree)

theorem redactEntries_eq_filterMap (entries : List (String × Tree)) :
    redactEntries entries = entries.filterMap redactEntry := by
  induction entries with
  | nil => rfl
  | cons entry rest ih =>
    obtain ⟨key, value⟩ := entry
    rw [redactEntries, List.filterMap_cons, redactEntry]
    split
    · rw [ih]
    · split
      · exact ih
      · rw [ih]

theorem redactItems_eq_map (items : List Tree) : redactItems items = items.map redact := by
  induction items with
  | nil => rfl
  | cons item rest ih => simp [redactItems, ih]

end Redaction

end Proximity
