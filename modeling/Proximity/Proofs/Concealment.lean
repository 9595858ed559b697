import Proximity.Redaction

/-!
# Nothing leaks out of a redaction

Two trees are *alike* (`Proximity.Redaction.Alike`) if they differ in nothing but what stands under
sensitive keys, at any depth. Nobody who sees their redactions can tell them apart
(`Proximity.Redaction.leaks_nothing`), since the redactions are the same tree. The other three parts
of that statement say what a redaction looks like and how it is come by:

| part | what it excludes |
|---|---|
| alike trees are redacted to one tree | a mask that depends on what it hides |
| under a sensitive key there is the mask | a record of the result that was not gone through |
| a redacted tree is redacted to itself | a mask that is masked again, a value that is lost in passing |
| a record given for its entries is redacted like any other tree | a second traversal with rules of its own |

Which keys are sensitive is said by `Proximity.Redaction.Sensitive`.
-/

namespace Proximity

namespace Redaction

/-! ### What comes out under a key -/

variable {key : String} {value : Tree} {items : List Tree} {entries : List (String × Tree)}

/-- An entry that comes out of a redaction is an entry that went in, masked or redacted. -/
theorem mem_redactEntries : (key, value) ∈ redactEntries entries ↔
    ∃ given, (key, given) ∈ entries ∧
      if Sensitive key then value = mask else key ≠ unassignable ∧ value = redact given := by
  rw [redactEntries_eq_filterMap, List.mem_filterMap]
  constructor
  · rintro ⟨⟨k, given⟩, member, out⟩
    simp only [redactEntry, isSensitive_iff] at out
    split at out
    · rename_i sensitive
      obtain ⟨rfl, rfl⟩ := Prod.mk.inj (Option.some.inj out)
      exact ⟨given, member, by rw [if_pos sensitive]⟩
    · rename_i plain
      split at out
      · cases out
      · rename_i assignable
        obtain ⟨rfl, rfl⟩ := Prod.mk.inj (Option.some.inj out)
        exact ⟨given, member, by rw [if_neg plain]; exact ⟨assignable, rfl⟩⟩
  · rintro ⟨given, member, out⟩
    refine ⟨(key, given), member, ?_⟩
    simp only [redactEntry, isSensitive_iff]
    split at out
    · rename_i sensitive
      rw [if_pos sensitive, out]
    · rename_i plain
      rw [if_neg plain, if_neg out.1, out.2]

/-- Only a list comes out as a list. -/
theorem redact_eq_list {tree : Tree} (h : redact tree = .list items) :
    ∃ given, tree = .list given ∧ items = given.map redact := by
  cases tree with
  | list given =>
    rw [redact, redactItems_eq_map] at h
    exact ⟨given, rfl, (Tree.list.inj h).symm⟩
  | _ => cases h

/-- Only a record comes out as a record. -/
theorem redact_eq_record {tree : Tree} (h : redact tree = .record entries) :
    ∃ given, tree = .record given ∧ entries = redactEntries given := by
  cases tree with
  | record given => exact ⟨given, rfl, (Tree.record.inj h).symm⟩
  | _ => cases h

end Redaction

/-- **A tree is somewhere inside another one**, or is the other one. -/
inductive Tree.Inside (part : Tree) : Tree → Prop where
  /-- A tree is inside itself. -/
  | whole : Inside part part
  /-- What is inside an item is inside the list. -/
  | item {item : Tree} {items : List Tree} :
    item ∈ items → Inside part item → Inside part (.list items)
  /-- What is inside a value is inside the record. -/
  | entry {key : String} {value : Tree} {entries : List (String × Tree)} :
    (key, value) ∈ entries → Inside part value → Inside part (.record entries)

namespace Redaction

/-- Every record inside a redacted tree was gone through. -/
theorem exists_of_inside_redact {entries : List (String × Tree)} {tree : Tree}
    (h : Tree.Inside (.record entries) (redact tree)) : ∃ given, entries = redactEntries given := by
  generalize result : redact tree = redacted at h
  induction h generalizing tree with
  | whole =>
    obtain ⟨given, -, out⟩ := redact_eq_record result
    exact ⟨given, out⟩
  | item member _ ih =>
    obtain ⟨given, -, rfl⟩ := redact_eq_list result
    obtain ⟨x, -, out⟩ := List.mem_map.mp member
    exact ih out
  | entry member inside ih =>
    obtain ⟨given, -, rfl⟩ := redact_eq_record result
    obtain ⟨value, -, out⟩ := mem_redactEntries.mp member
    split at out
    · -- The mask is a text, and no record is inside a text.
      subst out
      cases inside
    · exact ih out.2.symm

/-! ### Twice redacted -/

mutual

/-- **A redacted tree is redacted to itself.** -/
theorem redact_redact : ∀ tree : Tree, redact (redact tree) = redact tree
  | .null | .flag _ | .number _ | .text _ => rfl
  | .list items => congrArg Tree.list (redactItems_redactItems items)
  | .record entries => congrArg Tree.record (redactEntries_redactEntries entries)

theorem redactItems_redactItems :
    ∀ items : List Tree, redactItems (redactItems items) = redactItems items
  | [] => rfl
  | item :: rest => by
    rw [redactItems, redactItems, redact_redact item, redactItems_redactItems rest]

theorem redactEntries_redactEntries :
    ∀ entries : List (String × Tree), redactEntries (redactEntries entries) = redactEntries entries
  | [] => rfl
  | (key, value) :: rest => by
    have others := redactEntries_redactEntries rest
    by_cases sensitive : isSensitive key
    · simp only [redactEntries, if_pos sensitive, others]
    · by_cases special : key = unassignable
      · simp only [redactEntries, if_neg sensitive, if_pos special, others]
      · simp only [redactEntries, if_neg sensitive, if_neg special, others, redact_redact value]

end

/-! ### Trees that are alike -/

mutual

/-- **Two trees are alike**: they differ in nothing but what stands under sensitive keys. -/
inductive Alike : Tree → Tree → Prop where
  /-- No value is like no value. -/
  | null : Alike .null .null
  /-- A truth value is like itself. -/
  | flag (b : Bool) : Alike (.flag b) (.flag b)
  /-- A number is like itself. -/
  | number (x : Number) : Alike (.number x) (.number x)
  /-- A text is like itself. -/
  | text (s : String) : Alike (.text s) (.text s)
  /-- Lists are alike if their items are, one by one. -/
  | list {items others : List Tree} : AlikeItems items others → Alike (.list items) (.list others)
  /-- Records are alike if their entries are, one by one. -/
  | record {entries others : List (String × Tree)} :
    AlikeEntries entries others → Alike (.record entries) (.record others)

/-- Lists of trees that are alike one by one. -/
inductive AlikeItems : List Tree → List Tree → Prop where
  /-- There are no more items. -/
  | nil : AlikeItems [] []
  /-- One item more on either side. -/
  | cons {item other : Tree} {items others : List Tree} :
    Alike item other → AlikeItems items others → AlikeItems (item :: items) (other :: others)

/-- Entries with the same keys, and with values that are alike unless the key is sensitive. -/
inductive AlikeEntries : List (String × Tree) → List (String × Tree) → Prop where
  /-- There are no more entries. -/
  | nil : AlikeEntries [] []
  /-- Under a sensitive key there may be any two values. -/
  | sensitive {key : String} (value other : Tree) {entries others : List (String × Tree)} :
    Sensitive key → AlikeEntries entries others →
    AlikeEntries ((key, value) :: entries) ((key, other) :: others)
  /-- Under any key there may be values that are alike. -/
  | cons {key : String} {value other : Tree} {entries others : List (String × Tree)} :
    Alike value other → AlikeEntries entries others →
    AlikeEntries ((key, value) :: entries) ((key, other) :: others)

end

mutual

/-- **Trees that are alike are redacted to one tree.** -/
theorem redact_eq_of_alike {tree other : Tree} : Alike tree other → redact tree = redact other
  | .null | .flag _ | .number _ | .text _ => rfl
  | .list items => congrArg Tree.list (redactItems_eq_of_alike items)
  | .record entries => congrArg Tree.record (redactEntries_eq_of_alike entries)

theorem redactItems_eq_of_alike {items others : List Tree} :
    AlikeItems items others → redactItems items = redactItems others
  | .nil => rfl
  | .cons first rest => by
    rw [redactItems, redactItems, redact_eq_of_alike first, redactItems_eq_of_alike rest]

theorem redactEntries_eq_of_alike {entries others : List (String × Tree)} :
    AlikeEntries entries others → redactEntries entries = redactEntries others
  | .nil => rfl
  | .sensitive value other key rest => by
    have same := redactEntries_eq_of_alike rest
    simp only [redactEntries, if_pos (isSensitive_iff.mpr key), same]
  | .cons first rest => by
    have value := redact_eq_of_alike first
    have same := redactEntries_eq_of_alike rest
    simp only [redactEntries, value, same]

end

/-! ### Nothing leaks -/

/-- **Nothing leaks out of a redaction.** Trees that are alike are redacted to one tree; in a
redacted tree there is the mask under every sensitive key, at any depth; redacting it once more
changes nothing; and a record that is given for its entries is redacted as any tree is. -/
theorem leaks_nothing :
    (∀ tree other, Alike tree other → redact tree = redact other)
      ∧ (∀ tree entries, Tree.Inside (.record entries) (redact tree) →
          ∀ key value, (key, value) ∈ entries → Sensitive key → value = .text "[redacted]")
      ∧ (∀ tree, redact (redact tree) = redact tree)
      ∧ ∀ entries, redactGiven (.record entries) = .ok (redact (.record entries)) := by
  refine ⟨fun _ _ => redact_eq_of_alike, ?_, redact_redact, ?_⟩
  · intro tree entries inside key value member sensitive
    obtain ⟨given, rfl⟩ := exists_of_inside_redact inside
    obtain ⟨_, -, out⟩ := mem_redactEntries.mp member
    rwa [if_pos sensitive] at out
  · intro entries
    rw [redactGiven, redactRecord, Tree.entries, ← redactEntries_eq_filterMap, redact]
    exact fun h => Tree.noConfusion h

/-- What is reported of somebody who signs in, with a credential in a record in a list. Its key is
written with a KELVIN SIGN. -/
def signIn (credential : Tree) : Tree :=
  .record [("sensor", .text "primary"),
    ("attempts", .list [.number 4, .record [("authTo\u212aen", credential)]])]

theorem leaks_nothing_signIn :
    signIn (.text "first") ≠ signIn (.record [("pin", .number 1)])
      ∧ redact (signIn (.text "first")) = redact (signIn (.record [("pin", .number 1)])) := by
  refine ⟨by simp [signIn], leaks_nothing.1 _ _ ?_⟩
  have entries : AlikeEntries [("authTo\u212aen", .text "first")]
      [("authTo\u212aen", .record [("pin", .number 1)])] :=
    .sensitive _ _ (by decide) .nil
  exact .record (.cons (.text _) (.cons (.list (.cons (.number _) (.cons (.record entries) .nil)))
    .nil))

end Redaction

end Proximity
