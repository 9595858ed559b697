import Proximity.Number.Shortest
import Proximity.Text.Unit

/-!
# Data trees

The structured values that travel in log metadata and error reports: scalars,
lists of trees, and records whose entries carry a key each.
-/

namespace Proximity

/-- A structured value. -/
inductive Tree where
  /-- No value. -/
  | null
  /-- A truth value. -/
  | flag (b : Bool)
  /-- A number. -/
  | number (x : Number)
  /-- A text. -/
  | text (s : String)
  /-- A list of values. -/
  | list (items : List Tree)
  /-- Values under keys. -/
  | record (entries : List (String × Tree))
  deriving Inhabited

namespace Tree

/-- An integer as a tree. -/
def int (n : Int) : Tree := number (.finite n)

/-- An optional text; none is `null`. -/
def text? : Option String → Tree
  | none => null
  | some s => text s

/-- The value under a key of a record. -/
def field? (key : String) : Tree → Option Tree
  | record entries => entries.lookup key
  | _ => none

/-- A record with one more entry, which replaces an entry of the same key. -/
def put (entries : List (String × Tree)) (key : String) (value : Tree) : List (String × Tree) :=
  if entries.any (·.1 == key) then
    entries.map fun e => if e.1 == key then (key, value) else e
  else entries ++ [(key, value)]

/-- A record without the entry of a key. -/
def drop (entries : List (String × Tree)) (key : String) : List (String × Tree) :=
  entries.filter (·.1 != key)

/-- The entries of a tree: those of a record, the items of a list or the units of
a text under their positions, and none of any other scalar. -/
def entries : Tree → List (String × Tree)
  | record entries => entries
  | list items => items.zipIdx.map fun (item, i) => (toString i, item)
  | text s =>
    (s.toList.flatMap Text.units).zipIdx.map fun (unit, i) =>
      (toString i, text (String.singleton (Text.ofUnit unit)))
  | null | flag _ | number _ => []

mutual

/-- **The text of a tree where a text is wanted.** The items of a list stand
between commas, `null` among them as nothing; a record only says that it is one.
A record with an entry of its own under the name of the conversion has no text,
and no list with such a record in it has one. -/
def display? : Tree → Option String
  | null => some "null"
  | flag b => some (toString b)
  | number x => some x.text
  | text s => some s
  | list items => (displayItems? items).map (String.intercalate ",")
  | record entries =>
    if entries.any (·.1 == "toString") then none else some "[object Object]"

/-- The texts of the items of a list. -/
def displayItems? : List Tree → Option (List String)
  | [] => some []
  | null :: rest => (displayItems? rest).map ("" :: ·)
  | item :: rest => (display? item).bind fun s => (displayItems? rest).map (s :: ·)

end

/-- Whether a tree counts as present: neither `null`, nor false, nor the empty
text, nor zero, nor no number at all. -/
def isPresent : Tree → Bool
  | null => false
  | flag b => b
  | number x => !(x.same 0 || x == .nan)
  | text s => !s.isEmpty
  | list _ | record _ => true

end Tree

end Proximity
