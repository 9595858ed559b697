import Proximity.Text.Blank

/-!
# Assignments in an environment file

An environment file assigns texts to names, one assignment a line – nearly. An
assignment starts at a line start, but blanks of any kind may stand before the
name, on both sides of the `=` and behind the value, line ends among them; and a
quoted value may go over several lines.

| form | value |
|---|---|
| `NAME = plain text # remark` | what stands before the remark, without blanks at its ends |
| `NAME="…"`, `NAME='…'`, ``NAME=`…` `` | what stands between the quotes |
| `NAME: …` | as with `=`, when a blank follows the colon |
| `export NAME=…` | as without `export` |

A quote that is never closed, or that is followed by something else than a
remark, does not open a quoted value: the line is then read as plain text. A line
that assigns nothing is passed over.
-/

namespace Proximity

namespace EnvFile

open Text (isBlank isLineEnd)

/-- An assignment of a text to a name. -/
structure Assignment where
  /-- The name. -/
  name : String
  /-- The text it is assigned. -/
  value : String
  deriving DecidableEq, Inhabited

/-! ### Lines -/

/-- A text in which every line ends with a line feed: a carriage return counts as
one, alone or together with the line feed behind it. -/
def unifyLineEnds : List Char → List Char
  | [] => []
  | '\r' :: '\n' :: rest => '\n' :: unifyLineEnds rest
  | '\r' :: rest => '\n' :: unifyLineEnds rest
  | c :: rest => c :: unifyLineEnds rest

/-- What follows the first line end of a text. -/
def nextLine (text : List Char) : List Char := (text.dropWhile (!isLineEnd ·)).drop 1

/-- What follows the last line end of a text; `none` when it has none. -/
def afterLastLineEnd? (text : List Char) : Option (List Char) :=
  if text.any isLineEnd then some (text.reverse.takeWhile (!isLineEnd ·)).reverse else none

/-! ### Names -/

/-- Letters, digits and the low line. -/
def isWordChar (c : Char) : Bool := c.isAlphanum || c == '_'

/-- The characters of a name. -/
def isNameChar (c : Char) : Bool := isWordChar c || c == '.' || c == '-'

/-- What follows the sign between a name and its value: an `=` with any blanks
before it, or a colon with a blank behind it. -/
def afterSign? (text : List Char) : Option (List Char) :=
  match text.dropWhile isBlank with
  | '=' :: rest => some rest
  | _ =>
    match text with
    | ':' :: c :: rest => if isBlank c then some rest else none
    | _ => none

/-- The name at the front of a text, and what follows the sign behind it. -/
def splitName? (text : List Char) : Option (List Char × List Char) :=
  match text.takeWhile isNameChar with
  | [] => none
  | name => (afterSign? (text.dropWhile isNameChar)).map fun rest => (name, rest)

/-- What follows the word `export` and the blanks behind it. -/
def afterExport? (text : List Char) : Option (List Char) :=
  if "export".toList.isPrefixOf text then
    match text.drop "export".length with
    | c :: rest => if isBlank c then some (rest.dropWhile isBlank) else none
    | [] => none
  else none

/-- The name at the front of a line, with or without `export` before it, and what
follows the sign behind it. -/
def splitLine? (line : List Char) : Option (List Char × List Char) :=
  let line := line.dropWhile isBlank
  ((afterExport? line).bind splitName?).or (splitName? line)

/-! ### Values -/

/-- The characters that quote a value. -/
def isQuote (c : Char) : Bool := c == '\'' || c == '"' || c == '\x60'

/-- **Where a value may end.** Behind it there may be blanks and then a remark, or
the end of the text, or, among the blanks, a line end. The answer is what the
next assignment is looked for in; `none` means that the value does not end here. -/
def afterValue? (text : List Char) : Option (List Char) :=
  let blanks := text.takeWhile isBlank
  match text.dropWhile isBlank with
  | [] => some []
  | c :: rest =>
    if c == '#' then some (nextLine rest)
    else (afterLastLineEnd? blanks).map (· ++ c :: rest)

/-- The places behind an opening quote where the quoted text may be closed, the
best one first: the first quote without a backslash before it, and then, from the
last to the first, those with one. A place is the text between the quotes and
what follows the closing one. The first argument is the quoted text so far,
reversed, and the last one the places found so far. -/
def closings (quote : Char) :
    List Char → List Char → List (List Char × List Char) → List (List Char × List Char)
  | _, [], found => found
  | inside, c :: rest, found =>
    if c = quote then
      if inside.head? = some '\\' then
        closings quote (c :: inside) rest ((inside.reverse, rest) :: found)
      else (inside.reverse, rest) :: found
    else closings quote (c :: inside) rest found

/-- The quoted value at the front of a text, its quotes included, and what the
next assignment is looked for in. -/
def splitQuoted? (text : List Char) : Option (List Char × List Char) :=
  match text.dropWhile isBlank with
  | [] => none
  | quote :: rest =>
    if isQuote quote then
      (closings quote [] rest []).findSome? fun (inside, rest) =>
        (afterValue? rest).map fun rest => (quote :: inside ++ [quote], rest)
    else none

/-- The plain value at the front of a text, and what the next assignment is looked
for in. A plain value ends where the line or a remark does. -/
def splitPlain (text : List Char) : List Char × List Char :=
  let isPlain := fun c => c != '#' && c != '\n'
  (text.takeWhile isPlain, (afterValue? (text.dropWhile isPlain)).getD [])

/-! ### Quotes and escapes -/

/-- What stands between an opening quote and the last quote that ends a line, and
what follows that. -/
def splitAtLastQuote? (quote : Char) : List Char → Option (List Char × List Char)
  | [] => none
  | c :: rest =>
    match splitAtLastQuote? quote rest with
    | some (inside, after) => some (c :: inside, after)
    | none =>
      if c = quote && (rest.head?.map isLineEnd).getD true then some ([], rest) else none

/-- A text without the quotes that open at a line start and close at a line end.
The bound is the length of the text. -/
def dropQuotesWithin : Nat → Bool → List Char → List Char
  | 0, _, text => text
  | _, _, [] => []
  | bound + 1, atLineStart, c :: rest =>
    match if atLineStart && isQuote c then splitAtLastQuote? c rest else none with
    | some (inside, after) => inside ++ dropQuotesWithin bound false after
    | none => c :: dropQuotesWithin bound (isLineEnd c) rest

/-- A text without the quotes around it. -/
def dropQuotes (text : List Char) : List Char := dropQuotesWithin text.length true text

/-- A text in which a backslash and a letter stand for one character. -/
def unescape (letter meaning : Char) : List Char → List Char
  | [] => []
  | [c] => [c]
  | c :: d :: rest =>
    if c = '\\' && d = letter then meaning :: unescape letter meaning rest
    else c :: unescape letter meaning (d :: rest)

/-- The text that a written value stands for: without blanks and quotes around it,
and, if it is in double quotes, with its line ends unescaped. -/
def valueOf (written : List Char) : List Char :=
  let written := Text.trim written
  let value := dropQuotes written
  if written.head? = some '"' then unescape 'r' '\r' (unescape 'n' '\n' value) else value

/-! ### The assignments of a file -/

/-- The assignment at the front of a line, and what the next one is looked for
in. -/
def splitAssignment? (line : List Char) : Option (Assignment × List Char) :=
  (splitLine? line).map fun (name, rest) =>
    let (written, rest) := (splitQuoted? rest).getD (splitPlain rest)
    (⟨String.ofList name, String.ofList (valueOf written)⟩, rest)

/-- The assignments from a line start on. The bound is a number of lines. -/
def assignmentsWithin : Nat → List Char → List Assignment
  | 0, _ => []
  | _, [] => []
  | bound + 1, line =>
    match splitAssignment? line with
    | some (assignment, rest) => assignment :: assignmentsWithin bound rest
    | none => assignmentsWithin bound (nextLine line)

/-- **The assignments of an environment file**, in the order they are written. -/
def assignments (text : String) : List Assignment :=
  let text := unifyLineEnds text.toList
  assignmentsWithin (text.length + 1) text

end EnvFile

end Proximity
