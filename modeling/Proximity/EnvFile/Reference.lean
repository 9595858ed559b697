import Proximity.EnvFile.Assignment

/-!
# References in values

A value of an environment file may refer to other variables: `$NAME`, `${NAME}`,
and either with a fallback behind `-` or `:-`. This file cuts a text into plain
characters and references; what a reference stands for is the business of
`Proximity.EnvFile.expand`.

A fallback goes on to the first closing brace, whether or not an opening brace
stands before the name – but the braces of `${…}` blocks inside it, up to three
deep, do not count. A block is passed over whole only if enough closing braces
remain for the blocks around it.
-/

namespace Proximity

namespace EnvFile

/-- A reference to a variable. -/
structure Reference where
  /-- Whether a backslash before it takes its meaning away. -/
  escaped : Bool
  /-- The name of the variable. -/
  name : String
  /-- What it stands for when the variable has no text; empty when nothing is
  given. -/
  fallback : List Char
  /-- How it is written, without the backslash. -/
  written : List Char
  deriving DecidableEq, Inhabited

/-- A part of a value. -/
inductive Piece where
  /-- A character that stands for itself. -/
  | plain (c : Char)
  /-- A reference. -/
  | reference (r : Reference)
  deriving DecidableEq

/-! ### Blocks in braces -/

/-- What follows the closing brace of a block whose inside is `text`. Inner
blocks, read by `inner`, are passed over whole. The bound is the length of
`text`. -/
def afterBlockWithin (inner : List Char → Option (List Char)) :
    Nat → List Char → Option (List Char)
  | 0, _ => none
  | _, [] => none
  | bound + 1, c :: rest =>
    match inner (c :: rest) with
    | some after => afterBlockWithin inner bound after
    | none => if c = '}' then some rest else afterBlockWithin inner bound rest

/-- What follows a `${…}` block at the front of a text, in which blocks are
passed over `depth` deep, if `needed` closing braces remain behind it. -/
def afterBlock? : Nat → Nat → List Char → Option (List Char)
  | depth, needed, '$' :: '{' :: text =>
    if text.count '}' ≤ needed then none
    else
      match depth with
      | 0 => some ((text.dropWhile (· != '}')).drop 1)
      | depth + 1 => afterBlockWithin (afterBlock? depth (needed + 1)) text.length text
  | _, _, _ => none

/-- What follows a fallback at the front of a text: the first closing brace that
is in no block, or nothing. The bound is the length of the text. -/
def afterFallbackWithin : Nat → List Char → List Char
  | 0, text => text
  | _, [] => []
  | bound + 1, c :: rest =>
    match afterBlock? 2 0 (c :: rest) with
    | some after => afterFallbackWithin bound after
    | none => if c = '}' then c :: rest else afterFallbackWithin bound rest

/-- The part of a text that stands before a given end of it. -/
def upTo (text after : List Char) : List Char := text.take (text.length - after.length)

/-! ### References -/

/-- The fallback behind a name, empty when there is none, and what follows it. -/
def splitFallback (text : List Char) : List Char × List Char :=
  let body :=
    match text with
    | ':' :: '-' :: body => body
    | '-' :: body => body
    | _ => []
  let after := afterFallbackWithin body.length body
  if after.length < body.length then (upTo body after, after) else ([], text)

/-- The characters of the name in a reference. -/
def isReferenceChar (c : Char) : Bool := isWordChar c || c == '.'

/-- The reference behind a dollar sign, whose written form starts with `$`, and
what follows it. A dollar sign before a parenthesis refers to nothing. -/
def splitReference? (escaped : Bool) (text : List Char) : Option (Reference × List Char) :=
  let inside :=
    match text with
    | '{' :: rest => rest
    | rest => rest
  match inside.takeWhile isReferenceChar with
  | [] => none
  | name =>
    let (fallback, rest) := splitFallback (inside.dropWhile isReferenceChar)
    let rest :=
      match rest with
      | '}' :: rest => rest
      | rest => rest
    some (⟨escaped, String.ofList name, fallback, '$' :: upTo text rest⟩, rest)

/-- The piece at the front of a text, and what follows it. -/
def splitPiece (c : Char) (rest : List Char) : Piece × List Char :=
  let found :=
    match c, rest with
    | '\\', '$' :: rest => splitReference? true rest
    | '$', rest => splitReference? false rest
    | _, _ => none
  match found with
  | some (r, rest) => (.reference r, rest)
  | none => (.plain c, rest)

/-- The pieces of a text. The bound is the length of the text. -/
def piecesWithin : Nat → List Char → List Piece
  | 0, _ => []
  | _, [] => []
  | bound + 1, c :: rest =>
    let (piece, rest) := splitPiece c rest
    piece :: piecesWithin bound rest

/-- **The pieces of a text**: its references, and its other characters one by
one. -/
def pieces (text : List Char) : List Piece := piecesWithin text.length text

end EnvFile

end Proximity
