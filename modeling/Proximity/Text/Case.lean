/-!
# Letter case

Settings and key names are compared with words of plain ASCII letters, whatever
the case they are written in. So lower-casing matters only as far as its result
can be such a letter: beyond the ASCII capitals, that is so for exactly two
characters, the KELVIN SIGN and the LATIN CAPITAL LETTER I WITH DOT ABOVE. All
other characters stay what they are; their lower case, if they have one, is no
ASCII letter either.
-/

namespace Proximity

namespace Text

/-- The lower case of one character, as far as it holds an ASCII letter. The
dotted capital I becomes two characters, a letter and its dot. -/
def lowerChar (c : Char) : List Char :=
  if c == '\u212a' then ['k']
  else if c == '\u0130' then ['i', '\u0307']
  else [c.toLower]

/-- **A text in lower case**, as far as comparing it with ASCII words goes. -/
def lowerCase (text : List Char) : List Char := text.flatMap lowerChar

/-- Whether a word stands somewhere in a text. -/
def hasWord (word : List Char) : List Char → Bool
  | [] => word.isEmpty
  | c :: rest => word.isPrefixOf (c :: rest) || hasWord word rest

/-- **A word stands in a text just when the text is something, the word, and
something.** -/
theorem hasWord_iff_isInfix {word text : List Char} : hasWord word text = true ↔ word <:+: text := by
  induction text with
  | nil => simp [hasWord]
  | cons c rest ih => simp [hasWord, ih, List.infix_cons_iff]

end Text

end Proximity
