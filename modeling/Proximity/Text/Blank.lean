/-!
# Blank characters

What counts as blank around a setting, and how a text loses the blanks at its
ends: the horizontal white space of Unicode, the byte order mark, and everything
that ends a line.
-/

namespace Proximity

namespace Text

/-- The characters that end a line. -/
def isLineEnd (c : Char) : Bool :=
  c == '\n' || c == '\r' || c == '\u2028' || c == '\u2029'

/-- The blank characters: tabs, the byte order mark, the space separators of
Unicode and the line ends. -/
def isBlank (c : Char) : Bool :=
  isLineEnd c || c == '\t' || c == '\x0b' || c == '\x0c' || c == ' ' || c == '\u00a0'
    || c == '\u1680' || ('\u2000' ≤ c && c ≤ '\u200a') || c == '\u202f' || c == '\u205f'
    || c == '\u3000' || c == '\ufeff'

/-- A text without the blanks at its front. -/
def trimFront (text : List Char) : List Char := text.dropWhile isBlank

/-- A text without the blanks at its back. -/
def trimBack (text : List Char) : List Char := (text.reverse.dropWhile isBlank).reverse

/-- **A text without the blanks at its two ends.** -/
def trim (text : List Char) : List Char := trimBack (trimFront text)

end Text

end Proximity
