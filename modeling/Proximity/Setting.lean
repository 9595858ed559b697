import Proximity.Number.Decimal
import Proximity.Text.Blank
import Proximity.Text.Case

/-!
# Settings

A setting is a text somebody typed, or no text at all. This file reads truth
values and numbers out of settings: blanks around them do not matter, truth
values come in four pairs of words, and a number is brought into its range.

A setting that says nothing readable is treated like one that is not there.
-/

namespace Proximity

/-- **A number brought into a range.** What is not finite becomes the lower end,
whichever way it is infinite. Ends that are no numbers do not bound anything. -/
def Number.clamp (x low high : Number) : Number :=
  if !x.isFinite then low
  else if x < low then low
  else if high < x then high
  else x

namespace Setting

/-! ### Truth values -/

/-- The words for true. -/
def yesWords : List String := ["1", "true", "yes", "on"]

/-- The words for false. -/
def noWords : List String := ["0", "false", "no", "off"]

/-- **The truth value of a setting**, when it has one: one of the words, in any
case, with any blanks around it. -/
def flag? (setting : Option String) : Option Bool :=
  match setting with
  | none => none
  | some text =>
    let word := String.ofList (Text.lowerCase (Text.trim text.toList))
    if word ∈ yesWords then some true
    else if word ∈ noWords then some false
    else none

/-- The truth value of a setting, or a value to fall back on. -/
def flag (setting : Option String) (fallback : Bool) : Bool := (flag? setting).getD fallback

/-! ### Numbers -/

/-- Whether a number is read with its fraction and exponent or only as far as
its integer part. -/
inductive Grammar where
  /-- A sign and digits. -/
  | whole
  /-- A sign, digits with a point, an exponent. -/
  | decimal
  deriving DecidableEq

/-- The number at the front of a text, under a grammar. -/
def Grammar.read? : Grammar → List Char → Option Number
  | whole => Number.readInteger?
  | decimal => Number.readDecimal?

/-- The finite number at the front of a text without its blanks. -/
def finite? (grammar : Grammar) (text : String) : Option Number :=
  (grammar.read? (Text.trim text.toList)).filter Number.isFinite

/-- **The number of a setting**, brought into a range; `none` when the setting
does not begin with a finite number. -/
def number? (grammar : Grammar) (low high : Number) (setting : Option String) : Option Number :=
  setting.bind fun text => (finite? grammar text).map fun x => x.clamp low high

end Setting

end Proximity
