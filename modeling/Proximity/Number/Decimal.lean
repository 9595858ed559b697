import Proximity.Number

/-!
# Numbers written in decimal

Reading a number from the front of a text: as much of the text as still looks
like a decimal number counts, and whatever follows is ignored. There are two
grammars, and they are not the same one with the fraction left out.

| grammar | what it takes | reads `"12.5e1 ms"` as |
|---|---|---|
| `Proximity.Number.readInteger?` | a sign and digits | 12 |
| `Proximity.Number.readDecimal?` | a sign, digits with a point, an exponent, or the word `Infinity` | 125 |

Both answer `none` when the text does not begin with a number at all.
-/

namespace Proximity

namespace Number

/-! ### From digits to a number -/

/-- The number nearest to `± digits * 10 ^ exponent`. A magnitude of more than
310 digits before the point is beyond every finite number, and one that starts
more than 330 places behind it is nearer to zero than to anything else, so
neither is ever written out. -/
def ofDecimal (negative : Bool) (digits : Nat) (exponent : Int) : Number :=
  if digits = 0 then (if negative then negZero else finite 0)
  else
    let size : Int := (digits.log2 / 4 : Nat) + exponent
    let places : Int := (digits.log2 / 3 + 1 : Nat) + exponent
    if 310 < size then infinite negative
    else if places < -330 then (if negative then negZero else finite 0)
    else if 0 ≤ exponent then ofMagnitude negative (digits * Nat.pow 10 exponent.toNat) 1
    else ofMagnitude negative digits (Nat.pow 10 (-exponent).toNat)

/-- The value of a run of decimal digits. -/
def digitsValue (digits : List Char) : Nat :=
  digits.foldl (fun n c => 10 * n + (c.toNat - '0'.toNat)) 0

/-! ### The two grammars -/

/-- An optional sign: whether it is a minus, and what follows it. -/
def splitSign : List Char → Bool × List Char
  | '-' :: rest => (true, rest)
  | '+' :: rest => (false, rest)
  | rest => (false, rest)

/-- **The integer at the front of a text**: a sign and at least one digit. -/
def readInteger? (text : List Char) : Option Number :=
  let (negative, rest) := splitSign text
  let digits := rest.takeWhile Char.isDigit
  if digits.isEmpty then none else some (ofDecimal negative (digitsValue digits) 0)

/-- The exponent at the front of a text, zero when there is none. A marker
without digits behind it is no exponent. -/
def readExponent : List Char → Int
  | 'e' :: rest | 'E' :: rest =>
    let (negative, rest) := splitSign rest
    let n : Int := digitsValue (rest.takeWhile Char.isDigit)
    if negative then -n else n
  | _ => 0

/-- The digits behind a decimal point, and what follows them. -/
def splitFraction : List Char → List Char × List Char
  | '.' :: rest => (rest.takeWhile Char.isDigit, rest.dropWhile Char.isDigit)
  | rest => ([], rest)

/-- **The decimal number at the front of a text**: a sign, digits with an
optional point among or around them, and an optional exponent; or a sign and the
word `Infinity`. -/
def readDecimal? (text : List Char) : Option Number :=
  let (negative, rest) := splitSign text
  if "Infinity".toList.isPrefixOf rest then some (infinite negative)
  else
    let whole := rest.takeWhile Char.isDigit
    let (fraction, rest) := splitFraction (rest.dropWhile Char.isDigit)
    if whole.isEmpty && fraction.isEmpty then none
    else
      some (ofDecimal negative (digitsValue (whole ++ fraction))
        (readExponent rest - fraction.length))

end Number

end Proximity
