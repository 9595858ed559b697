import Proximity.Number

/-!
# The shortest text of a number

A number is written with the fewest decimal digits that still read back as it.
Every binary64 number owns an interval of rationals that round to it; its digits
are the shortest decimal in that interval, and of several as short the one
nearest to the number itself.

The digits (`Proximity.Number.shortest`) and their layout
(`Proximity.Number.layout`) are separate: the first is arithmetic, the second the
choice of when an exponent is written.
-/

namespace Proximity

namespace Number

/-- The rationals that round to one positive number: its rounding interval. -/
structure Interval where
  /-- The lower end. -/
  low : Rat
  /-- The upper end. -/
  high : Rat
  /-- Whether the two ends belong to it. -/
  closed : Bool

/-- Whether a rational rounds to the number that an interval belongs to. -/
def Interval.contains (i : Interval) (q : Rat) : Bool :=
  if i.closed then i.low ≤ q && q ≤ i.high else i.low < q && q < i.high

/-- **The rounding interval of a positive number.** It reaches half a place up
and half a place down, but only a quarter of a place down from a power of two,
below which the places are half as wide. The ends, being ties, belong to the
number whose last binary place is even. -/
def interval (q : Rat) : Interval :=
  let num := q.num.natAbs
  let e := lastPlace num q.den
  let m := if 0 ≤ e then num / (q.den <<< e.toNat) else (num <<< (-e).toNat) / q.den
  let low :=
    if m = 1 <<< 52 && -1074 < e then scaled (4 * m - 1) (e - 2) else scaled (2 * m - 1) (e - 1)
  { low, high := scaled (2 * m + 1) (e - 1), closed := m % 2 = 0 }

/-- `10 ^ e` -/
def tenToThe (e : Int) : Rat :=
  if 0 ≤ e then (Nat.pow 10 e.toNat : Rat) else mkRat 1 (Nat.pow 10 (-e).toNat)

/-- The exponent of the greatest power of ten that is at most a positive
rational. -/
def decimalExponent (q : Rat) : Int :=
  let guess : Int :=
    ((Nat.toDigits 10 q.num.natAbs).length : Int) - (Nat.toDigits 10 q.den).length
  if tenToThe guess ≤ q then guess else guess - 1

/-- Digits and the place of the point: `0.d₁d₂d₃… * 10 ^ point`. -/
structure Decimal where
  /-- The digits as one natural number, its last digit not zero. -/
  digits : Nat
  /-- How many digits stand before the point. -/
  point : Int

/-- A decimal on the grid of multiples of `10 ^ e`, without its trailing zeros.
The bound is the number of zeros there may be. -/
def Decimal.onGrid (e : Int) : Nat → Nat → Decimal
  | 0, n => ⟨n, (Nat.toDigits 10 n).length + e⟩
  | bound + 1, n =>
    if n % 10 = 0 && n != 0 then onGrid (e + 1) bound (n / 10)
    else ⟨n, (Nat.toDigits 10 n).length + e⟩

/-- The multiple of `10 ^ e` that is nearest to `q` among its two neighbours on
that grid and still rounds to `q`. A tie goes to the even multiple. -/
def candidate? (i : Interval) (q : Rat) (e : Int) : Option Nat :=
  let step := tenToThe e
  let n := (q / step).floor.toNat
  let lower := step * n
  let upper := step * (n + 1 : Nat)
  match i.contains lower && n != 0, i.contains upper with
  | true, true =>
    if q - lower < upper - q || (q - lower == upper - q && n % 2 == 0) then some n else some (n + 1)
  | true, false => some n
  | false, true => some (n + 1)
  | false, false => none

/-- The first grid with a candidate, of `count` grids, each ten times as fine as
the one before. -/
def firstCandidate (i : Interval) (q : Rat) : Nat → Int → Decimal
  | 0, e => Decimal.onGrid e 18 (q / tenToThe e).floor.toNat
  | count + 1, e =>
    match candidate? i q e with
    | some n => Decimal.onGrid e 18 n
    | none => firstCandidate i q count (e - 1)

/-- **The fewest digits that read back as a positive number.** Seventeen always
do. -/
def shortest (q : Rat) : Decimal :=
  firstCandidate (interval q) q 17 (decimalExponent q)

/-! ### Layout -/

/-- A number with more digits than this before the point is written with an
exponent. -/
def positionalDigits : Int := 21

/-- A number with this many zeros between the point and its first digit is
written with an exponent. -/
def positionalZeros : Int := 6

/-- Digits with their point: positional between the two limits, and with a
signed exponent outside them. -/
def layout (d : Decimal) : String :=
  let digits := Nat.toDigits 10 d.digits
  let count : Int := digits.length
  let point := d.point
  if count ≤ point && point ≤ positionalDigits then
    String.ofList (digits ++ List.replicate (point - count).toNat '0')
  else if 0 < point && point ≤ positionalDigits then
    String.ofList (digits.take point.toNat ++ '.' :: digits.drop point.toNat)
  else if -positionalZeros < point && point ≤ 0 then
    String.ofList ('0' :: '.' :: List.replicate (-point).toNat '0' ++ digits)
  else
    let e := point - 1
    let mantissa :=
      match digits with
      | [] => []
      | [d] => [d]
      | d :: rest => d :: '.' :: rest
    let sign := if e < 0 then '-' else '+'
    String.ofList (mantissa ++ 'e' :: sign :: Nat.toDigits 10 e.natAbs)

/-- **The text of a number.** Both zeros are written `0`. -/
def text : Number → String
  | nan => "NaN"
  | infinite negative => if negative then "-Infinity" else "Infinity"
  | negZero => "0"
  | finite q =>
    if q = 0 then "0"
    else if q < 0 then "-" ++ layout (shortest (-q))
    else layout (shortest q)

end Number

end Proximity
