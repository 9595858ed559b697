/-!
# Numbers

Settings, readings, delays and clocks all carry binary64 numbers. Here a number
is held as what it *is* – a rational, or one of the four values that are not
rationals – so that comparing two of them is comparing rationals, and the only
place where anything is ever rounded is `Proximity.Number.ofRat`.

| value | written |
|---|---|
| a rational, zero included | `Proximity.Number.finite` |
| the zero below zero | `Proximity.Number.negZero` |
| the two infinities | `Proximity.Number.infinite` |
| no number at all | `Proximity.Number.nan` |

Negative zero is kept apart because a report shows it; every comparison treats
it as zero. `Proximity.Number.nan` is below nothing, above nothing and equal to
nothing, itself included.
-/

namespace Proximity

/-- A binary64 number, held exactly. -/
inductive Number where
  /-- No number at all. -/
  | nan
  /-- One of the two infinities. -/
  | infinite (negative : Bool)
  /-- The zero below zero. -/
  | negZero
  /-- A rational number. -/
  | finite (q : Rat)
  deriving DecidableEq

namespace Number

instance : Inhabited Number := ⟨finite 0⟩

instance (n : Nat) : OfNat Number n := ⟨finite n⟩

/-- A natural number as a number. -/
def ofNat (n : Nat) : Number := finite n

/-- Neither infinite nor no number at all. -/
def isFinite : Number → Bool
  | finite _ | negZero => true
  | nan | infinite _ => false

/-- The rational that a finite number is. Both zeros are zero. -/
def toRat? : Number → Option Rat
  | finite q => some q
  | negZero => some 0
  | nan | infinite _ => none

theorem isFinite_eq_isSome (x : Number) : x.isFinite = x.toRat?.isSome := by
  cases x <;> rfl

/-! ### Comparison -/

/-- Strictly below, on the line that ends in the two infinities. -/
def below : Number → Number → Bool
  | nan, _ | _, nan => false
  | infinite s, infinite t => s && !t
  | infinite s, _ => s
  | _, infinite t => !t
  | finite p, finite q => p < q
  | finite p, negZero => p < 0
  | negZero, finite q => 0 < q
  | negZero, negZero => false

/-- Equal as numbers: the two zeros are equal, and `nan` is equal to nothing. -/
def same : Number → Number → Bool
  | nan, _ | _, nan => false
  | infinite s, infinite t => s == t
  | infinite _, _ | _, infinite _ => false
  | finite p, finite q => p == q
  | finite p, negZero => p == 0
  | negZero, finite q => q == 0
  | negZero, negZero => true

instance : LT Number := ⟨fun x y => below x y = true⟩

instance : LE Number := ⟨fun x y => below x y = true ∨ same x y = true⟩

instance : DecidableLT Number := fun x y => inferInstanceAs (Decidable (below x y = true))

instance : DecidableLE Number := fun x y =>
  inferInstanceAs (Decidable (below x y = true ∨ same x y = true))

theorem lt_iff_below {x y : Number} : x < y ↔ below x y = true := Iff.rfl

/-- **Finite numbers compare as the rationals they are.** -/
theorem lt_iff_toRat {x y : Number} {p q : Rat} (hx : x.toRat? = some p) (hy : y.toRat? = some q) :
    x < y ↔ p < q := by
  cases x <;> cases y <;> simp_all [toRat?, lt_iff_below, below]

/-- **Finite numbers compare as the rationals they are**, equality included. -/
theorem le_iff_toRat {x y : Number} {p q : Rat} (hx : x.toRat? = some p) (hy : y.toRat? = some q) :
    x ≤ y ↔ p ≤ q := by
  have hle : x ≤ y ↔ below x y = true ∨ same x y = true := Iff.rfl
  rw [hle, Rat.le_iff_lt_or_eq]
  cases x <;> cases y <;> simp_all [toRat?, below, same]
  all_goals grind

/-! ### Rounding -/

/-- The quotient of two naturals rounded to the nearest natural. A tie goes to
the even neighbour. -/
def roundQuotient (num den : Nat) : Nat :=
  let n := num / den
  let r := num % den
  if 2 * r < den || (2 * r == den && n % 2 == 0) then n else n + 1

/-- The exponent of the greatest power of two that is at most `num / den`, both
positive. -/
def binaryExponent (num den : Nat) : Int :=
  let guess : Int := (num.log2 : Int) - den.log2
  let reached :=
    if 0 ≤ guess then den <<< guess.toNat ≤ num else den ≤ num <<< (-guess).toNat
  if reached then guess else guess - 1

/-- The exponent of the last binary place that a number of the magnitude of
`num / den` has room for: 53 places, and none below `2 ^ (-1074)`. -/
def lastPlace (num den : Nat) : Int :=
  max (binaryExponent num den - 52) (-1074)

/-- `m * 2 ^ e` -/
def scaled (m : Nat) (e : Int) : Rat :=
  if 0 ≤ e then ((m <<< e.toNat : Nat) : Rat) else mkRat m (1 <<< (-e).toNat)

/-- The magnitude nearest to `num / den`, both positive, among those with 53
binary places; `none` when that magnitude is too great for a finite number. -/
def nearest? (num den : Nat) : Option Rat :=
  let e := lastPlace num den
  let m :=
    if 0 ≤ e then roundQuotient num (den <<< e.toNat)
    else roundQuotient (num <<< (-e).toNat) den
  let q := scaled m e
  if q < (1 <<< 1024 : Nat) then some q else none

/-- The number nearest to a positive rational, or to its opposite. -/
def ofMagnitude (negative : Bool) (num den : Nat) : Number :=
  match nearest? num den with
  | none => infinite negative
  | some q => if negative then (if q = 0 then negZero else finite (-q)) else finite q

/-- **The number nearest to a rational**, a tie going to the even neighbour. -/
def ofRat (q : Rat) : Number :=
  if q = 0 then finite 0 else ofMagnitude (q < 0) q.num.natAbs q.den

/-! ### Arithmetic -/

/-- The sum of two numbers: the exact sum, rounded once. -/
def add : Number → Number → Number
  | nan, _ | _, nan => nan
  | infinite s, infinite t => if s = t then infinite s else nan
  | infinite s, _ => infinite s
  | _, infinite t => infinite t
  | finite p, finite q => ofRat (p + q)
  | finite p, negZero => finite p
  | negZero, finite q => finite q
  | negZero, negZero => negZero

instance : Add Number := ⟨add⟩

/-- The greater of zero and a number; `nan` stays what it is. -/
def atLeastZero : Number → Number
  | nan => nan
  | infinite negative => if negative then 0 else infinite false
  | negZero => 0
  | finite q => if q < 0 then 0 else finite q

/-- The integer part of a finite number, rounded towards zero. -/
def truncate? (x : Number) : Option Int :=
  x.toRat?.map fun q => q.num.tdiv q.den

/-- The greatest integer that is at most a finite number. -/
def floor? (x : Number) : Option Int :=
  x.toRat?.map Rat.floor

end Number

end Proximity
