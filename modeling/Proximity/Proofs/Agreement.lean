import Mathlib.Algebra.Order.Floor.Ring
import Mathlib.Data.Rat.Floor
import Proximity.Proofs.Numeral

/-!
# The two modes of reading a number

A number may be asked for as an integer. Then it is read from the digits at the front of the text,
where else the fraction and the exponent are read with them. One expects that this leaves the
integer part, and mostly it does:

| text | in integer mode | in decimal mode | its integer part |
|---|---|---|---|
| `42.7 ms` | 42 | 42.7 | 42 |
| `5e3` | 5 | 5000 | 5000 |
| `.5` | – | 0.5 | 0 |
| `0.99999999999999999` | 0 | 1 | 1 |

An exponent is the worst of it, since it is never without effect (`Proximity.Numeral.floor_ne`). The
places behind the point do harm only where they round up to the next natural
(`Proximity.Numeral.floor_eq_iff`), which takes many of them (`Proximity.Numeral.concordant_of_lt`).
In a numeral that is so great that there is no room behind the point, they do harm only where they
tip the scales (`Proximity.Number.Rounds.natCast_eq_iff_of_lt`,
`Proximity.Number.Rounds.natCast_eq_iff_of_le`).

The numerals that both modes agree on are `Proximity.Numeral.Concordant`. That these are all
(`Proximity.Setting.agrees_iff_concordant`) is shown first without bounds
(`Proximity.Numeral.whole?_eq_floor_iff`); then the greatest binary64 number and its negative, which
as bounds move no number, tell the two modes apart if they differ at all.
-/

namespace Proximity

open Number

/-! ### The integer part of what is rounded -/

namespace Numeral

variable {n : Numeral} {a b : ℚ}

/-- With an exponent below zero there is less than a tenth of the next natural. -/
theorem floor_lt (some_digits : n.natural ≠ 0) (down : n.exponent < 0)
    (ha : Rounds n.natural a) (hb : Rounds n.size b) : (⌊b⌋ : ℚ) < a := by
  obtain ⟨s, least, most⟩ := exists_two_zpow some_digits
  have small : n.size ≤ 2 ^ ((s : Int) - 2) := by
    calc n.size ≤ (n.natural + 1) * 10 ^ n.exponent := n.natural_le_size.2.le
      _ ≤ 2 ^ ((s : Int) + 1) * 10 ^ (-1 : Int) := by
          gcongr
          · norm_num
          · omega
      _ ≤ 2 ^ ((s : Int) + 1) * 2 ^ (-3 : Int) := by
          gcongr
          norm_num
      _ = 2 ^ ((s : Int) - 2) := by
          rw [← zpow_add₀ two_ne_zero]
          congr 1
          omega
  calc (⌊b⌋ : ℚ) ≤ b := Int.floor_le b
    _ ≤ 2 ^ ((s : Int) - 2) := hb.most _ (.two_zpow (by omega)) small
    _ < 2 ^ (s : Int) := zpow_lt_zpow_right₀ one_lt_two (by omega)
    _ ≤ a := ha.least _ (.two_zpow (by omega)) least

/-- With an exponent above zero there is at least ten times the natural. -/
theorem lt_floor (some_digits : n.natural ≠ 0) (up : 0 < n.exponent)
    (ha : Rounds n.natural a) (hb : Rounds n.size b) : a < ⌊b⌋ := by
  obtain ⟨s, least, most⟩ := exists_two_zpow some_digits
  have great : (2 : ℚ) ^ ((s : Int) + 2) ≤ n.size := by
    calc (2 : ℚ) ^ ((s : Int) + 2) = 2 ^ (s : Int) * 2 ^ (2 : Int) := zpow_add₀ two_ne_zero _ _
      _ ≤ n.natural * 10 ^ (1 : Int) := by
          gcongr
          norm_num
      _ ≤ n.natural * 10 ^ n.exponent := by
          gcongr
          · norm_num
          · omega
      _ ≤ n.size := n.natural_le_size.1
  have doubled : (2 : ℚ) ^ ((s : Int) + 2) = 2 ^ ((s : Int) + 1) * 2 := by
    rw [← zpow_add_one₀ two_ne_zero, add_assoc]
    rfl
  have one : (1 : ℚ) ≤ 2 ^ ((s : Int) + 1) := one_le_zpow₀ one_le_two (by omega)
  calc a ≤ 2 ^ ((s : Int) + 1) := ha.most _ (.two_zpow (by omega)) ((lt_add_one _).le.trans most)
    _ ≤ 2 ^ ((s : Int) + 2) - 1 := by
        rw [doubled]
        linarith
    _ ≤ b - 1 := sub_le_sub_right (hb.least _ (.two_zpow (by omega)) great) 1
    _ < ⌊b⌋ := Int.sub_one_lt_floor b

/-- **An exponent is never without effect**, unless it belongs to zero: the two grammars read
numbers of different orders of magnitude. -/
theorem floor_ne (some_digits : n.natural ≠ 0) (exponent : n.exponent ≠ 0)
    (ha : Rounds n.natural a) (hb : Rounds n.size b) : (⌊b⌋ : ℚ) ≠ a := by
  rcases exponent.lt_or_gt with down | up
  · exact (floor_lt some_digits down ha hb).ne
  · exact (lt_floor some_digits up ha hb).ne'

/-- **The natural before the point is the integer part** unless what stands behind the point makes
up for the next natural. -/
theorem floor_eq_iff (room : n.natural < 2 ^ 52) (plain : n.natural = 0 ∨ n.exponent = 0)
    (hb : Rounds n.size b) :
    (⌊b⌋ : ℚ) = n.natural ↔ n.size < n.natural + 1 - 2 ^ ((n.natural.size : Int) - 54) := by
  have above : (n.natural : ℚ) ≤ n.size := by
    have bound := n.natural_le_size.1
    rcases plain with zero | plain
    · rw [zero] at bound ⊢
      simpa using bound
    · rwa [plain, zpow_zero, mul_one] at bound
  have reached := hb.least _ (.natCast (by omega)) above
  rw [← not_le, ← hb.succ_le_iff room, not_le]
  have floor : (⌊b⌋ : ℚ) = n.natural ↔ ⌊b⌋ = (n.natural : Int) := by
    exact_mod_cast Iff.rfl
  rw [floor, Int.floor_eq_iff]
  exact ⟨fun h => by exact_mod_cast h.2, fun h => ⟨by exact_mod_cast reached, by exact_mod_cast h⟩⟩

/-- From `2 ^ 52` on there is nothing to cut off. -/
theorem floor_eq_self (great : 2 ^ 52 ≤ n.natural) (plain : n.exponent = 0)
    (hb : Rounds n.size b) : (⌊b⌋ : ℚ) = b := by
  have above := n.natural_le_size.1
  rw [plain, zpow_zero, mul_one] at above
  have point : (2 : ℚ) ^ (52 : Int) ≤ n.natural := by exact_mod_cast great
  obtain ⟨m, rfl⟩ := hb.grid.exists_natCast (hb.least _ (.two_zpow (by decide)) (point.trans above))
  simp

section Great

variable (plain : n.exponent = 0) (ha : Rounds n.natural a) (hb : Rounds n.size b)
include plain ha hb

/-- Where there is no room behind the point, the whole numeral is rounded like its natural if what
stands there makes less than a half, or just a half behind an even natural. -/
theorem eq_iff_of_lt (great : 2 ^ 52 ≤ n.natural) (room : n.natural < 2 ^ 53) :
    a = b ↔ n.size < n.natural + 1 / 2 ∨ n.size = n.natural + 1 / 2 ∧ Even n.natural := by
  obtain ⟨least, below⟩ := n.natural_le_size
  rw [plain, zpow_zero, mul_one] at least below
  exact ha.natCast_eq_iff_of_lt hb least below great room

/-- Where there is not even room for all digits before the point, it is rounded alike unless it tips
the scales. -/
theorem eq_iff_of_le (great : 2 ^ 53 ≤ n.natural) :
    a = b ↔ (n.natural % 2 ^ (n.natural.size - 52) = 2 ^ (n.natural.size - 54) →
      n.size = n.natural) := by
  obtain ⟨least, below⟩ := n.natural_le_size
  rw [plain, zpow_zero, mul_one] at least below
  exact ha.natCast_eq_iff_of_le hb least below great

end Great

/-! ### Where both grammars read the same number -/

/-- **The numerals whose integer part is read from the digits before the point alone.** -/
inductive Concordant (n : Numeral) : Prop
  /-- Neither grammar reads a finite number. -/
  | unreadable (short : n.whole = [] ∨ tooGreat ≤ n.natural)
      (long : n.whole = [] ∧ n.fraction = [] ∨ tooGreat ≤ n.size)
  /-- There is no exponent that has an effect, and the places behind the point do not round up to
  the next natural. -/
  | cut (read : n.whole ≠ []) (room : n.natural < 2 ^ 52) (plain : n.natural = 0 ∨ n.exponent = 0)
      (below : n.size < n.natural + 1 - 2 ^ ((n.natural.size : Int) - 54))
  /-- There is no room for places behind the point, and they make less than a half, or just a half
  behind an even natural. -/
  | half (read : n.whole ≠ []) (great : 2 ^ 52 ≤ n.natural) (room : n.natural < 2 ^ 53)
      (plain : n.exponent = 0)
      (below : n.size < n.natural + 1 / 2 ∨ n.size = n.natural + 1 / 2 ∧ Even n.natural)
  /-- There is not even room for all digits before the point. If these make just the middle above an
  even point of the grid, nothing stands behind the point. -/
  | full (read : n.whole ≠ []) (great : 2 ^ 53 ≤ n.natural) (plain : n.exponent = 0)
      (level : n.natural % 2 ^ (n.natural.size - 52) = 2 ^ (n.natural.size - 54) →
        n.size = n.natural)

/-- What has room for places behind the point is not too great. -/
theorem succ_lt_limit {m : Nat} (room : m < 2 ^ 52) : (m + 1 : ℚ) < 2 ^ (1024 : Int) := by
  calc (m + 1 : ℚ) ≤ 2 ^ (52 : Int) := by exact_mod_cast room
    _ < 2 ^ (1024 : Int) := zpow_lt_zpow_right₀ one_lt_two (by decide)

theorem whole?_of_lt (read : n.whole ≠ []) (room : n.natural < 2 ^ 52) :
    n.whole? = some (n.natural : ℚ) := by
  obtain ⟨a, ha, result⟩ := whole?_spec read
  rw [result, ha.eq_natCast (by omega), if_pos]
  exact (lt_add_one _).trans (succ_lt_limit room)

theorem decimal?_map_floor (read : n.whole ≠ []) (great : 2 ^ 52 ≤ n.natural)
    (plain : n.exponent = 0) : (n.decimal?.map fun b => (⌊b⌋ : ℚ)) = n.decimal? := by
  obtain ⟨b, hb, result⟩ := decimal?_spec read
  rw [result]
  split
  · rw [Option.map_some, floor_eq_self great plain hb]
  · rfl

/-- With an exponent that has an effect, nothing is read alike but what is too great. -/
theorem whole?_eq_none (read : n.whole ≠ []) (some_digits : n.natural ≠ 0)
    (exponent : n.exponent ≠ 0) (same : n.whole? = n.decimal?.map fun b => (⌊b⌋ : ℚ)) :
    n.whole? = none := by
  obtain ⟨a, ha, whole⟩ := whole?_spec read
  obtain ⟨b, hb, decimal⟩ := decimal?_spec read
  rw [whole, decimal] at same
  rw [whole]
  split at same
  · split at same
    · exact absurd (Option.some.inj same).symm (floor_ne some_digits exponent ha hb)
    · cases same
  · exact if_neg ‹_›

/-- Where there is room for places behind the point, they must not round up to the next natural. -/
theorem whole?_eq_floor_iff_of_lt (read : n.whole ≠ []) (room : n.natural < 2 ^ 52)
    (plain : n.natural = 0 ∨ n.exponent = 0) : (n.whole? = n.decimal?.map fun b => (⌊b⌋ : ℚ))
      ↔ n.size < n.natural + 1 - 2 ^ ((n.natural.size : Int) - 54) := by
  obtain ⟨b, hb, decimal⟩ := decimal?_spec read
  rw [whole?_of_lt read room, decimal, ← floor_eq_iff room plain hb]
  constructor
  · intro same
    split at same
    · exact (Option.some.inj same).symm
    · cases same
  · intro integer
    have finite : b < (2 : ℚ) ^ (1024 : Int) := by
      calc b < ⌊b⌋ + 1 := Int.lt_floor_add_one b
        _ = n.natural + 1 := by rw [integer]
        _ < 2 ^ (1024 : Int) := succ_lt_limit room
    rw [if_pos finite, Option.map_some, integer]

/-- Where there is none, the natural and the whole numeral must be rounded to the same, unless both
are too great. -/
theorem whole?_eq_floor_iff_of_le (read : n.whole ≠ []) (great : 2 ^ 52 ≤ n.natural)
    (plain : n.exponent = 0) {level : Prop}
    (same : ∀ a b, Rounds n.natural a → Rounds n.size b → (a = b ↔ level)) :
    (n.whole? = n.decimal?.map fun b => (⌊b⌋ : ℚ))
      ↔ level ∨ n.whole? = none ∧ n.decimal? = none := by
  obtain ⟨a, ha, whole⟩ := whole?_spec read
  obtain ⟨b, hb, decimal⟩ := decimal?_spec read
  rw [decimal?_map_floor read great plain, ← same a b ha hb]
  constructor
  · intro equal
    by_cases finite : a < (2 : ℚ) ^ (1024 : Int)
    · rw [whole, decimal, if_pos finite] at equal
      exact .inl (Option.some.inj (Option.ite_none_right_eq_some.mp equal.symm).2).symm
    · have none := whole.trans (if_neg finite)
      exact .inr ⟨none, equal.symm.trans none⟩
  · rintro (equal | ⟨short, long⟩)
    · rw [whole, decimal, equal]
    · rw [short, long]

/-- **The digits before the point make the integer part of the whole numeral** just when it is
concordant. -/
theorem whole?_eq_floor_iff : (n.whole? = n.decimal?.map fun b => (⌊b⌋ : ℚ)) ↔ n.Concordant := by
  have unreadable (short : n.whole? = none) (long : n.decimal? = none) : n.Concordant :=
    .unreadable (n.whole?_eq_none_iff.mp short) (n.decimal?_eq_none_iff.mp long)
  constructor
  · intro same
    have short (none : n.whole? = none) : n.Concordant := by
      rw [none, eq_comm, Option.map_eq_none_iff] at same
      exact unreadable none same
    by_cases read : n.whole = []
    · exact short (n.whole?_eq_none_iff.mpr (.inl read))
    by_cases plain : n.natural = 0 ∨ n.exponent = 0
    · rcases lt_or_ge n.natural (2 ^ 52) with room | great
      · exact .cut read room plain ((whole?_eq_floor_iff_of_lt read room plain).mp same)
      · have exponent : n.exponent = 0 := plain.resolve_left (by omega)
        rcases lt_or_ge n.natural (2 ^ 53) with narrow | wide
        · rcases (whole?_eq_floor_iff_of_le read great exponent fun a b ha hb =>
            eq_iff_of_lt exponent ha hb great narrow).mp same with below | ⟨none, none'⟩
          · exact .half read great narrow exponent below
          · exact unreadable none none'
        · rcases (whole?_eq_floor_iff_of_le read great exponent fun a b ha hb =>
            eq_iff_of_le exponent ha hb wide).mp same with level | ⟨none, none'⟩
          · exact .full read wide exponent level
          · exact unreadable none none'
    · obtain ⟨some_digits, exponent⟩ := not_or.mp plain
      exact short (whole?_eq_none read some_digits exponent same)
  · rintro (⟨short, long⟩ | ⟨read, room, plain, below⟩ | ⟨read, great, room, plain, below⟩
      | ⟨read, great, plain, level⟩)
    · rw [n.whole?_eq_none_iff.mpr short, n.decimal?_eq_none_iff.mpr long, Option.map_none]
    · exact (whole?_eq_floor_iff_of_lt read room plain).mpr below
    · exact (whole?_eq_floor_iff_of_le read great plain fun a b ha hb =>
        eq_iff_of_lt plain ha hb great room).mpr (.inl below)
    · exact (whole?_eq_floor_iff_of_le read (great.trans' (by decide)) plain fun a b ha hb =>
        eq_iff_of_le plain ha hb great).mpr (.inl level)

/-- Without an exponent, the natural before the point is too great if the whole numeral is. -/
theorem tooGreat_le_iff (plain : n.exponent = 0) : tooGreat ≤ n.natural ↔ tooGreat ≤ n.size := by
  obtain ⟨least, most⟩ := n.natural_le_size
  rw [plain, zpow_zero, mul_one] at least most
  refine ⟨fun great => great.trans least, fun great => ?_⟩
  obtain ⟨limit, same⟩ := exists_natCast_tooGreat
  rw [same] at great ⊢
  exact_mod_cast Nat.lt_succ_iff.mp (by exact_mod_cast great.trans_lt most)

/-- **A numeral of few digits without an exponent is concordant.** -/
theorem concordant_of_lt (read : n.whole ≠ []) (plain : n.exponent = 0)
    (few : digitsValue (n.whole ++ n.fraction) < 2 ^ 52) : n.Concordant := by
  rw [digitsValue_append, ← natural] at few
  have places : 0 < 10 ^ n.fraction.length := by positivity
  have room : n.natural < 2 ^ 52 := by
    have := Nat.le_mul_of_pos_right n.natural places
    omega
  refine .cut read room (.inr plain) ?_
  -- What is left to the next natural is at least one unit of the last digit.
  obtain ⟨left, positive, total⟩ : ∃ left, 0 < left
      ∧ digitsValue n.fraction + left = 10 ^ n.fraction.length := by
    have less := digitsValue_lt n.digits
    exact ⟨_, Nat.sub_pos_of_lt less, Nat.add_sub_cancel' less.le⟩
  have distance : 2 ^ n.natural.size * 10 ^ n.fraction.length < left * 2 ^ 54 := by
    have power := Nat.mul_lt_mul_of_pos_right (two_pow_size_lt n.natural) places
    have : 2 * (n.natural + 1) * 10 ^ n.fraction.length
        = 2 * (n.natural * 10 ^ n.fraction.length) + 2 * 10 ^ n.fraction.length := by ring
    omega
  have gap : (2 : ℚ) ^ ((n.natural.size : Int) - 54) < left / (10 ^ n.fraction.length : Nat) := by
    rw [zpow_sub₀ two_ne_zero, two_zpow_natCast, div_lt_div_iff₀ (by positivity) (by positivity)]
    exact_mod_cast distance
  have rest : (digitsValue n.fraction / (10 ^ n.fraction.length : Nat) : ℚ)
      + left / (10 ^ n.fraction.length : Nat) = 1 := by
    rw [← add_div, div_eq_one_iff_eq (by positivity)]
    exact_mod_cast total
  rw [size_eq, plain, zpow_zero, mul_one]
  linarith

end Numeral

/-! ### Integer parts -/

/-- **The integer part of a number, as a number**, rounded towards zero. What is left of a number
below zero is at most the zero below zero. -/
def Number.integerPart (x : Number) : Number :=
  match x.truncate? with
  | none => x
  | some m => if m = 0 ∧ (x = negZero ∨ x < 0) then negZero else finite m

/-- Whether a number is an integer. -/
def Number.IsWhole (x : Number) : Prop := ∃ m : Int, x.toRat? = some (m : ℚ)

namespace Number

variable {negative : Bool} {q : ℚ}

theorem toRat?_withSign (negative : Bool) (q : ℚ) :
    (withSign negative q).toRat? = some (if negative then -q else q) := by
  rw [withSign]
  split
  · split
    · simp_all [toRat?]
    · rfl
  · rfl

/-- Of what is not below zero, the integer part is the greatest integer that is not above it. -/
theorem tdiv_eq_floor (h : 0 ≤ q) : q.num.tdiv q.den = ⌊q⌋ := by
  rw [Int.tdiv_eq_ediv_of_nonneg (Rat.num_nonneg.mpr h)]
  exact (Rat.floor_def q).symm

theorem truncate?_withSign (h : 0 ≤ q) :
    (withSign negative q).truncate? = some (if negative then -⌊q⌋ else ⌊q⌋) := by
  rw [truncate?, toRat?_withSign, Option.map_some]
  cases negative with
  | false => exact congrArg some (tdiv_eq_floor h)
  | true =>
    rw [if_pos rfl, if_pos rfl, Rat.num_neg_eq_neg_num, Rat.den_neg_eq_den, Int.neg_tdiv,
      tdiv_eq_floor h]

/-- **The integer part of a magnitude with a sign.** -/
theorem integerPart_withSign (h : 0 ≤ q) :
    (withSign negative q).integerPart = withSign negative ⌊q⌋ := by
  rw [integerPart, truncate?_withSign h]
  dsimp only
  cases negative with
  | false =>
    rw [if_neg, if_neg (by decide)]
    · rfl
    · rintro ⟨-, zero | below⟩
      · cases zero
      · exact not_lt.mpr h ((lt_iff_toRat rfl rfl).mp below)
  | true =>
    have below : withSign true q = negZero ∨ withSign true q < 0 := by
      rcases h.eq_or_lt with rfl | positive
      · exact .inl rfl
      · refine .inr ((lt_iff_toRat (toRat?_withSign true q) rfl).mpr ?_)
        exact neg_neg_of_pos positive
    rw [if_pos rfl]
    by_cases zero : ⌊q⌋ = 0
    · rw [if_pos ⟨by rw [zero, neg_zero], below⟩, zero]
      rfl
    · rw [if_neg fun part => zero (neg_eq_zero.mp part.1), Int.cast_neg, withSign, if_pos rfl,
        if_neg (by exact_mod_cast zero)]

example : (finite (-1 / 2)).integerPart = negZero := by decide +kernel

/-- What is between two bounds is not moved. -/
theorem clamp_withSign {m : Nat} (within : |q| ≤ m) :
    (withSign negative q).clamp (finite (-m)) (finite m) = withSign negative q := by
  have value := toRat?_withSign negative q
  have bounds : -(m : ℚ) ≤ (if negative then -q else q) ∧ (if negative then -q else q) ≤ m := by
    cases negative with
    | false => exact abs_le.mp within
    | true => exact abs_le.mp ((abs_neg q).trans_le within)
  rw [clamp, isFinite_withSign, if_neg (by decide), if_neg, if_neg]
  · exact fun great => not_lt.mpr bounds.2 ((lt_iff_toRat rfl value).mp great)
  · exact fun small => not_lt.mpr bounds.1 ((lt_iff_toRat value rfl).mp small)

end Number

/-! ### Settings -/

namespace Setting

variable {low high : Number}

theorem number?_whole (text : String) : number? .whole low high (some text)
    = ((Numeral.ofText text).whole?.map (withSign (Numeral.ofText text).negative)).map
      fun x => x.clamp low high := by
  rw [← Numeral.finite?_whole]
  rfl

theorem integerPart_decimal (text : String) :
    ((finite? .decimal text).map fun x => x.integerPart.clamp low high)
      = (((Numeral.ofText text).decimal?.map fun b => (⌊b⌋ : ℚ)).map
        (withSign (Numeral.ofText text).negative)).map fun x => x.clamp low high := by
  rw [Numeral.finite?_decimal]
  cases read : (Numeral.ofText text).decimal? with
  | none => rfl
  | some b =>
    have positive := Numeral.decimal?_nonneg read
    exact congrArg (fun x => some (x.clamp low high)) (integerPart_withSign positive)

/-- Whether integer mode reads of a text the integer part of what decimal mode reads, whatever the
bounds. -/
def Agrees (text : String) : Prop := ∀ low high : Number, low.IsWhole → high.IsWhole → low ≤ high →
  number? .whole low high (some text)
    = (finite? .decimal text).map fun x => x.integerPart.clamp low high

theorem map_clamp {negative : Bool} {o : Option ℚ} {m : Nat} (within : ∀ q ∈ o, |q| ≤ m) :
    ((o.map (withSign negative)).map fun x => x.clamp (finite (-m)) (finite m))
      = o.map (withSign negative) := by
  rw [Option.map_map]
  exact Option.map_congr fun q member => clamp_withSign (within q member)

/-- Whether integer mode reads of a text the integer part of what decimal mode reads, when the bounds
are the greatest binary64 number and its negative. -/
def AgreesFarthest (text : String) : Prop :=
  number? .whole (finite (-extent)) (finite extent) (some text)
    = (finite? .decimal text).map fun x => x.integerPart.clamp (finite (-extent)) (finite extent)

/-- **Those bounds move no number that is read**, so that they tell the two modes apart. -/
theorem concordant_of_agreesFarthest {text : String} (same : AgreesFarthest text) :
    (Numeral.ofText text).Concordant := by
  rw [← Numeral.whole?_eq_floor_iff]
  rw [AgreesFarthest, number?_whole, integerPart_decimal, map_clamp, map_clamp] at same
  · exact Option.map_injective (fun _ _ => withSign_inj.mp) same
  · intro q member
    obtain ⟨b, read, rfl⟩ := Option.map_eq_some_iff.mp member
    have positive := Numeral.decimal?_nonneg read
    have floor : (0 : ℚ) ≤ ⌊b⌋ := by exact_mod_cast Int.floor_nonneg.mpr positive
    rw [abs_of_nonneg floor]
    exact (Int.floor_le b).trans (Numeral.le_extent_of_decimal? read)
  · intro q member
    obtain ⟨positive, bounded⟩ := Numeral.le_extent_of_whole? member
    rwa [abs_of_nonneg positive]

theorem agrees_of_concordant {text : String} (c : (Numeral.ofText text).Concordant) :
    Agrees text := fun low high _ _ _ => by
  rw [number?_whole, integerPart_decimal, Numeral.whole?_eq_floor_iff.mpr c]

theorem Agrees.farthest {text : String} (agrees : Agrees text) : AgreesFarthest text :=
  agrees _ _ ⟨-extent, by push_cast; rfl⟩ ⟨extent, rfl⟩
    ((le_iff_toRat rfl rfl).mpr (neg_le_self (Nat.cast_nonneg _)))

theorem number?_eq_none_iff (grammar : Grammar) (text : String) :
    number? grammar low high (some text) = none ↔ (Numeral.ofText text).Illegible grammar := by
  rw [← Numeral.finite?_eq_none_iff, number?, Option.bind_some, Option.map_eq_none_iff]

theorem number?_whole_eq_none_iff (text : String) : number? .whole low high (some text) = none
    ↔ (Numeral.ofText text).whole = [] ∨ tooGreat ≤ (Numeral.ofText text).natural :=
  number?_eq_none_iff .whole text

theorem number?_decimal_eq_none_iff (text : String) : number? .decimal low high (some text) = none
    ↔ (Numeral.ofText text).whole = [] ∧ (Numeral.ofText text).fraction = []
      ∨ tooGreat ≤ (Numeral.ofText text).size :=
  number?_eq_none_iff .decimal text

/-- **Where integer mode agrees with decimal mode.** It reads the integer part of what decimal mode
reads just of the texts that begin with a concordant numeral. Nothing readable is, for the one, a
text without digits at its front or with too great a natural there; for the other, without digits
on either side of the point or with too great a numeral. So texts with digits before the point and
without an exponent are readable for both or for neither, and concordant unless they have a lot of
digits. To know whether the two modes agree whatever the bounds, it is enough to look at those that are
farthest apart. -/
theorem agrees_iff_concordant (text : String) :
    (Agrees text ↔ (Numeral.ofText text).Concordant)
    ∧ (∀ low high, number? .whole low high (some text) = none
        ↔ (Numeral.ofText text).whole = [] ∨ tooGreat ≤ (Numeral.ofText text).natural)
    ∧ (∀ low high, number? .decimal low high (some text) = none
        ↔ (Numeral.ofText text).whole = [] ∧ (Numeral.ofText text).fraction = []
          ∨ tooGreat ≤ (Numeral.ofText text).size)
    ∧ ((Numeral.ofText text).whole ≠ [] → (Numeral.ofText text).exponent = 0 →
        (∀ low high, number? .whole low high (some text) = none
          ↔ number? .decimal low high (some text) = none)
        ∧ (digitsValue ((Numeral.ofText text).whole ++ (Numeral.ofText text).fraction) < 2 ^ 52 →
          (Numeral.ofText text).Concordant))
    ∧ (Agrees text ↔ AgreesFarthest text) := by
  refine ⟨⟨fun agrees => concordant_of_agreesFarthest agrees.farthest, agrees_of_concordant⟩,
    fun low high => number?_whole_eq_none_iff text,
    fun low high => number?_decimal_eq_none_iff text, fun read plain => ⟨fun low high => ?_, ?_⟩,
    ⟨Agrees.farthest, fun same => agrees_of_concordant (concordant_of_agreesFarthest same)⟩⟩
  · rw [number?_whole_eq_none_iff, number?_decimal_eq_none_iff, Numeral.tooGreat_le_iff plain]
    simp [read]
  · exact Numeral.concordant_of_lt read plain

/-- Places behind the point are cut off alike. -/
theorem agrees_tenths : Agrees "42.7" := by
  obtain ⟨agrees, -, -, plain, -⟩ := agrees_iff_concordant "42.7"
  exact agrees.mpr ((plain (by decide +kernel) (by decide +kernel)).2 (by decide +kernel))

/-- **The two modes do not agree on every text**: integer mode leaves an exponent out, and reads
nothing that starts with the point. -/
theorem not_agrees_exponent :
    number? .whole 1 600000 (some "5e3") = some 5
      ∧ (finite? .decimal "5e3").map (fun x => x.integerPart.clamp 1 600000) = some 5000
      ∧ ¬ Agrees "5e3"
      ∧ number? .whole 1 600000 (some ".5") = none
      ∧ (finite? .decimal ".5").map (fun x => x.integerPart.clamp 1 600000) = some 1
      ∧ ¬ Agrees ".5" := by
  have ordered : (1 : Number) ≤ 600000 := by decide +kernel
  refine ⟨by decide +kernel, by decide +kernel, fun agrees => ?_, by decide +kernel,
    by decide +kernel, fun agrees => ?_⟩
  all_goals
    have same := agrees 1 600000 ⟨1, rfl⟩ ⟨600000, rfl⟩ ordered
    revert same
    decide +kernel

end Setting

end Proximity
