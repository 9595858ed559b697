import Mathlib.Data.List.TakeWhile
import Proximity.Proofs.Nearest
import Proximity.Setting

/-!
# The number that a text begins with

Both grammars read the same parts of a text: a sign, digits, digits behind a point, an exponent
(`Proximity.Numeral.ofText`). One makes a number of the first digits alone, the other of all parts.
What they make of them is the *nearest* number: the bounds past which a number is not written out
change nothing (`Proximity.Number.ofDecimal_eq`).

So what a setting says is said by two rationals, the natural before the point and the size of the
whole numeral, and by what these are rounded to (`Proximity.Numeral.finite?_whole`,
`Proximity.Numeral.finite?_decimal`); and it says nothing just when its numeral is illegible
(`Proximity.Numeral.finite?_eq_none_iff`).
-/

namespace Proximity

namespace Number

/-! ### Magnitudes -/

/-- A magnitude can be told from its number, whatever the sign. -/
theorem withSign_inj {negative : Bool} {p q : ℚ} :
    withSign negative p = withSign negative q ↔ p = q := by
  refine ⟨fun same => ?_, fun same => by rw [same]⟩
  simp only [withSign] at same
  split at same
  · split at same <;> split at same <;> simp_all
  · exact finite.inj same

theorem withSign_zero (negative : Bool) :
    withSign negative 0 = if negative then negZero else finite 0 := by
  rw [withSign, if_pos rfl]

/-- A magnitude with a sign is finite. -/
theorem isFinite_withSign (negative : Bool) (q : ℚ) : (withSign negative q).isFinite = true := by
  rw [withSign]
  split
  · split <;> rfl
  · rfl

/-- The magnitude nearest to `digits * 10 ^ exponent`; `none` when it is too great. -/
def magnitude? (digits : Nat) (exponent : Int) : Option ℚ :=
  if digits = 0 then some 0
  else if 0 ≤ exponent then nearest? (digits * Nat.pow 10 exponent.toNat) 1
  else nearest? digits (Nat.pow 10 (-exponent).toNat)

theorem magnitude?_zero (exponent : Int) : magnitude? 0 exponent = some 0 := by
  rw [magnitude?, if_pos rfl]

theorem ten_zpow_natCast (n : Nat) : (10 : ℚ) ^ (n : Int) = ((10 ^ n : Nat) : ℚ) := by
  rw [zpow_natCast]
  push_cast
  rfl

/-- **A magnitude is what the decimal is rounded to**, if that is not too great. -/
theorem magnitude?_spec (digits : Nat) (exponent : Int) :
    ∃ r, Rounds (digits * (10 : ℚ) ^ exponent) r
      ∧ magnitude? digits exponent = if r < (2 : ℚ) ^ (1024 : Int) then some r else none := by
  have limit (n : Nat) : ((1 <<< n : Nat) : ℚ) = (2 : ℚ) ^ (n : Int) := by
    rw [Nat.one_shiftLeft, two_zpow_natCast]
  have found {num den : Nat} (hn : 0 < num) (hd : 0 < den)
      (same : (digits * (10 : ℚ) ^ exponent) = num / den) :
      ∃ r, Rounds (digits * (10 : ℚ) ^ exponent) r
        ∧ nearest? num den = if r < (2 : ℚ) ^ (1024 : Int) then some r else none :=
    ⟨rounded num den, same ▸ rounds_rounded hn hd, by rw [nearest?_eq, limit]; rfl⟩
  rw [magnitude?]
  split
  · rename_i zero
    subst zero
    refine ⟨0, by simpa using rounds_zero, (if_pos ?_).symm⟩
    positivity
  · rename_i nonzero
    have some_digits : 0 < digits := Nat.pos_of_ne_zero nonzero
    have power (n : Nat) : 0 < Nat.pow 10 n := Nat.pow_pos (by decide)
    split
    · rename_i up
      refine found (Nat.mul_pos some_digits (power _)) one_pos ?_
      obtain ⟨n, rfl⟩ := Int.eq_ofNat_of_zero_le up
      rw [ten_zpow_natCast, Int.toNat_natCast]
      simp
    · rename_i down
      refine found some_digits (power _) ?_
      obtain ⟨n, rfl⟩ : ∃ n : Nat, exponent = -n := ⟨(-exponent).toNat, by omega⟩
      rw [zpow_neg, ten_zpow_natCast, neg_neg, Int.toNat_natCast, div_eq_mul_inv]
      simp

/-- From where on a magnitude is too great: the middle between the greatest point of the grid and
the one that would be next. -/
def tooGreat : ℚ := 2 ^ (1024 : Int) - 2 ^ (970 : Int)

/-- The difference of two powers of two is a natural. -/
theorem exists_natCast_two_zpow_sub {i j : Nat} (h : i ≤ j) :
    ∃ m : Nat, (2 : ℚ) ^ (j : Int) - 2 ^ (i : Int) = m :=
  ⟨2 ^ j - 2 ^ i, by
    rw [Nat.cast_sub (Nat.pow_le_pow_right (by decide) h), two_zpow_natCast, two_zpow_natCast]⟩

/-- A magnitude is too great from a natural on. -/
theorem exists_natCast_tooGreat : ∃ limit : Nat, tooGreat = limit :=
  exists_natCast_two_zpow_sub (by decide : 970 ≤ 1024)

/-- A magnitude that is not too great is what the decimal is rounded to. -/
theorem rounds_of_magnitude? {digits : Nat} {exponent : Int} {q : ℚ}
    (h : magnitude? digits exponent = some q) : Rounds (digits * (10 : ℚ) ^ exponent) q := by
  obtain ⟨r, rounds, result⟩ := magnitude?_spec digits exponent
  rw [result] at h
  obtain rfl := Option.some.inj (Option.ite_none_right_eq_some.mp h).2
  exact rounds

/-- A magnitude that is written out has an exponent that there is room for. -/
theorem lt_of_magnitude? {digits : Nat} {exponent : Int} {q : ℚ}
    (h : magnitude? digits exponent = some q) : q < (2 : ℚ) ^ (1024 : Int) := by
  obtain ⟨r, -, result⟩ := magnitude?_spec digits exponent
  rw [result] at h
  obtain ⟨below, same⟩ := Option.ite_none_right_eq_some.mp h
  obtain rfl := Option.some.inj same
  exact below

/-- **There is no magnitude just when the decimal is too great.** -/
theorem magnitude?_eq_none_iff {digits : Nat} {exponent : Int} :
    magnitude? digits exponent = none ↔ tooGreat ≤ digits * (10 : ℚ) ^ exponent := by
  obtain ⟨r, rounds, result⟩ := magnitude?_spec digits exponent
  rw [result, tooGreat, ← rounds.too_great_iff, ← not_lt]
  split <;> simp_all

/-- A decimal with more digits before the point than there is room for is too great. -/
theorem magnitude?_eq_none {digits : Nat} {exponent : Int} (nonzero : digits ≠ 0)
    (great : 310 < ((digits.log2 / 4 : Nat) : Int) + exponent) :
    magnitude? digits exponent = none := by
  have size : 10 ^ (digits.log2 / 4) ≤ digits := by
    calc 10 ^ (digits.log2 / 4) ≤ (2 ^ 4) ^ (digits.log2 / 4) := Nat.pow_le_pow_left (by decide) _
      _ = 2 ^ (4 * (digits.log2 / 4)) := (Nat.pow_mul 2 4 _).symm
      _ ≤ 2 ^ digits.log2 := Nat.pow_le_pow_right (by decide) (Nat.mul_div_le _ 4)
      _ ≤ digits := Nat.log2_self_le nonzero
  have reached : (2 : ℚ) ^ (1024 : Int) ≤ digits * (10 : ℚ) ^ exponent := by
    calc (2 : ℚ) ^ (1024 : Int) ≤ 10 ^ (311 : Int) := by
          exact_mod_cast (by decide +kernel : 2 ^ 1024 ≤ 10 ^ 311)
      _ ≤ 10 ^ (((digits.log2 / 4 : Nat) : Int) + exponent) := by
          gcongr
          · norm_num
          · omega
      _ = ((10 ^ (digits.log2 / 4) : Nat) : ℚ) * 10 ^ exponent := by
          rw [zpow_add₀ (by norm_num), ten_zpow_natCast]
      _ ≤ digits * 10 ^ exponent := by gcongr
  refine magnitude?_eq_none_iff.mpr (reached.trans' ?_)
  exact sub_le_self _ (by positivity)

/-- A decimal that starts far behind the point is nearest to zero. -/
theorem magnitude?_eq_zero {digits : Nat} {exponent : Int}
    (small : ((digits.log2 / 3 + 1 : Nat) : Int) + exponent < -330) :
    magnitude? digits exponent = some 0 := by
  obtain ⟨r, rounds, result⟩ := magnitude?_spec digits exponent
  have size : digits ≤ 10 ^ (digits.log2 / 3 + 1) := by
    calc digits ≤ 2 ^ (digits.log2 + 1) := Nat.lt_log2_self.le
      _ ≤ 2 ^ (3 * (digits.log2 / 3 + 1)) := Nat.pow_le_pow_right (by decide) (by omega)
      _ = (2 ^ 3) ^ (digits.log2 / 3 + 1) := Nat.pow_mul 2 3 _
      _ ≤ 10 ^ (digits.log2 / 3 + 1) := Nat.pow_le_pow_left (by decide) _
  have short : digits * (10 : ℚ) ^ exponent < 2 ^ (-1075 : Int) := by
    calc digits * (10 : ℚ) ^ exponent
        ≤ ((10 ^ (digits.log2 / 3 + 1) : Nat) : ℚ) * 10 ^ exponent := by gcongr
      _ = 10 ^ (((digits.log2 / 3 + 1 : Nat) : Int) + exponent) := by
          rw [zpow_add₀ (by norm_num), ten_zpow_natCast]
      _ ≤ 10 ^ (-331 : Int) := by
          gcongr
          · norm_num
          · omega
      _ < 2 ^ (-1075 : Int) := by
          rw [zpow_neg, zpow_neg]
          refine inv_strictAnti₀ (by positivity) ?_
          exact_mod_cast (by decide +kernel : 2 ^ 1075 < 10 ^ 331)
  rw [result, rounds.small short, if_pos (by positivity)]

theorem ofDecimal_zero (negative : Bool) (exponent : Int) :
    ofDecimal negative 0 exponent = withSign negative 0 := by
  rw [withSign_zero]
  exact if_pos rfl

/-- **What is made of a decimal is the nearest number**, whether or not it is written out. -/
theorem ofDecimal_eq (negative : Bool) (digits : Nat) (exponent : Int) :
    ofDecimal negative digits exponent
      = ((magnitude? digits exponent).map (withSign negative)).getD (infinite negative) := by
  by_cases zero : digits = 0
  · subst zero
    rw [ofDecimal_zero, magnitude?_zero, Option.map_some, Option.getD_some]
  rw [ofDecimal, if_neg zero]
  dsimp only
  by_cases great : 310 < ((digits.log2 / 4 : Nat) : Int) + exponent
  · rw [if_pos great, magnitude?_eq_none zero great, Option.map_none, Option.getD_none]
  by_cases small : ((digits.log2 / 3 + 1 : Nat) : Int) + exponent < -330
  · rw [if_neg great, if_pos small, magnitude?_eq_zero small, Option.map_some, Option.getD_some,
      withSign_zero]
  rw [if_neg great, if_neg small, magnitude?, if_neg zero]
  split
  · exact ofMagnitude_eq ..
  · exact ofMagnitude_eq ..

/-- What is not written out is not finite, and is not let through. -/
theorem filter_ofDecimal (negative : Bool) (digits : Nat) (exponent : Int) :
    (some (ofDecimal negative digits exponent)).filter isFinite
      = (magnitude? digits exponent).map (withSign negative) := by
  rw [ofDecimal_eq, Option.filter_some]
  cases magnitude? digits exponent with
  | none => rfl
  | some q => exact if_pos (isFinite_withSign negative q)

/-! ### Digits -/

/-- One more digit counts for itself, and the others for ten times as much. -/
theorem digitsValue_concat (digits : List Char) (c : Char) :
    digitsValue (digits ++ [c]) = 10 * digitsValue digits + (c.toNat - '0'.toNat) := by
  rw [digitsValue, List.foldl_concat]
  rfl

/-- Digits that are followed by others count for more. -/
theorem digitsValue_append (s t : List Char) :
    digitsValue (s ++ t) = digitsValue s * 10 ^ t.length + digitsValue t := by
  induction t using List.reverseRecOn with
  | nil => simp [digitsValue]
  | append_singleton t c ih =>
    rw [← List.append_assoc, digitsValue_concat, digitsValue_concat, ih, List.length_append,
      List.length_singleton, pow_succ]
    ring

/-- What some digits make is less than the power of ten with as many zeros. -/
theorem digitsValue_lt {digits : List Char} (h : ∀ c ∈ digits, c.isDigit = true) :
    digitsValue digits < 10 ^ digits.length := by
  induction digits using List.reverseRecOn with
  | nil => decide
  | append_singleton s c ih =>
    have start := ih fun d member => h d (List.mem_append_left _ member)
    have digit := h c (List.mem_append_right _ (List.mem_singleton_self c))
    have value : c.toNat ≤ '9'.toNat := by
      rw [Char.isDigit, Bool.and_eq_true, decide_eq_true_eq, decide_eq_true_eq] at digit
      exact UInt32.le_iff_toNat_le.mp digit.2
    have nine : '9'.toNat - '0'.toNat = 9 := rfl
    rw [digitsValue_concat, List.length_append, List.length_singleton, pow_succ]
    omega

end Number

open Number

/-! ### The parts of a numeral -/

/-- **What stands at the front of a text**, for both grammars. -/
structure Numeral where
  /-- Whether there is a minus. -/
  negative : Bool
  /-- The digits before the point. -/
  whole : List Char
  /-- The digits behind the point. -/
  fraction : List Char
  /-- The exponent, zero when there is none. -/
  exponent : Int
  /-- What stands behind the point are digits. -/
  digits : ∀ c ∈ fraction, c.isDigit = true

theorem isDigit_of_mem_splitFraction {text : List Char} {c : Char}
    (h : c ∈ (splitFraction text).1) : c.isDigit = true := by
  unfold splitFraction at h
  split at h
  · exact List.mem_takeWhile_imp h
  · cases h

namespace Numeral

/-- The numeral at the front of a text without its blanks. -/
def ofText (text : String) : Numeral :=
  let sign := splitSign (Text.trim text.toList)
  let fraction := splitFraction (sign.2.dropWhile Char.isDigit)
  ⟨sign.1, sign.2.takeWhile Char.isDigit, fraction.1, readExponent fraction.2,
    fun _ => isDigit_of_mem_splitFraction⟩

variable (n : Numeral)

/-- The natural before the point. -/
def natural : Nat := digitsValue n.whole

/-- The size of the whole numeral. -/
def size : ℚ := digitsValue (n.whole ++ n.fraction) * 10 ^ (n.exponent - n.fraction.length)

/-- The magnitude that is made of the digits before the point. -/
def whole? : Option ℚ := if n.whole = [] then none else magnitude? n.natural 0

/-- The magnitude that is made of all parts. -/
def decimal? : Option ℚ :=
  if n.whole = [] ∧ n.fraction = [] then none
  else magnitude? (digitsValue (n.whole ++ n.fraction)) (n.exponent - n.fraction.length)

/-- **In integer mode** the digits before the point are read. -/
theorem finite?_whole (text : String) : Setting.finite? .whole text
    = (ofText text).whole?.map (withSign (ofText text).negative) := by
  let n := ofText text
  have read : Setting.finite? .whole text
      = (if n.whole.isEmpty then none else some (ofDecimal n.negative n.natural 0)).filter isFinite :=
    rfl
  rw [read, whole?]
  by_cases nothing : n.whole = []
  · rw [if_pos nothing, if_pos (List.isEmpty_iff.mpr nothing), Option.filter_none, Option.map_none]
  · rw [if_neg nothing, if_neg (mt List.isEmpty_iff.mp nothing)]
    exact filter_ofDecimal ..

/-- **In decimal mode** all parts are read. -/
theorem finite?_decimal (text : String) : Setting.finite? .decimal text
    = (ofText text).decimal?.map (withSign (ofText text).negative) := by
  let n := ofText text
  let rest := (splitSign (Text.trim text.toList)).2
  have read : Setting.finite? .decimal text
      = (if "Infinity".toList.isPrefixOf rest then some (infinite n.negative)
        else if n.whole.isEmpty && n.fraction.isEmpty then none
        else some (ofDecimal n.negative (digitsValue (n.whole ++ n.fraction))
          (n.exponent - n.fraction.length))).filter isFinite :=
    rfl
  rw [read, decimal?]
  by_cases infinity : "Infinity".toList.isPrefixOf rest = true
  · -- An infinite number is not let through, and the word is no digits.
    obtain ⟨tail, word⟩ := List.isPrefixOf_iff_prefix.mp infinity
    have nothing : n.whole = [] ∧ n.fraction = [] := by
      change rest.takeWhile Char.isDigit = [] ∧ (splitFraction (rest.dropWhile Char.isDigit)).1 = []
      rw [← word]
      exact ⟨rfl, rfl⟩
    rw [if_pos infinity, if_pos nothing]
    rfl
  by_cases nothing : n.whole = [] ∧ n.fraction = []
  · rw [if_neg infinity, if_pos nothing, if_pos (by simpa using nothing), Option.filter_none,
      Option.map_none]
  · rw [if_neg infinity, if_neg nothing, if_neg (by simpa using nothing)]
    exact filter_ofDecimal ..

/-- The size in terms of what stands before the point and behind it. -/
theorem size_eq : n.size
    = (n.natural + digitsValue n.fraction / (10 ^ n.fraction.length : Nat)) * 10 ^ n.exponent := by
  have nonzero : ((10 ^ n.fraction.length : Nat) : ℚ) ≠ 0 := by positivity
  rw [size, digitsValue_append, zpow_sub₀ (by norm_num), ten_zpow_natCast, natural]
  push_cast at *
  field_simp

/-- **The size is that of the natural before the point, or a little more.** -/
theorem natural_le_size : n.natural * (10 : ℚ) ^ n.exponent ≤ n.size
    ∧ n.size < (n.natural + 1) * (10 : ℚ) ^ n.exponent := by
  rw [size_eq]
  constructor
  · gcongr
    exact le_add_of_nonneg_right (by positivity)
  · gcongr
    rw [div_lt_one (by positivity)]
    exact_mod_cast digitsValue_lt n.digits

/-! ### What is made of them -/

/-- What the digits before the point make may be nothing, or too great. -/
theorem whole?_eq_none_iff : n.whole? = none ↔ n.whole = [] ∨ tooGreat ≤ n.natural := by
  rw [whole?, ite_eq_left_iff, magnitude?_eq_none_iff, zpow_zero, mul_one, or_iff_not_imp_left]

/-- So may what all parts make. -/
theorem decimal?_eq_none_iff :
    n.decimal? = none ↔ n.whole = [] ∧ n.fraction = [] ∨ tooGreat ≤ n.size := by
  rw [decimal?, ite_eq_left_iff, magnitude?_eq_none_iff, size, or_iff_not_imp_left]

/-- **Nothing finite can be read**: the digits that a grammar asks for are not there, or they make
too great a number. -/
def Illegible : Setting.Grammar → Prop
  | .whole => n.whole = [] ∨ tooGreat ≤ n.natural
  | .decimal => n.whole = [] ∧ n.fraction = [] ∨ tooGreat ≤ n.size

/-- **No finite number is read just of the texts that begin with an illegible numeral.** -/
theorem finite?_eq_none_iff (grammar : Setting.Grammar) (text : String) :
    Setting.finite? grammar text = none ↔ (ofText text).Illegible grammar := by
  cases grammar with
  | whole => rw [finite?_whole, Option.map_eq_none_iff, whole?_eq_none_iff, Illegible]
  | decimal => rw [finite?_decimal, Option.map_eq_none_iff, decimal?_eq_none_iff, Illegible]

/-- Where there are digits before the point, their natural is rounded. -/
theorem whole?_spec {n : Numeral} (h : n.whole ≠ []) : ∃ r, Rounds n.natural r
    ∧ n.whole? = if r < (2 : ℚ) ^ (1024 : Int) then some r else none := by
  rw [whole?, if_neg h]
  simpa using magnitude?_spec n.natural 0

/-- There the whole numeral is rounded, too. -/
theorem decimal?_spec {n : Numeral} (h : n.whole ≠ []) : ∃ r, Rounds n.size r
    ∧ n.decimal? = if r < (2 : ℚ) ^ (1024 : Int) then some r else none := by
  rw [decimal?, if_neg fun nothing => h nothing.1]
  exact magnitude?_spec _ _

theorem rounds_of_whole? {n : Numeral} {a : ℚ} (h : n.whole? = some a) : Rounds n.natural a := by
  rw [whole?] at h
  split at h
  · cases h
  simpa using rounds_of_magnitude? h

theorem rounds_of_decimal? {n : Numeral} {b : ℚ} (h : n.decimal? = some b) : Rounds n.size b := by
  rw [decimal?] at h
  split at h
  · cases h
  exact rounds_of_magnitude? h

/-- Magnitudes are not below zero. -/
theorem decimal?_nonneg {n : Numeral} {b : ℚ} (h : n.decimal? = some b) : 0 ≤ b :=
  (rounds_of_decimal? h).grid.nonneg

/-- No number that is read is beyond the greatest binary64 number. -/
theorem le_extent_of_decimal? {n : Numeral} {b : ℚ} (h : n.decimal? = some b) : b ≤ extent := by
  have grid := (rounds_of_decimal? h).grid
  rw [decimal?] at h
  split at h
  · cases h
  exact grid.le_extent (lt_of_magnitude? h)

/-- Magnitudes are no greater than the greatest binary64 number. -/
theorem le_extent_of_whole? {n : Numeral} {a : ℚ} (h : n.whole? = some a) : 0 ≤ a ∧ a ≤ extent := by
  have grid := (rounds_of_whole? h).grid
  rw [whole?] at h
  split at h
  · cases h
  exact ⟨grid.nonneg, grid.le_extent (lt_of_magnitude? h)⟩

end Numeral

end Proximity
