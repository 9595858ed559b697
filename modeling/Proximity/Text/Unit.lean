/-!
# Texts in units of sixteen bits

Where a text is cut into its smallest parts, these parts are *units* of sixteen
bits. A character beyond the first `2 ^ 16` takes two units, and neither of its
two halves is a character. So that a half can stand in a text all the same, a
private-use character stands for it (`Proximity.Text.half`), and tells which half
it is (`Proximity.Text.halfUnit?_half`). Such a private-use character itself
stands in a text as its two halves.

With that, every sequence of units is a text (`Proximity.Text.ofUnits`), and the
text has just these units (`Proximity.Text.flatMap_units_ofUnits`).

Some places take whole characters only. What arrives there of a half that stands
alone is the replacement character (`Proximity.Text.whole`).
-/

namespace Proximity

namespace Text

/-! ### Halves of characters -/

/-- Whether a unit is the first half of a character. -/
def isHigh (unit : Nat) : Bool := 0xd800 ≤ unit && unit < 0xdc00

/-- Whether a unit is the second half of a character. -/
def isLow (unit : Nat) : Bool := 0xdc00 ≤ unit && unit < 0xe000

/-- The character that stands for half a character, by the unit of the half. -/
def half (unit : Nat) : Char := Char.ofNat (0x100000 + unit)

/-- The unit of the half that a character stands for, if it stands for one. -/
def halfUnit? (c : Char) : Option Nat :=
  if 0x10d800 ≤ c.toNat && c.toNat ≤ 0x10dfff then some (c.toNat - 0x100000) else none

/-- The character of two halves. -/
def ofHalves (high low : Nat) : Char :=
  Char.ofNat (0x10000 + 0x400 * (high - 0xd800) + (low - 0xdc00))

/-! ### Units of characters -/

/-- The units of a character that stands for itself. -/
def unitsAsIs (c : Char) : List Nat :=
  if c.toNat < 0x10000 then [c.toNat]
  else [0xd800 + (c.toNat - 0x10000) / 0x400, 0xdc00 + (c.toNat - 0x10000) % 0x400]

/-- **The units of a character** in a text. -/
def units (c : Char) : List Nat :=
  match halfUnit? c with
  | some unit => [unit]
  | none => unitsAsIs c

/-- The character of a unit on its own. -/
def ofUnit (unit : Nat) : Char :=
  if isHigh unit || isLow unit then half unit else Char.ofNat unit

/-- **The text of some units.** Two halves that belong together make a character,
unless that is one which stands for a half. -/
def ofUnits : List Nat → List Char
  | [] => []
  | [unit] => [ofUnit unit]
  | high :: low :: rest =>
    if isHigh high && isLow low && (halfUnit? (ofHalves high low)).isNone then
      ofHalves high low :: ofUnits rest
    else ofUnit high :: ofUnits (low :: rest)

/-! ### Whole characters -/

/-- Units with a replacement for every half that stands alone. -/
def mend : List Nat → List Nat
  | [] => []
  | [unit] => [if isHigh unit || isLow unit then 0xfffd else unit]
  | high :: low :: rest =>
    if isHigh high && isLow low then high :: low :: mend rest
    else (if isHigh high || isLow high then 0xfffd else high) :: mend (low :: rest)

/-- **A text as it arrives where only whole characters can.** -/
def whole (text : List Char) : List Char := ofUnits (mend (text.flatMap units))

/-! ### The units of a text of units -/

/-- A valid number is the number of its character. -/
theorem toNat_ofNat_of_valid {n : Nat} (h : n.isValidChar) : (Char.ofNat n).toNat = n := by
  rw [Char.ofNat, dif_pos h]
  rfl

/-- The character that stands for a half tells which half that is. -/
theorem halfUnit?_half {unit : Nat} (low : 0xd800 ≤ unit) (high : unit ≤ 0xdfff) :
    halfUnit? (half unit) = some unit := by
  have value : (half unit).toNat = 0x100000 + unit :=
    toNat_ofNat_of_valid (Or.inr ⟨by omega, by omega⟩)
  have inside : (0x10d800 ≤ (half unit).toNat && (half unit).toNat ≤ 0x10dfff) = true := by
    rw [value, Bool.and_eq_true, decide_eq_true_iff, decide_eq_true_iff]
    omega
  rw [halfUnit?, if_pos inside, value, Nat.add_sub_cancel_left]

/-- A character of sixteen bits is a unit. -/
theorem units_of_small {c : Char} (h : c.toNat < 0x10000) : units c = [c.toNat] := by
  have outside : ¬ (0x10d800 ≤ c.toNat && c.toNat ≤ 0x10dfff) = true := by
    rw [Bool.and_eq_true, decide_eq_true_iff, decide_eq_true_iff]
    omega
  rw [units, halfUnit?, if_neg outside, unitsAsIs, if_pos h]

/-- A unit on its own is the unit of its character. -/
theorem units_ofUnit {unit : Nat} (h : unit < 0x10000) : units (ofUnit unit) = [unit] := by
  rw [ofUnit]
  split
  next isHalf =>
    simp only [isHigh, isLow, Bool.or_eq_true, Bool.and_eq_true, decide_eq_true_iff] at isHalf
    rw [units, halfUnit?_half (by omega) (by omega)]
  next isHalf =>
    simp only [isHigh, isLow, Bool.or_eq_true, Bool.and_eq_true, decide_eq_true_iff] at isHalf
    have value : (Char.ofNat unit).toNat = unit := by
      refine toNat_ofNat_of_valid ?_
      rcases Nat.lt_or_ge unit 0xd800 with small | large
      · exact Or.inl small
      · exact Or.inr ⟨by omega, by omega⟩
    rw [units_of_small (by omega), value]

/-- A character of two halves has them as its units, if it stands for itself. -/
theorem units_ofHalves {high low : Nat} (isFirst : isHigh high = true)
    (isSecond : isLow low = true) (itself : (halfUnit? (ofHalves high low)).isNone = true) :
    units (ofHalves high low) = [high, low] := by
  simp only [isHigh, isLow, Bool.and_eq_true, decide_eq_true_iff] at isFirst isSecond
  have value : (ofHalves high low).toNat = 0x10000 + 0x400 * (high - 0xd800) + (low - 0xdc00) :=
    toNat_ofNat_of_valid (Or.inr ⟨by omega, by omega⟩)
  rw [units, Option.isNone_iff_eq_none.mp itself]
  generalize ofHalves high low = c at value
  have large : ¬ c.toNat < 0x10000 := by omega
  have first : 0xd800 + (c.toNat - 0x10000) / 0x400 = high := by omega
  have second : 0xdc00 + (c.toNat - 0x10000) % 0x400 = low := by omega
  change unitsAsIs c = [high, low]
  rw [unitsAsIs, if_neg large, first, second]

/-- **A text of some units has these units.** -/
theorem flatMap_units_ofUnits (us : List Nat) (h : ∀ unit ∈ us, unit < 0x10000) :
    (ofUnits us).flatMap units = us := by
  fun_induction ofUnits us with
  | case1 => rfl
  | case2 unit => simp [units_ofUnit (h unit (by simp))]
  | case3 high low rest pair ih =>
    simp only [Bool.and_eq_true] at pair
    rw [List.flatMap_cons, units_ofHalves pair.1.1 pair.1.2 pair.2,
      ih fun unit member => h unit (by simp [member])]
    rfl
  | case4 high low rest pair ih =>
    rw [List.flatMap_cons, units_ofUnit (h high (by simp)),
      ih fun unit member => h unit (List.mem_cons_of_mem _ member)]
    rfl

/-! ### What is whole stays whole -/

theorem toNat_lt (c : Char) : c.toNat < 0x110000 := by
  rcases c.valid with small | large
  · exact Nat.lt_trans small (by decide)
  · exact large.2

/-- A unit of a character is the number of the character, or it is a half. -/
theorem mem_units {c : Char} {unit : Nat} (h : unit ∈ units c) :
    unit = c.toNat ∧ c.toNat < 0x10000 ∨ 0xd800 ≤ unit ∧ unit < 0xe000 := by
  have := toNat_lt c
  by_cases isHalf : (0x10d800 ≤ c.toNat && c.toNat ≤ 0x10dfff) = true
  · simp only [units, halfUnit?, if_pos isHalf, List.mem_singleton] at h
    simp only [Bool.and_eq_true, decide_eq_true_iff] at isHalf
    omega
  · simp only [units, halfUnit?, if_neg isHalf, unitsAsIs] at h
    split at h
    · exact .inl ⟨List.mem_singleton.mp h, ‹_›⟩
    · simp only [List.mem_cons, List.not_mem_nil, or_false] at h
      omega

/-- Mending keeps the number of units. -/
@[simp] theorem length_mend (us : List Nat) : (mend us).length = us.length := by
  fun_induction mend us <;> simp_all

/-- A unit of a mended text is one that was there, or a replacement. -/
theorem mem_of_mem_mend {us : List Nat} {unit : Nat} (h : unit ∈ mend us) :
    unit ∈ us ∨ unit = 0xfffd := by
  fun_induction mend us with
  | case1 => cases h
  | case2 u =>
    simp only [List.mem_singleton] at h ⊢
    split at h <;> simp [h]
  | case3 high low rest pair ih =>
    simp only [List.mem_cons] at h ⊢
    rcases h with h | h | h
    · simp [h]
    · simp [h]
    · exact (ih h).imp_left fun member => .inr (.inr member)
  | case4 high low rest pair ih =>
    simp only [List.mem_cons] at h ⊢
    rcases h with h | h
    · split at h <;> simp [h]
    · exact (ih h).imp_left fun member => .inr (List.mem_cons.mp member)

/-- A unit that is no half is left alone. -/
theorem mend_cons {unit : Nat} (us : List Nat) (first : isHigh unit = false)
    (second : isLow unit = false) : mend (unit :: us) = unit :: mend us := by
  cases us <;> simp [mend, first, second]

/-- What is mended needs no mending. -/
theorem mend_mend (us : List Nat) : mend (mend us) = mend us := by
  fun_induction mend us with
  | case1 => rfl
  | case2 unit =>
    split
    · rfl
    · rename_i itself
      simp [mend, itself]
  | case3 high low rest pair ih => rw [mend, if_pos pair, ih]
  | case4 high low rest pair ih =>
    split
    · rw [mend_cons _ rfl rfl, ih]
    · rename_i itself
      simp only [Bool.or_eq_true, not_or, Bool.not_eq_true] at itself
      rw [mend_cons _ itself.1 itself.2, ih]

/-- The units of a text as it arrives. -/
theorem flatMap_units_whole (text : List Char) :
    (whole text).flatMap units = mend (text.flatMap units) := by
  refine flatMap_units_ofUnits _ fun unit member => ?_
  rcases mem_of_mem_mend member with given | rfl
  · obtain ⟨c, -, there⟩ := List.mem_flatMap.mp given
    have := mem_units there
    omega
  · decide

/-- **What has arrived arrives as it is.** -/
theorem whole_whole (text : List Char) : whole (whole text) = whole text := by
  rw [whole, flatMap_units_whole, mend_mend, whole]

/-- A NUL that arrives was sent. -/
theorem nul_mem_of_mem_whole {text : List Char} (h : '\x00' ∈ whole text) : '\x00' ∈ text := by
  have zero : 0 ∈ (whole text).flatMap units := List.mem_flatMap.mpr ⟨_, h, by decide⟩
  rw [flatMap_units_whole] at zero
  rcases mem_of_mem_mend zero with given | nonzero
  · obtain ⟨c, there, isZero⟩ := List.mem_flatMap.mp given
    have isNul : c = '\x00' := by
      rcases mem_units isZero with ⟨same, -⟩ | ⟨half, -⟩
      · exact Char.toNat_inj.mp same.symm
      · cases half
    exact isNul ▸ there
  · cases nonzero

end Text

end Proximity
