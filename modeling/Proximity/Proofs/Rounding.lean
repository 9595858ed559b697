import Mathlib.Algebra.Order.Field.Power
import Mathlib.Tactic.FieldSimp
import Mathlib.Tactic.Linarith
import Mathlib.Tactic.Positivity
import Mathlib.Tactic.Ring
import Proximity.Number

/-!
# Times do not go back

The times that a clock shows are sums of delays, and a sum of two numbers is rounded once
(`Proximity.Number.ofRat`). A sum may be rounded downwards, but not below either summand: what a
clock shows is on the binary64 grid (`Proximity.Number.OnGrid`), and rounding does not leave a
point of the grid behind (`Proximity.Number.nearest?_spec`). So a time to which a delay is added does
not become an earlier one (`Proximity.Number.IsTime.add`).
-/

namespace Proximity

namespace Number

/-! ### Order -/

section Order

variable {x y z : Number}

theorem le_iff : x ≤ y ↔ below x y = true ∨ same x y = true := Iff.rfl

theorem le_trans (h : x ≤ y) (h' : y ≤ z) : x ≤ z := by
  rw [le_iff] at *
  cases x <;> cases y <;> cases z <;> simp_all [below, same] <;> grind

theorem lt_iff_le_not_le : x < y ↔ x ≤ y ∧ ¬ y ≤ x := by
  rw [le_iff, le_iff, lt_iff_below]
  cases x <;> cases y <;> simp_all [below, same] <;> grind

/-- Of two numbers, one is at most the other. -/
theorem le_total (hx : x ≠ nan) (hy : y ≠ nan) : x ≤ y ∨ y ≤ x := by
  rw [le_iff, le_iff]
  cases x <;> cases y <;> simp_all [below, same] <;> grind

theorem le_of_lt (h : x < y) : x ≤ y := .inl h

theorem lt_of_not_le (hx : x ≠ nan) (hy : y ≠ nan) (h : ¬ y ≤ x) : x < y :=
  lt_iff_le_not_le.mpr ⟨(le_total hx hy).resolve_right h, h⟩

theorem le_of_not_lt (hx : x ≠ nan) (hy : y ≠ nan) (h : ¬ y < x) : x ≤ y :=
  (le_total hx hy).elim id fun h' => by_contra fun not => h (lt_iff_le_not_le.mpr ⟨h', not⟩)

end Order

/-! ### The quotient of two naturals -/

/-- A quotient is rounded to the next natural below or above. -/
theorem roundQuotient_bounds (num den : Nat) :
    num / den ≤ roundQuotient num den ∧ roundQuotient num den ≤ num / den + 1 := by
  rw [roundQuotient]
  split <;> omega

theorem two_zpow_natCast (n : Nat) : (2 : ℚ) ^ (n : Int) = ((2 ^ n : Nat) : ℚ) := by
  rw [zpow_natCast]
  push_cast
  rfl

/-- What the scaled numbers are. -/
theorem scaled_eq (m : Nat) (e : Int) : scaled m e = m * (2 : ℚ) ^ e := by
  rw [scaled]
  split
  · rename_i positive
    rw [Nat.shiftLeft_eq, Nat.cast_mul, ← two_zpow_natCast, Int.toNat_of_nonneg positive]
  · rename_i negative
    have back : ((-e).toNat : Int) = -e := Int.toNat_of_nonneg (by omega)
    rw [Rat.mkRat_eq_div, Nat.one_shiftLeft, Int.cast_natCast, ← two_zpow_natCast, back, zpow_neg,
      div_inv_eq_mul]

variable {num den : Nat}

theorem shiftLeft_cast (n k : Nat) : ((n <<< k : Nat) : ℚ) = n * 2 ^ (k : Int) := by
  rw [Nat.shiftLeft_eq, Nat.cast_mul, two_zpow_natCast]

/-- A quotient can be compared with a power of two in natural numbers. -/
theorem two_zpow_le_iff (hd : 0 < den) (e : Int) : (2 : ℚ) ^ e ≤ num / den ↔
    if 0 ≤ e then den <<< e.toNat ≤ num else den ≤ num <<< (-e).toNat := by
  have positive : (0 : ℚ) < den := Nat.cast_pos.mpr hd
  rw [le_div_iff₀ positive]
  split
  · rename_i up
    rw [← Nat.cast_le (α := ℚ), shiftLeft_cast, Int.toNat_of_nonneg up, mul_comm]
  · rename_i down
    rw [← Nat.cast_le (α := ℚ), shiftLeft_cast, Int.toNat_of_nonneg (by omega), zpow_neg,
      ← div_eq_mul_inv, le_div_iff₀ (by positivity), mul_comm]

theorem log2_bounds {n : Nat} (h : 0 < n) :
    (2 : ℚ) ^ (n.log2 : Int) ≤ n ∧ (n : ℚ) < 2 ^ ((n.log2 : Int) + 1) := by
  have upper : (n : ℚ) < ((2 ^ (n.log2 + 1) : Nat) : ℚ) := Nat.cast_lt.mpr Nat.lt_log2_self
  rw [two_zpow_natCast, Nat.cast_le]
  refine ⟨Nat.log2_self_le h.ne', ?_⟩
  rwa [← two_zpow_natCast, Nat.cast_succ] at upper

/-- **The binary exponent of a quotient.** -/
theorem binaryExponent_spec (hn : 0 < num) (hd : 0 < den) :
    (2 : ℚ) ^ binaryExponent num den ≤ num / den
      ∧ (num / den : ℚ) < 2 ^ (binaryExponent num den + 1) := by
  obtain ⟨n₀, n₁⟩ := log2_bounds hn
  obtain ⟨d₀, d₁⟩ := log2_bounds hd
  have positive : (0 : ℚ) < den := Nat.cast_pos.mpr hd
  let guess : Int := num.log2 - den.log2
  have lower : (2 : ℚ) ^ (guess - 1) ≤ num / den := by
    rw [le_div_iff₀ positive]
    calc (2 : ℚ) ^ (guess - 1) * den
        ≤ 2 ^ (guess - 1) * 2 ^ ((den.log2 : Int) + 1) := by gcongr
      _ = 2 ^ (num.log2 : Int) := by
          rw [← zpow_add₀ two_ne_zero]
          congr 1
          omega
      _ ≤ num := n₀
  have upper : (num / den : ℚ) < 2 ^ (guess + 1) := by
    rw [div_lt_iff₀ positive]
    calc (num : ℚ) < 2 ^ ((num.log2 : Int) + 1) := n₁
      _ = 2 ^ (guess + 1) * 2 ^ (den.log2 : Int) := by
          rw [← zpow_add₀ two_ne_zero]
          congr 1
          omega
      _ ≤ 2 ^ (guess + 1) * den := by gcongr
  have reached : (2 : ℚ) ^ guess ≤ num / den ↔ _ := two_zpow_le_iff hd guess
  by_cases h : (2 : ℚ) ^ guess ≤ num / den
  · have e : binaryExponent num den = guess := if_pos (reached.mp h)
    rw [e]
    exact ⟨h, upper⟩
  · have e : binaryExponent num den = guess - 1 := if_neg (mt reached.mpr h)
    rw [e, sub_add_cancel]
    exact ⟨lower, not_le.mp h⟩

/-! ### Rounding -/

/-- **A point of the grid**: a natural of 53 binary places, scaled. -/
def OnGrid (q : ℚ) : Prop := ∃ (m : Nat) (e : Int), m ≤ 2 ^ 53 ∧ -1074 ≤ e ∧ q = m * 2 ^ e

/-- What a quotient is rounded to where no number is too great. -/
def rounded (num den : Nat) : ℚ :=
  let e := lastPlace num den
  scaled (if 0 ≤ e then roundQuotient num (den <<< e.toNat)
    else roundQuotient (num <<< (-e).toNat) den) e

theorem nearest?_eq (num den : Nat) : nearest? num den =
    if rounded num den < (1 <<< 1024 : Nat) then some (rounded num den) else none := rfl

/-- A quotient is so many units of its last place, and is rounded to a natural number of them. -/
theorem rounded_units (num : Nat) (hd : 0 < den) : ∃ upper lower : Nat, 0 < lower
    ∧ rounded num den = roundQuotient upper lower * (2 : ℚ) ^ lastPlace num den
    ∧ (num / den : ℚ) = upper / lower * 2 ^ lastPlace num den := by
  have positive : (0 : ℚ) < den := Nat.cast_pos.mpr hd
  rw [rounded, scaled_eq]
  split
  · rename_i up
    refine ⟨num, den <<< (lastPlace num den).toNat, ?_, rfl, ?_⟩
    · rw [Nat.shiftLeft_eq]
      positivity
    · rw [shiftLeft_cast, Int.toNat_of_nonneg up]
      field_simp
  · rename_i down
    refine ⟨num <<< (-lastPlace num den).toNat, den, hd, rfl, ?_⟩
    rw [shiftLeft_cast, Int.toNat_of_nonneg (by omega), zpow_neg]
    field_simp

/-- **A point of the grid is a multiple of the last place of a quotient**, or it is no more than the
power of two below the quotient, which is one. -/
theorem OnGrid.multiple_or_le {p : ℚ} (hn : 0 < num) (hd : 0 < den) (hp : OnGrid p) :
    (∃ g : Nat, p = g * (2 : ℚ) ^ lastPlace num den)
      ∨ p ≤ ((2 ^ 52 : Nat) : ℚ) * 2 ^ lastPlace num den
        ∧ ((2 ^ 52 : Nat) : ℚ) * 2 ^ lastPlace num den ≤ num / den := by
  obtain ⟨n, f, small, above, rfl⟩ := hp
  by_cases fine : lastPlace num den ≤ f
  · refine .inl ⟨n * 2 ^ (f - lastPlace num den).toNat, ?_⟩
    rw [Nat.cast_mul, ← two_zpow_natCast, Int.toNat_of_nonneg (by omega), mul_assoc,
      ← zpow_add₀ two_ne_zero, sub_add_cancel]
  · have place : lastPlace num den = binaryExponent num den - 52 := by
      rw [lastPlace] at fine ⊢
      omega
    have power : ((2 ^ 52 : Nat) : ℚ) * (2 : ℚ) ^ lastPlace num den
        = 2 ^ binaryExponent num den := by
      rw [← two_zpow_natCast, ← zpow_add₀ two_ne_zero, place]
      congr 1
      omega
    refine .inr ⟨?_, power ▸ (binaryExponent_spec hn hd).1⟩
    calc (n * (2 : ℚ) ^ f : ℚ) ≤ ((2 ^ 53 : Nat) : ℚ) * 2 ^ (lastPlace num den - 1) := by
          gcongr
          · norm_num
          · omega
      _ = ((2 ^ 52 : Nat) : ℚ) * 2 ^ lastPlace num den := by
          rw [zpow_sub_one₀ two_ne_zero]
          push_cast
          ring

/-- **Between a point of the grid and a greater quotient there is a multiple of its last place.** -/
theorem exists_multiple {p : ℚ} (hn : 0 < num) (hd : 0 < den) (hp : OnGrid p)
    (h : p ≤ num / den) : ∃ g : Nat, p ≤ g * (2 : ℚ) ^ lastPlace num den
      ∧ (g * (2 : ℚ) ^ lastPlace num den : ℚ) ≤ num / den := by
  obtain ⟨g, rfl⟩ | ⟨reaches, bounded⟩ := hp.multiple_or_le hn hd
  · exact ⟨g, le_rfl, h⟩
  · exact ⟨2 ^ 52, reaches, bounded⟩

/-- **The rounded quotient is on the grid, and above all points of the grid below the
quotient.** -/
theorem rounded_spec (hn : 0 < num) (hd : 0 < den) :
    OnGrid (rounded num den) ∧ ∀ p, OnGrid p → p ≤ num / den → p ≤ rounded num den := by
  obtain ⟨upper, lower, positive, result, units⟩ := rounded_units num hd
  rw [result]
  obtain ⟨least, most⟩ := roundQuotient_bounds upper lower
  have positive' : (0 : ℚ) < lower := Nat.cast_pos.mpr positive
  have unit : (0 : ℚ) < 2 ^ lastPlace num den := by positivity
  constructor
  · refine ⟨_, lastPlace num den, ?_, le_max_right _ _, rfl⟩
    have bound : (upper / lower : ℚ) < ((2 ^ 53 : Nat) : ℚ) := by
      refine lt_of_mul_lt_mul_right (units ▸ (binaryExponent_spec hn hd).2.trans_le ?_) unit.le
      rw [← two_zpow_natCast, ← zpow_add₀ two_ne_zero]
      refine zpow_le_zpow_right₀ one_le_two ?_
      rw [lastPlace]
      omega
    rw [div_lt_iff₀ positive', ← Nat.cast_mul, Nat.cast_lt] at bound
    have := (Nat.div_lt_iff_lt_mul positive).mpr bound
    omega
  · intro p hp below
    obtain ⟨g, reaches, bounded⟩ := exists_multiple hn hd hp below
    refine reaches.trans (mul_le_mul_of_nonneg_right (Nat.cast_le.mpr ?_) unit.le)
    rw [units] at bounded
    have quotient := le_of_mul_le_mul_right bounded unit
    rw [le_div_iff₀ positive', ← Nat.cast_mul, Nat.cast_le] at quotient
    exact ((Nat.le_div_iff_mul_le positive).mpr quotient).trans least

/-- **A number that is not too great** is on the grid, and above all points of the grid below. -/
theorem nearest?_spec {q : ℚ} (hn : 0 < num) (hd : 0 < den) (h : nearest? num den = some q) :
    OnGrid q ∧ ∀ p, OnGrid p → p ≤ num / den → p ≤ q := by
  obtain rfl := Option.some.inj (Option.ite_none_right_eq_some.mp h).2
  exact rounded_spec hn hd

/-- A magnitude with a sign. -/
def withSign (negative : Bool) (q : ℚ) : Number :=
  if negative then (if q = 0 then negZero else finite (-q)) else finite q

theorem ofMagnitude_eq (negative : Bool) (num den : Nat) : ofMagnitude negative num den
    = ((nearest? num den).map (withSign negative)).getD (infinite negative) := by
  unfold ofMagnitude
  cases nearest? num den with
  | none => rw [Option.map_none, Option.getD_none]
  | some q => rw [Option.map_some, Option.getD_some, withSign]

/-! ### Times -/

/-- **What a clock can show**: a point of the grid that is no less than zero, or infinity. -/
inductive IsTime : Number → Prop where
  /-- A point of the grid. -/
  | finite {q : ℚ} : 0 ≤ q → OnGrid q → IsTime (.finite q)
  /-- So much that there is no point for it. -/
  | infinite : IsTime (.infinite false)

theorem OnGrid.zero : OnGrid 0 := ⟨0, 0, Nat.zero_le _, by decide, by simp⟩

theorem finite_add_finite (p q : ℚ) : finite p + finite q = ofRat (p + q) := rfl

theorem ofRat_of_pos {z : ℚ} (h : 0 < z) :
    ofRat z = ((nearest? z.num.natAbs z.den).map finite).getD (infinite false) := by
  have sign : decide (z < 0) = false := decide_eq_false (not_lt.mpr h.le)
  rw [ofRat, if_neg h.ne', sign, ofMagnitude_eq]
  rfl

/-- **No rational is rounded to less than a point of the grid that is below it.** -/
theorem isTime_ofRat {p z : ℚ} (h0 : 0 ≤ p) (hp : OnGrid p) (h : p ≤ z) :
    IsTime (ofRat z) ∧ finite p ≤ ofRat z := by
  rcases (h0.trans h).eq_or_lt with zero | positive
  · subst zero
    obtain rfl : p = 0 := le_antisymm h h0
    exact ⟨.finite le_rfl .zero, (le_iff_toRat rfl rfl).mpr le_rfl⟩
  · have same : ((z.num.natAbs : ℚ) / z.den) = z := by
      rw [← Int.cast_natCast, Int.natAbs_of_nonneg (Rat.num_nonneg.mpr positive.le)]
      exact Rat.num_div_den z
    have num : 0 < z.num.natAbs := Int.natAbs_pos.mpr (Rat.num_ne_zero.mpr positive.ne')
    rw [ofRat_of_pos positive]
    cases nearest : nearest? z.num.natAbs z.den with
    | none => exact ⟨.infinite, .inl rfl⟩
    | some q =>
      obtain ⟨grid, above⟩ := nearest?_spec num z.den_pos nearest
      rw [same] at above
      have least := above p hp h
      exact ⟨.finite (h0.trans least) grid, (le_iff_toRat rfl rfl).mpr least⟩

namespace IsTime

variable {x y : Number}

theorem zero : IsTime 0 := .finite le_rfl .zero

theorem ne_nan (h : IsTime x) : x ≠ nan := by
  cases h <;> nofun

theorem le_self (h : IsTime x) : x ≤ x := by
  cases h with
  | finite => exact (le_iff_toRat rfl rfl).mpr le_rfl
  | infinite => exact .inr rfl

/-- **A time to which a delay is added does not become an earlier one.** -/
theorem add (hx : IsTime x) (finite : y.isFinite = true) (positive : 0 ≤ y) :
    IsTime (x + y) ∧ x ≤ x + y := by
  cases hx with
  | infinite =>
    cases y with
    | nan | infinite => cases finite
    | negZero | finite => exact ⟨.infinite, .inr rfl⟩
  | @finite p h0 grid =>
    cases y with
    | nan | infinite => cases finite
    | negZero => exact ⟨.finite h0 grid, (le_iff_toRat rfl rfl).mpr le_rfl⟩
    | finite q =>
      have least : 0 ≤ q := (le_iff_toRat rfl rfl).mp positive
      rw [finite_add_finite]
      exact isTime_ofRat h0 grid (le_add_of_nonneg_right least)

end IsTime

/-- What is at least zero of a finite number is a delay. -/
theorem atLeastZero_spec {x : Number} (finite : x.isFinite = true) :
    x.atLeastZero.isFinite = true ∧ 0 ≤ x.atLeastZero := by
  cases x with
  | nan | infinite => cases finite
  | negZero => exact ⟨rfl, IsTime.zero.le_self⟩
  | finite q =>
    rw [atLeastZero]
    split
    · exact ⟨rfl, IsTime.zero.le_self⟩
    · rename_i least
      exact ⟨rfl, (le_iff_toRat rfl rfl).mpr (not_lt.mp least)⟩

end Number

end Proximity
