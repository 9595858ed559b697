import Mathlib.Data.Nat.Size
import Mathlib.Tactic.LinearCombination
import Proximity.Proofs.Rounding

/-!
# Where rounding goes up

A quotient lies between two points of the binary64 grid, and is rounded to one of them. What matters
for a number that is read from a text is when it is rounded *up*, to a certain point of the grid:

* not beyond a point that is no less than the quotient (`Proximity.Number.rounded_le`);
* to a point of the grid from the middle between that point and the one before it on, which itself
  counts if the point is even (`Proximity.Number.le_rounded_iff`).

Both are collected in `Proximity.Number.Rounds`, a relation between what is rounded and what it is
rounded to that says nothing of how a quotient is written. It tells when two numbers between the same
two points are rounded to the same one (`Proximity.Number.Rounds.eq_iff`).
-/

namespace Proximity

namespace Number

/-! ### The quotient of two naturals -/

/-- A quotient that is no more than a natural is rounded to no more than it. -/
theorem roundQuotient_le {upper lower g : Nat} (hd : 0 < lower) (h : upper ≤ g * lower) :
    roundQuotient upper lower ≤ g := by
  obtain ⟨-, most⟩ := roundQuotient_bounds upper lower
  have quotient : upper / lower ≤ g := Nat.div_le_of_le_mul (by rwa [mul_comm])
  rcases quotient.eq_or_lt with whole | less
  · -- Then nothing remains, and there is no reason to go up.
    have nothing : upper % lower = 0 := by
      have parts := Nat.div_add_mod upper lower
      rw [whole, mul_comm] at parts
      omega
    have same : roundQuotient upper lower = upper / lower :=
      if_pos (by simp [nothing, hd])
    omega
  · omega

/-- **A quotient is rounded to a natural from the middle below it on.** The middle itself counts if the
natural is even. -/
theorem le_roundQuotient_iff {upper lower g : Nat} (hd : 0 < lower) (hg : 0 < g) :
    g ≤ roundQuotient upper lower
      ↔ if Even g then (2 * g - 1) * lower ≤ 2 * upper else (2 * g - 1) * lower < 2 * upper := by
  have parts := Nat.div_add_mod upper lower
  have rest := Nat.mod_lt upper hd
  obtain ⟨least, most⟩ := roundQuotient_bounds upper lower
  obtain ⟨j, rfl⟩ := Nat.exists_eq_add_of_lt hg
  have middle : (2 * (0 + j + 1) - 1) * lower = 2 * (lower * j) + lower := by
    have : 2 * (0 + j + 1) - 1 = 2 * j + 1 := by omega
    rw [this]
    ring
  rw [middle]
  rcases lt_trichotomy (upper / lower) j with less | same | more
  · have bound : lower * (upper / lower + 1) ≤ lower * j := Nat.mul_le_mul_left _ less
    rw [Nat.mul_succ] at bound
    split <;> omega
  · rw [same] at parts
    have up : roundQuotient upper lower =
        if 2 * (upper % lower) < lower ∨ 2 * (upper % lower) = lower ∧ j % 2 = 0 then j
        else j + 1 := by
      rw [roundQuotient, same]
      simp
    simp only [up, Nat.even_iff]
    split <;> split <;> omega
  · have bound : lower * (j + 1) ≤ lower * (upper / lower) := Nat.mul_le_mul_left _ more
    rw [Nat.mul_succ] at bound
    split <;> omega

/-! ### The points of the grid above -/

variable {num den : Nat}

/-- The last place is known from the two powers of two around a quotient. -/
theorem lastPlace_eq (hn : 0 < num) (hd : 0 < den) {e : Int} (he : -1074 ≤ e)
    (least : (2 : ℚ) ^ (e + 52) ≤ num / den) (most : (num / den : ℚ) < 2 ^ (e + 53)) :
    lastPlace num den = e := by
  obtain ⟨low, high⟩ := binaryExponent_spec hn hd
  have below := (zpow_lt_zpow_iff_right₀ (one_lt_two (α := ℚ))).mp (least.trans_lt high)
  have above := (zpow_lt_zpow_iff_right₀ (one_lt_two (α := ℚ))).mp (low.trans_lt most)
  rw [lastPlace]
  omega

/-- Between a quotient and a point of the grid above it there is a multiple of its last place. -/
theorem exists_multiple_above {p : ℚ} (hn : 0 < num) (hd : 0 < den) (hp : OnGrid p)
    (h : (num / den : ℚ) ≤ p) : ∃ g : Nat, (num / den : ℚ) ≤ g * (2 : ℚ) ^ lastPlace num den
      ∧ (g * (2 : ℚ) ^ lastPlace num den : ℚ) ≤ p := by
  obtain ⟨g, rfl⟩ | ⟨reaches, bounded⟩ := hp.multiple_or_le hn hd
  · exact ⟨g, h, le_rfl⟩
  · exact ⟨2 ^ 52, h.trans reaches, bounded.trans h⟩

/-- **A quotient is rounded to no more than a point of the grid above it.** -/
theorem rounded_le {p : ℚ} (hn : 0 < num) (hd : 0 < den) (hp : OnGrid p)
    (h : (num / den : ℚ) ≤ p) : rounded num den ≤ p := by
  obtain ⟨g, reaches, bounded⟩ := exists_multiple_above hn hd hp h
  obtain ⟨upper, lower, positive, result, units⟩ := rounded_units num hd
  have unit : (0 : ℚ) < 2 ^ lastPlace num den := by positivity
  rw [units] at reaches
  have quotient := le_of_mul_le_mul_right reaches unit
  rw [div_le_iff₀ (Nat.cast_pos.mpr positive), ← Nat.cast_mul, Nat.cast_le] at quotient
  rw [result]
  refine (mul_le_mul_of_nonneg_right (Nat.cast_le.mpr ?_) unit.le).trans bounded
  exact roundQuotient_le positive quotient

/-- **A quotient is rounded to a point of the grid from the middle below it on.** The middle itself
counts if the point is even. -/
theorem le_rounded_iff (hn : 0 < num) (hd : 0 < den) {g : Nat} {e : Int}
    (least : 2 ^ 52 < g) (most : g ≤ 2 ^ 53) (he : -1074 ≤ e) :
    (g : ℚ) * 2 ^ e ≤ rounded num den
      ↔ if Even g then (g : ℚ) * 2 ^ e - 2 ^ (e - 1) ≤ num / den
        else (g : ℚ) * 2 ^ e - 2 ^ (e - 1) < num / den := by
  have unit : (0 : ℚ) < 2 ^ e := by positivity
  have half : (2 : ℚ) ^ e = 2 * 2 ^ (e - 1) := by
    rw [zpow_sub_one₀ two_ne_zero]
    ring
  have here : OnGrid ((g : ℚ) * 2 ^ e) := ⟨g, e, most, he, rfl⟩
  have before : OnGrid ((g - 1 : ℚ) * 2 ^ e) :=
    ⟨g - 1, e, by omega, he, by rw [Nat.cast_sub (by omega), Nat.cast_one]⟩
  rcases le_or_gt ((g : ℚ) * 2 ^ e) (num / den) with reached | short
  · refine iff_of_true ((rounded_spec hn hd).2 _ here reached) ?_
    split <;> linarith
  rcases lt_or_ge (num / den : ℚ) ((g - 1 : ℚ) * 2 ^ e) with far | near
  · have down := rounded_le hn hd before far.le
    refine iff_of_false (fun up => by linarith) ?_
    split <;> linarith
  -- Between the two points the last place is known, and it is a matter of natural numbers.
  have place : lastPlace num den = e := by
    refine lastPlace_eq hn hd he (near.trans' ?_) (short.trans_le ?_)
    · rw [zpow_add₀ two_ne_zero, mul_comm]
      refine mul_le_mul_of_nonneg_right ?_ unit.le
      have bound : (2 : ℚ) ^ (52 : Int) + 1 ≤ g := by exact_mod_cast least
      linarith
    · rw [zpow_add₀ two_ne_zero, mul_comm ((2 : ℚ) ^ e)]
      refine mul_le_mul_of_nonneg_right ?_ unit.le
      exact_mod_cast most
  obtain ⟨upper, lower, positive, result, units⟩ := rounded_units num hd
  have positive' : (0 : ℚ) < lower := Nat.cast_pos.mpr positive
  have middle : (g : ℚ) * 2 ^ e - 2 ^ (e - 1) = (2 * g - 1 : ℚ) / 2 * 2 ^ e := by
    rw [half]
    ring
  have cast : ((2 * g - 1 : Nat) : ℚ) = 2 * g - 1 := by
    rw [Nat.cast_sub (by omega)]
    push_cast
    rfl
  rw [result, units, place, mul_le_mul_iff_left₀ unit, Nat.cast_le,
    le_roundQuotient_iff positive (by omega), middle, mul_le_mul_iff_left₀ unit,
    mul_lt_mul_iff_left₀ unit, div_le_div_iff₀ two_pos positive', div_lt_div_iff₀ two_pos positive',
    mul_comm (upper : ℚ), ← cast]
  split <;> exact_mod_cast Iff.rfl

/-- **What is too small for the grid is rounded to zero.** -/
theorem rounded_eq_zero (hn : 0 < num) (hd : 0 < den) (h : (num / den : ℚ) < 2 ^ (-1075 : Int)) :
    rounded num den = 0 := by
  have place : lastPlace num den = -1074 := by
    have := (zpow_lt_zpow_iff_right₀ (one_lt_two (α := ℚ))).mp
      ((binaryExponent_spec hn hd).1.trans_lt h)
    rw [lastPlace]
    omega
  obtain ⟨upper, lower, positive, result, units⟩ := rounded_units num hd
  have less : 2 * upper < lower := by
    have half : (2 : ℚ) ^ (-1075 : Int) = 1 / 2 * 2 ^ (-1074 : Int) := by
      rw [show (-1075 : Int) = -1074 - 1 from rfl, zpow_sub_one₀ two_ne_zero]
      ring
    rw [units, place, half] at h
    have quotient := lt_of_mul_lt_mul_right h (by positivity)
    rw [div_lt_div_iff₀ (Nat.cast_pos.mpr positive) two_pos] at quotient
    rw [← Nat.cast_lt (α := ℚ)]
    push_cast
    linarith
  have none : roundQuotient upper lower = 0 := by
    have zero : upper / lower = 0 := Nat.div_eq_of_lt (by omega)
    have rest : upper % lower = upper := Nat.mod_eq_of_lt (by omega)
    rw [roundQuotient, zero, rest]
    exact if_pos (by simp [less])
  rw [result, none, Nat.cast_zero, zero_mul]

/-- The power of two above a natural is not far above. -/
theorem two_pow_size_lt (n : Nat) : 2 ^ n.size < 2 * (n + 1) := by
  cases size : n.size with
  | zero => omega
  | succ s =>
    have : 2 ^ s ≤ n := Nat.lt_size.mp (by omega)
    rw [Nat.pow_succ]
    omega

/-- A natural that is not zero is between two powers of two. -/
theorem exists_two_zpow {m : Nat} (h : m ≠ 0) :
    ∃ s : Nat, (2 : ℚ) ^ (s : Int) ≤ m ∧ (m + 1 : ℚ) ≤ 2 ^ ((s : Int) + 1) := by
  refine ⟨m.log2, (log2_bounds (Nat.pos_of_ne_zero h)).1, ?_⟩
  have below : m + 1 ≤ 2 ^ (m.log2 + 1) := Nat.lt_log2_self
  have power := two_zpow_natCast (m.log2 + 1)
  push_cast at power
  rw [power]
  exact_mod_cast below

/-! ### Rounding as a relation -/

/-- **What a rational is rounded to**, as far as points of the grid tell. -/
structure Rounds (x r : ℚ) : Prop where
  /-- It is on the grid. -/
  grid : OnGrid r
  /-- It is above all points of the grid below. -/
  least : ∀ p, OnGrid p → p ≤ x → p ≤ r
  /-- It is below all points of the grid above. -/
  most : ∀ p, OnGrid p → x ≤ p → r ≤ p
  /-- It is a point, or above, from the middle below that point on, which itself counts if the point
  is even. -/
  middle : ∀ (g : Nat) (e : Int), 2 ^ 52 < g → g ≤ 2 ^ 53 → -1074 ≤ e →
    ((g : ℚ) * 2 ^ e ≤ r ↔ if Even g then (g : ℚ) * 2 ^ e - 2 ^ (e - 1) ≤ x
      else (g : ℚ) * 2 ^ e - 2 ^ (e - 1) < x)
  /-- It is zero for what is too small for the grid. -/
  small : x < 2 ^ (-1075 : Int) → r = 0

theorem OnGrid.nonneg {p : ℚ} (h : OnGrid p) : 0 ≤ p := by
  obtain ⟨m, e, -, -, rfl⟩ := h
  positivity

theorem OnGrid.natCast {n : Nat} (h : n ≤ 2 ^ 53) : OnGrid n :=
  ⟨n, 0, h, by decide, by simp⟩

theorem OnGrid.two_zpow {e : Int} (h : -1074 ≤ e) : OnGrid (2 ^ e) :=
  ⟨1, e, by decide, h, by simp⟩

theorem rounds_rounded (hn : 0 < num) (hd : 0 < den) : Rounds (num / den) (rounded num den) where
  grid := (rounded_spec hn hd).1
  least := (rounded_spec hn hd).2
  most _ := rounded_le hn hd
  middle _ _ least most he := le_rounded_iff hn hd least most he
  small := rounded_eq_zero hn hd

theorem rounds_zero : Rounds 0 0 where
  grid := .zero
  least _ _ below := below
  most _ hp _ := hp.nonneg
  middle g e least _ _ := by
    -- Neither is so: the point and the middle below it are above zero.
    have half : (2 : ℚ) ^ e = 2 * 2 ^ (e - 1) := by
      rw [zpow_sub_one₀ two_ne_zero]
      ring
    have unit : (0 : ℚ) < 2 ^ (e - 1) := by positivity
    have one : (1 : ℚ) ≤ g := by exact_mod_cast (by omega : 1 ≤ g)
    have point := mul_le_mul_of_nonneg_right one (by positivity : (0 : ℚ) ≤ 2 ^ e)
    refine iff_of_false (fun up => by linarith) ?_
    split <;> linarith
  small _ := rfl

/-- From `2 ^ 52` on the grid has no places behind the point. -/
theorem OnGrid.exists_natCast {p : ℚ} (h : OnGrid p) (great : (2 : ℚ) ^ (52 : Int) ≤ p) :
    ∃ m : Nat, p = m := by
  obtain ⟨m, e, bound, -, rfl⟩ := h
  rcases le_or_gt 0 e with up | down
  · exact ⟨m * 2 ^ e.toNat, by rw [Nat.cast_mul, ← two_zpow_natCast, Int.toNat_of_nonneg up]⟩
  · -- Then it is no more than `2 ^ 52`.
    have most : (m * (2 : ℚ) ^ e : ℚ) ≤ ((2 ^ 53 : Nat) : ℚ) * 2 ^ (-1 : Int) := by
      gcongr
      · norm_num
      · omega
    refine ⟨2 ^ 52, le_antisymm (most.trans ?_) (le_trans' great ?_)⟩ <;> norm_num

/-- Between a point of the grid and the next one there is no other. -/
theorem OnGrid.le_of_lt_succ {p : ℚ} (h : OnGrid p) {g : Nat} {e : Int} (least : 2 ^ 52 ≤ g)
    (below : p < (g + 1 : ℚ) * 2 ^ e) : p ≤ (g : ℚ) * 2 ^ e := by
  obtain ⟨m, k, bound, -, rfl⟩ := h
  have unit : (0 : ℚ) < 2 ^ e := by positivity
  rcases le_or_gt e k with coarse | fine
  · have scaled : (m * (2 : ℚ) ^ k : ℚ) = (m * 2 ^ (k - e).toNat : Nat) * 2 ^ e := by
      rw [Nat.cast_mul, ← two_zpow_natCast, Int.toNat_of_nonneg (by omega), mul_assoc,
        ← zpow_add₀ two_ne_zero, sub_add_cancel]
    rw [scaled] at below ⊢
    have less := lt_of_mul_lt_mul_right below unit.le
    exact mul_le_mul_of_nonneg_right (by exact_mod_cast Nat.lt_succ_iff.mp (by exact_mod_cast less))
      unit.le
  · -- Points with a finer last place come before all of those.
    calc (m * (2 : ℚ) ^ k : ℚ) ≤ ((2 ^ 53 : Nat) : ℚ) * 2 ^ (e - 1) := by
          gcongr
          · norm_num
          · omega
      _ = ((2 ^ 52 : Nat) : ℚ) * 2 ^ e := by
          rw [zpow_sub_one₀ two_ne_zero]
          push_cast
          ring
      _ ≤ (g : ℚ) * 2 ^ e := mul_le_mul_of_nonneg_right (Nat.cast_le.mpr least) unit.le

/-- The greatest binary64 number, which is a natural. -/
def extent : Nat := (2 ^ 53 - 1) * 2 ^ 971

/-- A point of the grid that is not too great is no more than the greatest binary64 number. -/
theorem OnGrid.le_extent {p : ℚ} (h : OnGrid p) (below : p < (2 : ℚ) ^ (1024 : Int)) :
    p ≤ extent := by
  have next : (((2 ^ 53 - 1 : Nat) : ℚ) + 1) * 2 ^ (971 : Int) = 2 ^ (1024 : Int) := by
    rw [← Nat.cast_add_one, Nat.sub_add_cancel Nat.one_le_two_pow, ← two_zpow_natCast,
      ← zpow_add₀ two_ne_zero]
    rfl
  have greatest := h.le_of_lt_succ (by decide) (next ▸ below)
  rwa [show (971 : Int) = (971 : Nat) from rfl, two_zpow_natCast, ← Nat.cast_mul] at greatest

namespace Rounds

variable {x r y t : ℚ}

section Between

variable (h : Rounds x r) {g : Nat} {e : Int} (least : 2 ^ 52 ≤ g) (most : g < 2 ^ 53)
  (he : -1074 ≤ e) (low : (g : ℚ) * 2 ^ e ≤ x) (high : x ≤ (g + 1 : ℚ) * 2 ^ e)
include h least most he low high

/-- What is between a point of the grid and the next one is rounded to one of them. -/
theorem eq_or_eq : r = (g : ℚ) * 2 ^ e ∨ r = (g + 1 : ℚ) * 2 ^ e := by
  have here : OnGrid ((g : ℚ) * 2 ^ e) := ⟨g, e, most.le, he, rfl⟩
  have next : OnGrid ((g + 1 : ℚ) * 2 ^ e) := ⟨g + 1, e, most, he, by push_cast; rfl⟩
  rcases lt_or_ge r ((g + 1 : ℚ) * 2 ^ e) with below | reached
  · exact .inl (le_antisymm (h.grid.le_of_lt_succ least below) (h.least _ here low))
  · exact .inr (le_antisymm (h.most _ next high) reached)

/-- **It is rounded down** up to the middle, which itself counts if the point below is even. -/
theorem down_iff : r = (g : ℚ) * 2 ^ e
    ↔ if Even g then x ≤ (g + 1 : ℚ) * 2 ^ e - 2 ^ (e - 1)
      else x < (g + 1 : ℚ) * 2 ^ e - 2 ^ (e - 1) := by
  have unit : (0 : ℚ) < 2 ^ e := by positivity
  have up := h.middle (g + 1) e (Nat.lt_succ_of_le least) most he
  rw [Nat.cast_add_one] at up
  have down : r = (g : ℚ) * 2 ^ e ↔ ¬ (g + 1 : ℚ) * 2 ^ e ≤ r := by
    rcases h.eq_or_eq least most he low high with rfl | rfl
    · exact iff_of_true rfl (by linarith)
    · exact iff_of_false (fun e => by linarith) (not_not.mpr le_rfl)
  rw [down, up]
  simp only [Nat.even_add_one]
  by_cases even : Even g
  · rw [if_neg (not_not.mpr even), if_pos even, not_lt]
  · rw [if_pos even, if_neg even, not_le]

/-- **Two numbers between the same two points are rounded to the same one** just when they are on the
same side of the middle, which itself is on the side of the even point. -/
theorem eq_iff (h' : Rounds y t) (low' : (g : ℚ) * 2 ^ e ≤ y) (high' : y ≤ (g + 1 : ℚ) * 2 ^ e) :
    r = t ↔ if Even g
      then (x ≤ (g + 1 : ℚ) * 2 ^ e - 2 ^ (e - 1) ↔ y ≤ (g + 1 : ℚ) * 2 ^ e - 2 ^ (e - 1))
      else (x < (g + 1 : ℚ) * 2 ^ e - 2 ^ (e - 1) ↔ y < (g + 1 : ℚ) * 2 ^ e - 2 ^ (e - 1)) := by
  have same : r = t ↔ (r = (g : ℚ) * 2 ^ e ↔ t = (g : ℚ) * 2 ^ e) := by
    have unit : (0 : ℚ) < 2 ^ e := by positivity
    have apart : (g + 1 : ℚ) * 2 ^ e ≠ (g : ℚ) * 2 ^ e := by linarith
    rcases h.eq_or_eq least most he low high with rfl | rfl <;>
      rcases h'.eq_or_eq least most he low' high' with rfl | rfl <;> simp [apart, apart.symm]
  rw [same, h.down_iff least most he low high, h'.down_iff least most he low' high']
  by_cases even : Even g <;> simp [even]

end Between

/-! ### Naturals without room behind the point -/

/-- **The middle above an even point of a grid of naturals**, in digits: a one and nothing else, below
the digit that says whether the point is even. -/
theorem mod_eq_half_iff (n s : Nat) : n % 2 ^ (s + 2) = 2 ^ s
    ↔ Even (n / 2 ^ (s + 1)) ∧ n = 2 ^ (s + 1) * (n / 2 ^ (s + 1)) + 2 ^ s := by
  have parts := Nat.div_add_mod n (2 ^ (s + 1))
  have rest := Nat.mod_lt n (Nat.two_pow_pos (s + 1))
  have double : 2 ^ (s + 1) = 2 * 2 ^ s := Nat.pow_succ'
  rw [Nat.pow_succ 2 (s + 1), Nat.mod_mul, Nat.even_iff]
  rcases Nat.mod_two_eq_zero_or_one (n / 2 ^ (s + 1)) with zero | one
  · rw [zero]
    omega
  · rw [one]
    omega

section Naturals

variable {n : Nat} (h : Rounds n r) (h' : Rounds y t) (least : (n : ℚ) ≤ y) (below : y < n + 1)
include h h' least below

/-- **Where there is no place behind the point**, what stands there is dropped if it makes less than a
half, or just a half behind an even natural. -/
theorem natCast_eq_iff_of_lt (great : 2 ^ 52 ≤ n) (room : n < 2 ^ 53) :
    r = t ↔ y < n + 1 / 2 ∨ y = n + 1 / 2 ∧ Even n := by
  have middle : (n + 1 : ℚ) * 2 ^ (0 : Int) - 2 ^ ((0 : Int) - 1) = n + 1 / 2 := by
    norm_num
    ring
  have same := h.eq_iff great room (by decide : (-1074 : Int) ≤ 0) (by simp) (by simp) h' (by simpa)
    (by simpa using below.le)
  rw [middle] at same
  rw [same]
  by_cases even : Even n
  · simp [even, le_iff_lt_or_eq]
  · simp [even]

/-- **Where there is not even a place for all digits before the point**, what stands behind it makes a
difference only if those make the middle above an even point of the grid. -/
theorem natCast_eq_iff_of_le (great : 2 ^ 53 ≤ n) :
    r = t ↔ (n % 2 ^ (n.size - 52) = 2 ^ (n.size - 54) → y = n) := by
  obtain ⟨s, size⟩ : ∃ s, n.size = s + 54 :=
    Nat.exists_eq_add_of_le' (Nat.lt_size.mpr great)
  have upper : n < 2 ^ (s + 54) := size ▸ Nat.lt_size_self n
  have lower : 2 ^ (s + 53) ≤ n := Nat.lt_size.mp (by omega)
  let u := 2 ^ (s + 1)
  have unit : 0 < u := by positivity
  have parts := Nat.div_add_mod n u
  have rest := Nat.mod_lt n unit
  have least' : 2 ^ 52 ≤ n / u := (Nat.le_div_iff_mul_le unit).mpr (by
    rw [← Nat.pow_add, show 52 + (s + 1) = s + 53 by omega]
    exact lower)
  have most : n / u < 2 ^ 53 := (Nat.div_lt_iff_lt_mul unit).mpr (by
    rw [← Nat.pow_add, show 53 + (s + 1) = s + 54 by omega]
    exact upper)
  have place : (2 : ℚ) ^ ((s : Int) + 1) = (u : ℚ) := two_zpow_natCast (s + 1)
  have double : u = 2 * 2 ^ s := Nat.pow_succ'
  have half : (2 : ℚ) ^ ((s : Int) + 1 - 1) = ((2 ^ s : Nat) : ℚ) := by
    rw [add_sub_cancel_right]
    exact two_zpow_natCast s
  have middle : ((n / u : Nat) + 1 : ℚ) * 2 ^ ((s : Int) + 1) - 2 ^ ((s : Int) + 1 - 1)
      = (u * (n / u) + 2 ^ s : Nat) := by
    rw [place, half]
    push_cast [double]
    ring
  have low : ((n / u : Nat) : ℚ) * 2 ^ ((s : Int) + 1) ≤ n := by
    rw [place]
    exact_mod_cast Nat.div_mul_le_self n u
  have above : n + 1 ≤ (n / u + 1) * u := by
    rw [Nat.add_mul, one_mul, mul_comm]
    omega
  have high : (n + 1 : ℚ) ≤ ((n / u : Nat) + 1 : ℚ) * 2 ^ ((s : Int) + 1) := by
    rw [place]
    exact_mod_cast above
  have same := h.eq_iff least' most (by omega : (-1074 : Int) ≤ (s : Int) + 1) low
    ((lt_add_one _).le.trans high) h' (low.trans least) (below.le.trans high)
  rw [middle] at same
  have even : n % 2 ^ (n.size - 52) = 2 ^ (n.size - 54)
      ↔ Even (n / u) ∧ n = u * (n / u) + 2 ^ s := by
    rw [size, show s + 54 - 52 = s + 2 by omega, show s + 54 - 54 = s by omega]
    exact mod_eq_half_iff n s
  rw [same, even]
  have succ {m : Nat} : n < m → y < m := fun less =>
    below.trans_le (by exact_mod_cast Nat.succ_le_of_lt less)
  split
  · rename_i e
    constructor
    · rintro sides ⟨-, equal⟩
      exact le_antisymm (equal ▸ sides.mp (by exact_mod_cast equal.le)) least
    · intro tie
      refine ⟨fun le => ?_, fun le => least.trans le⟩
      rcases Nat.lt_or_eq_of_le (by exact_mod_cast le : n ≤ u * (n / u) + 2 ^ s) with less | equal
      · exact (succ less).le
      · rw [tie ⟨e, equal⟩]
        exact le
  · rename_i odd
    refine iff_of_true ⟨fun less => succ (by exact_mod_cast less), fun less => least.trans_lt less⟩ ?_
    exact fun tie => absurd tie.1 odd

end Naturals

/-- A natural that is not too great is rounded to itself. -/
theorem eq_natCast {n : Nat} (h : Rounds n r) (hn : n ≤ 2 ^ 53) : r = n :=
  le_antisymm (h.most _ (.natCast hn) le_rfl) (h.least _ (.natCast hn) le_rfl)

/-- **Where a number is too great**: from the middle between the greatest point of the grid and the
one that would be next. -/
theorem too_great_iff (h : Rounds x r) :
    (2 : ℚ) ^ (1024 : Int) ≤ r ↔ (2 : ℚ) ^ (1024 : Int) - 2 ^ (970 : Int) ≤ x := by
  have spec := h.middle (2 ^ 53) 971 (by norm_num) (by norm_num) (by norm_num)
  have point : ((2 ^ 53 : Nat) : ℚ) * 2 ^ (971 : Int) = 2 ^ (1024 : Int) := by
    rw [← two_zpow_natCast, ← zpow_add₀ two_ne_zero]
    rfl
  rwa [if_pos (by decide), point] at spec

/-- **Where a number that is not too great is rounded to the next natural**, or beyond. -/
theorem succ_le_iff (h : Rounds x r) {n : Nat} (hn : n < 2 ^ 52) :
    (n + 1 : ℚ) ≤ r ↔ (n + 1 : ℚ) - 2 ^ ((n.size : Int) - 54) ≤ x := by
  have fits : n.size ≤ 52 := Nat.size_le.mpr hn
  have above : n + 1 ≤ 2 ^ n.size := Nat.lt_size_self n
  have below := two_pow_size_lt n
  have places : 2 ^ n.size * 2 ^ (52 - n.size) = 2 ^ 52 := by
    rw [← Nat.pow_add, Nat.add_sub_cancel' fits]
  have positive : 0 < 2 ^ (52 - n.size) := by positivity
  have unit : (2 : ℚ) * 2 ^ (52 - n.size) * 2 ^ ((n.size : Int) - 53) = 1 := by
    have none : ((52 - n.size + 1 : Nat) : Int) + ((n.size : Int) - 53) = 0 := by omega
    rw [← pow_succ', ← zpow_natCast, ← zpow_add₀ two_ne_zero, none, zpow_zero]
  have spec := h.middle (2 * ((n + 1) * 2 ^ (52 - n.size))) (n.size - 53)
    (by rw [← mul_assoc, ← places]; exact Nat.mul_lt_mul_of_pos_right below positive)
    (by rw [pow_succ', ← places]; exact Nat.mul_le_mul_left 2 (Nat.mul_le_mul_right _ above))
    (by omega)
  have point : ((2 * ((n + 1) * 2 ^ (52 - n.size)) : Nat) : ℚ) * 2 ^ ((n.size : Int) - 53) = n + 1 := by
    push_cast
    linear_combination (n + 1 : ℚ) * unit
  have half : (n.size : Int) - 53 - 1 = n.size - 54 := by omega
  rwa [if_pos (even_two_mul _), point, half] at spec

end Rounds

end Number

end Proximity
