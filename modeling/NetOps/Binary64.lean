import Mathlib.Algebra.Order.Floor.Ring
import Mathlib.Algebra.Order.Round
import Mathlib.Data.Int.Log
import Mathlib.Data.Rat.Floor
import Mathlib.Tactic.Linarith
import Mathlib.Tactic.NormNum

/-!
# Binary64

Rounding of rational numbers: to the nearest integer with ties to even, and to the nearest number
of the binary64 format, as far as it does not overflow.

* `halfEven_mono`, `nearest_mono`: both are monotone.
-/

namespace Binary64

/-! ## To an integer -/

/-- The nearest integer; of two, the even one. -/
def halfEven (x : ℚ) : ℤ :=
  if Int.fract x < 1 / 2 then ⌊x⌋
  else if 1 / 2 < Int.fract x then ⌊x⌋ + 1
  else if ⌊x⌋ % 2 = 0 then ⌊x⌋ else ⌊x⌋ + 1

theorem halfEven_cases (x : ℚ) : halfEven x = ⌊x⌋ ∨ halfEven x = ⌊x⌋ + 1 := by
  unfold halfEven
  split_ifs <;> simp

@[simp] theorem halfEven_intCast (z : ℤ) : halfEven z = z := by
  unfold halfEven
  rw [Int.fract_intCast, if_pos (by norm_num), Int.floor_intCast]

theorem halfEven_mono {x y : ℚ} (h : x ≤ y) : halfEven x ≤ halfEven y := by
  have hfloor : ⌊x⌋ ≤ ⌊y⌋ := Int.floor_le_floor h
  rcases hfloor.lt_or_eq with hlt | heq
  · have hx := halfEven_cases x
    have hy := halfEven_cases y
    omega
  · -- On one step between integers the fractions decide, and a tie goes the same way.
    have hfract : Int.fract x ≤ Int.fract y := by
      rw [Int.fract, Int.fract, heq]
      linarith
    unfold halfEven
    rw [heq]
    split_ifs <;> first | omega | linarith

/-! ## To a grid -/

/-- The nearest multiple of the step. -/
def onGrid (step x : ℚ) : ℚ := halfEven (x / step) * step

variable {step x y : ℚ} {n : ℤ}

theorem onGrid_mono (hstep : 0 < step) (h : x ≤ y) : onGrid step x ≤ onGrid step y := by
  have hdiv : x / step ≤ y / step := div_le_div_of_nonneg_right h hstep.le
  have hcast : (halfEven (x / step) : ℚ) ≤ halfEven (y / step) := by
    exact_mod_cast halfEven_mono hdiv
  exact mul_le_mul_of_nonneg_right hcast hstep.le

theorem onGrid_mul (hstep : 0 < step) (n : ℤ) : onGrid step (n * step) = n * step := by
  unfold onGrid
  rw [mul_div_assoc, div_self hstep.ne', mul_one, halfEven_intCast]

/-! ## To the format -/

/-- The exponent of the last place: of 53 bits, and never below the smallest one. -/
def lastPlace (x : ℚ) : ℤ := max (Int.log 2 |x| - 52) (-1074)

/-- The nearest binary64 number. -/
def nearest (x : ℚ) : ℚ := onGrid ((2 : ℚ) ^ lastPlace x) x

theorem two_zpow_pos (e : ℤ) : (0 : ℚ) < (2 : ℚ) ^ e := zpow_pos (by norm_num) e

/-- A power of two is on every grid that is no coarser. -/
theorem onGrid_zpow {e f : ℤ} (h : f ≤ e) : onGrid ((2 : ℚ) ^ f) ((2 : ℚ) ^ e) = (2 : ℚ) ^ e := by
  obtain ⟨k, rfl⟩ := Int.le.dest h
  have hsplit : (2 : ℚ) ^ (f + k) = ((2 ^ k : ℤ) : ℚ) * (2 : ℚ) ^ f := by
    rw [zpow_add₀ (by norm_num), zpow_natCast, mul_comm]
    push_cast
    rfl
  rw [hsplit]
  exact onGrid_mul (two_zpow_pos f) (2 ^ k)

@[simp] theorem nearest_zero : nearest 0 = 0 := by
  have h := onGrid_mul (two_zpow_pos (lastPlace 0)) 0
  simpa [nearest] using h

theorem lastPlace_mono (hx : 0 < x) (h : x ≤ y) : lastPlace x ≤ lastPlace y := by
  have hlog := Int.log_mono_right (b := 2) (abs_pos.2 hx.ne') (abs_le_abs_of_nonneg hx.le h)
  unfold lastPlace
  omega

theorem nearest_mono (hx : 0 ≤ x) (h : x ≤ y) : nearest x ≤ nearest y := by
  have hy : 0 ≤ y := hx.trans h
  rcases hx.lt_or_eq with hpos | hzero
  · have hypos : 0 < y := hpos.trans_le h
    rcases (lastPlace_mono hpos h).lt_or_eq with hlt | heq
    · -- A power of two lies between, and is on both grids.
      have hxlt : x < (2 : ℚ) ^ (Int.log 2 x + 1) := by
        exact_mod_cast Int.lt_zpow_succ_log_self (R := ℚ) (b := 2) (by norm_num) x
      have hyle : (2 : ℚ) ^ (Int.log 2 y) ≤ y := by
        exact_mod_cast Int.zpow_log_le_self (R := ℚ) (b := 2) (by norm_num) hypos
      have hplaces : lastPlace x ≤ Int.log 2 y ∧ lastPlace y ≤ Int.log 2 y ∧
          Int.log 2 x + 1 ≤ Int.log 2 y := by
        unfold lastPlace at hlt ⊢
        rw [abs_of_pos hpos, abs_of_pos hypos] at *
        omega
      have hbelow : x ≤ (2 : ℚ) ^ (Int.log 2 y) :=
        hxlt.le.trans (zpow_le_zpow_right₀ (by norm_num) hplaces.2.2)
      calc nearest x ≤ onGrid ((2 : ℚ) ^ lastPlace x) ((2 : ℚ) ^ (Int.log 2 y)) :=
            onGrid_mono (two_zpow_pos _) hbelow
        _ = (2 : ℚ) ^ (Int.log 2 y) := onGrid_zpow hplaces.1
        _ = onGrid ((2 : ℚ) ^ lastPlace y) ((2 : ℚ) ^ (Int.log 2 y)) :=
            (onGrid_zpow hplaces.2.1).symm
        _ ≤ nearest y := onGrid_mono (two_zpow_pos _) hyle
    · unfold nearest
      rw [heq]
      exact onGrid_mono (two_zpow_pos _) h
  · subst hzero
    have hzero := onGrid_mono (two_zpow_pos (lastPlace y)) h
    have hgrid := onGrid_mul (two_zpow_pos (lastPlace y)) 0
    rw [Int.cast_zero, zero_mul] at hgrid
    rw [hgrid] at hzero
    rw [nearest_zero]
    exact hzero

/-- Small integers are numbers of the format. -/
theorem nearest_natCast {n : ℕ} (h : n < 2 ^ 53) : nearest n = n := by
  rcases Nat.eq_zero_or_pos n with rfl | hpos
  · simp
  · have hcast : (0 : ℚ) < n := by exact_mod_cast hpos
    have hlt : (n : ℚ) < (2 : ℚ) ^ (53 : ℤ) := by exact_mod_cast h
    have hle : (2 : ℚ) ^ Int.log 2 (n : ℚ) ≤ n := by
      exact_mod_cast Int.zpow_log_le_self (R := ℚ) (b := 2) (by norm_num) hcast
    have hlog : Int.log 2 (n : ℚ) < 53 :=
      (zpow_lt_zpow_iff_right₀ (by norm_num)).1 (hle.trans_lt hlt)
    have hplace : lastPlace (n : ℚ) ≤ 0 := by
      unfold lastPlace
      rw [abs_of_pos hcast]
      omega
    obtain ⟨k, hk⟩ := Int.eq_ofNat_of_zero_le (neg_nonneg.2 hplace)
    have hsplit : (n : ℚ) = ((n * 2 ^ k : ℤ) : ℚ) * (2 : ℚ) ^ lastPlace (n : ℚ) := by
      rw [show lastPlace (n : ℚ) = -(k : ℤ) by omega, zpow_neg, zpow_natCast]
      push_cast
      rw [mul_assoc, mul_inv_cancel₀ (by positivity), mul_one]
    have hgrid := onGrid_mul (two_zpow_pos (lastPlace (n : ℚ))) (n * 2 ^ k)
    rw [← hsplit] at hgrid
    exact hgrid

end Binary64
