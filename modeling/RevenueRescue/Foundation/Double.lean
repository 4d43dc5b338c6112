import Mathlib.Data.Int.Log
import Mathlib.Algebra.Order.Field.Power
import Mathlib.Tactic.FieldSimp
import RevenueRescue.Foundation.PyFloat

namespace RevenueRescue.PyFloat

/-- The distance between two neighbouring doubles at a value. -/
def ulp (x : ℚ) : ℚ := 2 ^ (Int.log 2 |x| - 52)

/-- The double nearest to a value, for exponents that a double has. -/
def double (x : ℚ) : ℚ := roundHalfEven (x / ulp x) * ulp x

variable {x y q r : ℚ}

theorem le_roundHalfEven {n : ℤ} (h : (n : ℚ) ≤ q) : n ≤ roundHalfEven q := by
  have hfloor : n ≤ ⌊q⌋ := Int.le_floor.mpr h
  unfold roundHalfEven
  split_ifs <;> omega

theorem roundHalfEven_mono (h : q ≤ r) : roundHalfEven q ≤ roundHalfEven r := by
  have hfloor : ⌊q⌋ ≤ ⌊r⌋ := Int.floor_mono h
  rcases hfloor.lt_or_eq with hlt | he
  · have hr : ⌊r⌋ ≤ roundHalfEven r := le_roundHalfEven (Int.floor_le r)
    have hq : roundHalfEven q ≤ ⌊q⌋ + 1 := by
      unfold roundHalfEven
      split_ifs <;> omega
    omega
  · unfold roundHalfEven
    rw [he]
    split_ifs <;> first | omega | (exfalso; linarith)

theorem ulp_pos (x : ℚ) : 0 < ulp x := zpow_pos (by norm_num) _

theorem power_eq_ulp (h : 0 < x) (k : ℤ) : (2 : ℚ) ^ (Int.log 2 x + k) = 2 ^ (52 + k) * ulp x := by
  rw [ulp, abs_of_pos h, ← zpow_add₀ (by norm_num)]
  congr 1
  ring

theorem double_nonneg (h : 0 ≤ x) : 0 ≤ double x := by
  have hround : 0 ≤ roundHalfEven (x / ulp x) :=
    le_roundHalfEven (by simpa using div_nonneg h (ulp_pos x).le)
  exact mul_nonneg (by exact_mod_cast hround) (ulp_pos x).le

theorem double_le_power (h : 0 < x) : double x ≤ 2 ^ (Int.log 2 x + 1) := by
  have hlt : x < 2 ^ (Int.log 2 x + 1) := by exact_mod_cast Int.lt_zpow_succ_log_self (by norm_num) x
  have hpow : (2 : ℚ) ^ (Int.log 2 x + 1) = ((2 ^ 53 : ℤ) : ℚ) * ulp x := by
    rw [power_eq_ulp h]
    norm_num
  have hdiv : x / ulp x ≤ ((2 ^ 53 : ℤ) : ℚ) := by
    rw [div_le_iff₀ (ulp_pos x), ← hpow]
    exact hlt.le
  have hround := (roundHalfEven_bounds (div_nonneg h.le (ulp_pos x).le) hdiv).2
  rw [hpow]
  exact mul_le_mul_of_nonneg_right (by exact_mod_cast hround) (ulp_pos x).le

theorem power_le_double (h : 0 < x) : 2 ^ Int.log 2 x ≤ double x := by
  have hle : (2 : ℚ) ^ Int.log 2 x ≤ x := by exact_mod_cast Int.zpow_log_le_self (by norm_num) h
  have hpow : (2 : ℚ) ^ Int.log 2 x = ((2 ^ 52 : ℤ) : ℚ) * ulp x := by
    rw [← add_zero (Int.log 2 x), power_eq_ulp h]
    norm_num
  have hdiv : ((2 ^ 52 : ℤ) : ℚ) ≤ x / ulp x := by
    rw [le_div_iff₀ (ulp_pos x), ← hpow]
    exact hle
  rw [hpow]
  exact mul_le_mul_of_nonneg_right (by exact_mod_cast le_roundHalfEven hdiv) (ulp_pos x).le

theorem double_zero : double 0 = 0 := by simp [double, roundHalfEven]

/-- Rounding keeps the order: a change of the exponent passes a power of two. -/
theorem double_mono (hx : 0 ≤ x) (hxy : x ≤ y) : double x ≤ double y := by
  rcases hx.eq_or_lt with rfl | hx
  · rw [double_zero]
    exact double_nonneg hxy
  · have hy := hx.trans_le hxy
    have hlog : Int.log 2 x ≤ Int.log 2 y := Int.log_mono_right hx hxy
    rcases hlog.lt_or_eq with hlt | he
    · calc double x ≤ 2 ^ (Int.log 2 x + 1) := double_le_power hx
        _ ≤ 2 ^ Int.log 2 y := zpow_le_zpow_right₀ (by norm_num) (by omega)
        _ ≤ double y := power_le_double hy
    · have hulp : ulp x = ulp y := by rw [ulp, ulp, abs_of_pos hx, abs_of_pos hy, he]
      unfold double
      rw [hulp]
      apply mul_le_mul_of_nonneg_right _ (ulp_pos y).le
      exact_mod_cast roundHalfEven_mono (div_le_div_of_nonneg_right hxy (ulp_pos y).le)

theorem roundHalfEven_intCast (n : ℤ) : roundHalfEven n = n := by
  rw [roundHalfEven, Int.floor_intCast, sub_self, if_pos (by norm_num)]

/-- A double is what a significand of 53 bits gives. -/
theorem double_of_dyadic {k : ℤ} {e : ℕ} (h : 0 < x) (hk : x = k / 2 ^ e) (hlt : x < 2 ^ (53 - e : ℤ)) :
    double x = x := by
  have hlog : Int.log 2 x < 53 - e := (Int.lt_zpow_iff_log_lt (by norm_num) h).mp (by exact_mod_cast hlt)
  obtain ⟨m, hm⟩ : ∃ m : ℕ, (m : ℤ) = 52 - e - Int.log 2 x := Int.eq_ofNat_of_zero_le (by omega) |>.imp fun _ h => h.symm
  have hulp : ulp x * 2 ^ m * 2 ^ e = 1 := by
    rw [ulp, abs_of_pos h, ← zpow_natCast, ← zpow_natCast, ← zpow_add₀ (by norm_num), ← zpow_add₀ (by norm_num), hm]
    ring_nf
    exact zpow_zero _
  have hdiv : x / ulp x = ((k * 2 ^ m : ℤ) : ℚ) := by
    push_cast
    rw [div_eq_iff (ulp_pos x).ne']
    calc x = k / 2 ^ e * (ulp x * 2 ^ m * 2 ^ e) := by rw [hulp, mul_one, ← hk]
      _ = k * 2 ^ m * ulp x := by field_simp
  rw [double, hdiv, roundHalfEven_intCast, ← hdiv, div_mul_cancel₀ _ (ulp_pos x).ne']

theorem double_one : double 1 = 1 := double_of_dyadic (k := 1) (e := 0) one_pos (by norm_num) (by norm_num)

theorem double_hundred : double 100 = 100 :=
  double_of_dyadic (k := 100) (e := 0) (by norm_num) (by norm_num) (by norm_num)

end RevenueRescue.PyFloat
