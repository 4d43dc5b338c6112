import RevenueRescue.Foundation.PyObject

namespace RevenueRescue.Binary64

open PyFloat

/-- The double nearest to a value, on the grid of the subnormal numbers below `2 ^ -1022`. -/
def nearest (x : ℚ) : ℚ :=
  if |x| < 1 / 2 ^ 1022 then roundHalfEven (x * 2 ^ 1074) / 2 ^ 1074 else double x

/-- A result of an operation, which is infinite past the largest double. -/
def round (x : ℚ) : PyFloat :=
  if 2 ^ 1024 ≤ nearest x then .posInf else if nearest x ≤ -2 ^ 1024 then .negInf else .num (nearest x)

def neg : PyFloat → PyFloat
  | .num a => .num (-a)
  | .posInf => .negInf
  | .negInf => .posInf
  | .nan => .nan

def fabs : PyFloat → PyFloat
  | .num a => .num |a|
  | .posInf | .negInf => .posInf
  | .nan => .nan

def add : PyFloat → PyFloat → PyFloat
  | .num a, .num b => round (a + b)
  | .nan, _ | _, .nan | .posInf, .negInf | .negInf, .posInf => .nan
  | .posInf, _ | _, .posInf => .posInf
  | .negInf, _ | _, .negInf => .negInf

def sub (x y : PyFloat) : PyFloat := add x (neg y)

def mul : PyFloat → PyFloat → PyFloat
  | .num a, .num b => round (a * b)
  | .nan, _ | _, .nan => .nan
  | .num a, y | y, .num a => if a = 0 then .nan else if 0 < a then y else neg y
  | .posInf, y => y
  | .negInf, y => neg y

/-- The `/` of two floats, which raises for a zero on the right. -/
def div : PyFloat → PyFloat → Except Raised PyFloat
  | .num a, .num b => if b = 0 then .error (.other "ZeroDivisionError") else .ok (round (a / b))
  | x, .num b =>
      if b = 0 then .error (.other "ZeroDivisionError") else .ok (if 0 < b then x else neg x)
  | .num _, .posInf | .num _, .negInf => .ok (.num 0)
  | _, _ => .ok .nan

/-- The `/` of two integers: the quotient itself is rounded. -/
def trueDivide (a b : Int) : Except Raised ℚ :=
  if b = 0 then .error (.other "ZeroDivisionError")
  else match round (a / b) with
  | .num x => .ok x
  | _ => .error .overflowError

/-- The double nearest to the square root, for the exponent that it has. -/
def nearestSqrt (x : ℚ) : ℚ :=
  let spacing : ℚ := 2 ^ (Int.log 2 x / 2 - 52)
  let root : ℕ := Nat.sqrt ⌊x / spacing ^ 2⌋₊
  (if x / spacing ^ 2 ≤ (root + 1 / 2) ^ 2 then (root : ℚ) else root + 1) * spacing

/-- `math.sqrt` -/
def sqrt : PyFloat → Except Raised PyFloat
  | .num a => if a < 0 then .error .valueError else .ok (.num (nearestSqrt a))
  | .negInf => .error .valueError
  | x => .ok x

/-- `math.isclose` with its default tolerances. -/
def isclose (a b : PyFloat) : Bool :=
  if a = b ∧ a ≠ .nan then true
  else if fabs a = .posInf ∨ fabs b = .posInf then false
  else
    let diff := fabs (sub b a)
    let relTol := round (1 / 10 ^ 9)
    le diff (fabs (mul relTol b)) || le diff (fabs (mul relTol a)) || le diff (.num 0)

variable {x y q : ℚ} {n : ℤ}

/-- The halves below an even number round up to it, those below an odd number do not. -/
theorem le_roundHalfEven_iff : n ≤ roundHalfEven q ↔ (n : ℚ) - 1 / 2 < q ∨ n % 2 = 0 ∧ (n : ℚ) - 1 / 2 = q := by
  have hfloor : (⌊q⌋ : ℚ) ≤ q := Int.floor_le q
  have hlt : q < ⌊q⌋ + 1 := Int.lt_floor_add_one q
  rcases lt_trichotomy n (⌊q⌋ + 1) with h | h | h
  · have hle : (n : ℚ) ≤ ⌊q⌋ := by exact_mod_cast (by omega : n ≤ ⌊q⌋)
    exact iff_of_true (le_roundHalfEven (hle.trans hfloor)) (.inl (by linarith))
  · have hn : (n : ℚ) = ⌊q⌋ + 1 := by exact_mod_cast h
    unfold roundHalfEven
    split_ifs with hbelow habove heven
    · refine iff_of_false (by omega) (not_or.mpr ⟨by linarith, fun hhalf => ?_⟩)
      linarith [hhalf.2]
    · exact iff_of_true (by omega) (.inl (by linarith))
    · exact iff_of_false (by omega) (not_or.mpr ⟨by linarith, fun hhalf => by omega⟩)
    · exact iff_of_true (by omega) (.inr ⟨by omega, by linarith⟩)
  · have hle : (⌊q⌋ : ℚ) + 2 ≤ n := by exact_mod_cast (by omega : ⌊q⌋ + 2 ≤ n)
    refine iff_of_false ?_ (not_or.mpr ⟨by linarith, fun hhalf => by linarith [hhalf.2]⟩)
    unfold roundHalfEven
    split_ifs <;> omega

theorem abs_roundHalfEven_le (q : ℚ) : |(roundHalfEven q : ℚ)| ≤ |q| + 1 / 2 := by
  have hfloor : (⌊q⌋ : ℚ) ≤ q := Int.floor_le q
  have hlt : q < ⌊q⌋ + 1 := Int.lt_floor_add_one q
  have hdist : |(roundHalfEven q : ℚ) - q| ≤ 1 / 2 := by
    unfold roundHalfEven
    split_ifs <;> push_cast <;> exact abs_le.mpr ⟨by linarith, by linarith⟩
  calc |(roundHalfEven q : ℚ)| = |q + (roundHalfEven q - q)| := by rw [add_sub_cancel]
    _ ≤ |q| + |(roundHalfEven q : ℚ) - q| := abs_add_le _ _
    _ ≤ |q| + 1 / 2 := by linarith

theorem abs_double_le (x : ℚ) : |double x| ≤ 2 * |x| := by
  rcases eq_or_ne x 0 with rfl | hx
  · simp [double_zero]
  · have hulp : ulp x ≤ |x| := by
      have hpow : (2 : ℚ) ^ Int.log 2 |x| ≤ |x| := by
        exact_mod_cast Int.zpow_log_le_self (by norm_num) (abs_pos.mpr hx)
      exact (zpow_le_zpow_right₀ (by norm_num) (by omega)).trans hpow
    have hdiv : |x / ulp x| * ulp x = |x| := by
      rw [abs_div, abs_of_pos (ulp_pos x), div_mul_cancel₀ _ (ulp_pos x).ne']
    calc |double x| = |(roundHalfEven (x / ulp x) : ℚ)| * ulp x := by
          rw [double, abs_mul, abs_of_pos (ulp_pos x)]
      _ ≤ (|x / ulp x| + 1 / 2) * ulp x := mul_le_mul_of_nonneg_right (abs_roundHalfEven_le _) (ulp_pos x).le
      _ ≤ 2 * |x| := by rw [add_mul, hdiv]; linarith [ulp_pos x]

theorem abs_nearest_le (x : ℚ) : |nearest x| ≤ 2 * |x| + 1 := by
  unfold nearest
  split_ifs with h
  · have hpow : (0 : ℚ) < 2 ^ 1074 := by positivity
    have hone : (1 : ℚ) ≤ 2 ^ 1074 := one_le_pow₀ (by norm_num)
    rw [abs_div, abs_of_pos hpow, div_le_iff₀ hpow]
    calc |(roundHalfEven (x * 2 ^ 1074) : ℚ)| ≤ |x * 2 ^ 1074| + 1 / 2 := abs_roundHalfEven_le _
      _ = |x| * 2 ^ 1074 + 1 / 2 := by rw [abs_mul, abs_of_pos hpow]
      _ ≤ |x| * 2 ^ 1074 + 2 ^ 1074 := add_le_add_right ((by norm_num : (1 / 2 : ℚ) ≤ 1).trans hone) _
      _ ≤ 2 * |x| * 2 ^ 1074 + 2 ^ 1074 :=
          add_le_add_left (mul_le_mul_of_nonneg_right (by linarith [abs_nonneg x]) hpow.le) _
      _ = (2 * |x| + 1) * 2 ^ 1074 := by rw [add_mul, one_mul]
  · linarith [abs_double_le x]

/-- A result that is not near the end of the range is a number. -/
theorem round_eq (h : |x| ≤ 2 ^ 1000) : round x = .num (nearest x) := by
  have hlt : |nearest x| < 2 ^ 1024 := by
    calc |nearest x| ≤ 2 * |x| + 1 := abs_nearest_le x
      _ ≤ 2 * 2 ^ 1000 + 2 ^ 1000 := 
          add_le_add (mul_le_mul_of_nonneg_left h (by norm_num)) (one_le_pow₀ (by norm_num))
      _ = 3 * 2 ^ 1000 := by rw [← add_one_mul, two_add_one_eq_three]
      _ < 2 ^ 24 * 2 ^ 1000 := mul_lt_mul_of_pos_right (by norm_num) (by positivity)
      _ = 2 ^ 1024 := by rw [← pow_add]
  obtain ⟨hlow, hhigh⟩ := abs_lt.mp hlt
  rw [round, if_neg (not_le.mpr hhigh), if_neg (not_le.mpr hlow)]

theorem nearest_mono (hx : 0 ≤ x) (hxy : x ≤ y) : nearest x ≤ nearest y := by
  have hpow : (0 : ℚ) < 2 ^ 1074 := by positivity
  unfold nearest
  rw [abs_of_nonneg hx, abs_of_nonneg (hx.trans hxy)]
  split_ifs with h1 h2 h2
  · apply div_le_div_of_nonneg_right _ hpow.le
    exact_mod_cast roundHalfEven_mono (mul_le_mul_of_nonneg_right hxy hpow.le)
  · -- Between a subnormal number and a normal one lies the power of two.
    rw [not_lt] at h2
    have hcut : x * 2 ^ 1074 ≤ ((2 ^ 52 : ℤ) : ℚ) := by
      have heq : (1 : ℚ) / 2 ^ 1022 * 2 ^ 1074 = ((2 ^ 52 : ℤ) : ℚ) := by
        rw [(pow_add 2 1022 52 : (2 : ℚ) ^ 1074 = _)]
        field_simp
        norm_num
      rw [← heq]
      exact mul_le_mul_of_nonneg_right h1.le hpow.le
    have hround := (roundHalfEven_bounds (mul_nonneg hx hpow.le) hcut).2
    have hy : (0 : ℚ) < y := (by positivity : (0 : ℚ) < 1 / 2 ^ 1022).trans_le h2
    have hlog : (-1022 : ℤ) ≤ Int.log 2 y := by
      apply (Int.zpow_le_iff_le_log (by norm_num) hy).mp
      rw [zpow_neg]
      exact_mod_cast (one_div (2 ^ 1022 : ℚ)) ▸ h2
    calc (roundHalfEven (x * 2 ^ 1074) : ℚ) / 2 ^ 1074 ≤ 2 ^ 52 / 2 ^ 1074 :=
          div_le_div_of_nonneg_right (by exact_mod_cast hround) hpow.le
      _ = 2 ^ (-1022 : ℤ) := by
          rw [zpow_neg, (pow_add 2 1022 52 : (2 : ℚ) ^ 1074 = _)]
          field_simp
      _ ≤ 2 ^ Int.log 2 y := zpow_le_zpow_right₀ (by norm_num) hlog
      _ ≤ double y := power_le_double hy
  · exact absurd (hxy.trans_lt h2) h1
  · exact double_mono hx hxy

theorem nearest_zero : nearest 0 = 0 := by simp [nearest, roundHalfEven]

theorem nearest_nonneg (hx : 0 ≤ x) : 0 ≤ nearest x := nearest_zero ▸ nearest_mono le_rfl hx

/-- Multiples of `2 ^ -e` below `2 ^ (53 - e)` are doubles, for small `e`. -/
theorem nearest_dyadic {e : ℕ} (hx : 0 < x) (hn : x = n / 2 ^ e) (he : e ≤ 1022) (hlt : x < 2 ^ (53 - e : ℤ)) :
    nearest x = x := by
  have hpow : (0 : ℚ) < 2 ^ e := by positivity
  have hone : (1 : ℚ) ≤ n := by
    have hpos : (0 : ℚ) < n := by
      rw [hn, lt_div_iff₀ hpow, zero_mul] at hx
      exact hx
    exact_mod_cast Int.cast_pos.mp hpos
  have hle : (1 : ℚ) / 2 ^ 1022 ≤ x := by
    rw [hn]
    exact div_le_div₀ (by linarith) hone hpow (pow_le_pow_right₀ (by norm_num) he)
  rw [nearest, abs_of_pos hx, if_neg (not_lt.mpr hle), double_of_dyadic hx hn hlt]

theorem nearest_one : nearest 1 = 1 := nearest_dyadic (n := 1) (e := 0) one_pos (by norm_num) (by norm_num) (by norm_num)

theorem nearest_mem_unit (h0 : 0 ≤ x) (h1 : x ≤ 1) : 0 ≤ nearest x ∧ nearest x ≤ 1 :=
  ⟨nearest_nonneg h0, (nearest_mono h0 h1).trans_eq nearest_one⟩

theorem one_le_power (k : ℕ) : (1 : ℚ) ≤ 2 ^ k := one_le_pow₀ (by norm_num)

/-- A share of a whole is a number from zero to one. -/
theorem trueDivide_share {a b : ℤ} (ha : 0 ≤ a) (hab : a ≤ b) (hb : b ≠ 0) :
    trueDivide a b = .ok (nearest (a / b)) ∧ 0 ≤ nearest ((a : ℚ) / b) ∧ nearest ((a : ℚ) / b) ≤ 1 := by
  have hpos : (0 : ℚ) < b := by exact_mod_cast (ha.trans hab).lt_of_ne' hb
  have h0 : (0 : ℚ) ≤ (a : ℚ) / b := div_nonneg (by exact_mod_cast ha) hpos.le
  have h1 : (a : ℚ) / b ≤ 1 := by
    rw [div_le_one hpos]
    exact_mod_cast hab
  refine ⟨?_, nearest_mem_unit h0 h1⟩
  rw [trueDivide, if_neg hb, round_eq (by rw [abs_of_nonneg h0]; exact h1.trans (one_le_power 1000))]

/-- On `[1 / 2, 1)` neighbouring doubles are `2 ^ -53` apart. -/
theorem nearest_of_half_le (hx : 1 / 2 ≤ x) (hlt : x < 1) : nearest x = roundHalfEven (x * 2 ^ 53) / 2 ^ 53 := by
  have hpos : 0 < x := by linarith
  have hlog : Int.log 2 x = -1 := by
    apply le_antisymm
    · have hlog : Int.log 2 x < 0 := (Int.lt_zpow_iff_log_lt (by norm_num) hpos).mp (by simpa using hlt)
      omega
    · exact (Int.zpow_le_iff_le_log (by norm_num) hpos).mp (by simpa using hx)
  have hulp : ulp x = 1 / 2 ^ 53 := by
    rw [ulp, abs_of_pos hpos, hlog]
    norm_num
  have hnormal : ¬ x < 1 / 2 ^ 1022 := by
    refine not_lt.mpr (le_trans ?_ hx)
    exact div_le_div_of_nonneg_left (by norm_num) (by norm_num) (le_self_pow₀ (by norm_num) (by norm_num))
  rw [nearest, abs_of_pos hpos, if_neg hnormal, double, hulp, div_div_eq_mul_div, div_one, mul_one_div]

/-- How far from 1 a value may be for its double to be close to it. -/
def margin : ℚ := 18014399 / 2 ^ 54

theorem nearest_margin : nearest margin = margin :=
  nearest_dyadic (n := 18014399) (e := 54) (by norm_num [margin]) (by norm_num [margin]) (by norm_num)
    (by norm_num [margin])

theorem nearest_low : nearest (9007199 / 2 ^ 53) = 9007199 / 2 ^ 53 :=
  nearest_dyadic (n := 9007199) (e := 53) (by norm_num) (by norm_num) (by norm_num) (by norm_num)

theorem nearest_high : nearest (9007200 / 2 ^ 53) = 9007200 / 2 ^ 53 :=
  nearest_dyadic (n := 9007200) (e := 53) (by norm_num) (by norm_num) (by norm_num) (by norm_num)

theorem nearest_le_margin (h0 : 0 ≤ x) (h : x ≤ margin) : nearest x ≤ margin := (nearest_mono h0 h).trans_eq nearest_margin

theorem le_nearest (h : 9007199 / 2 ^ 53 ≤ x) : 9007199 / 2 ^ 53 ≤ nearest x :=
  nearest_low.symm.trans_le (nearest_mono (by norm_num) h)

theorem round_unit (h0 : 0 ≤ x) (h1 : x ≤ 1) : round x = .num (nearest x) :=
  round_eq (by rw [abs_of_nonneg h0]; exact h1.trans (one_le_power 1000))

/-- The tolerance is one grid point of `2 ^ -53` past 9007198, and short of 9007200. -/
theorem tolerance_mem : 9007199 / 2 ^ 53 ≤ nearest (1 / 10 ^ 9) ∧ nearest (1 / 10 ^ 9) ≤ margin :=
  ⟨le_nearest (by norm_num), nearest_le_margin (by norm_num) (by norm_num [margin])⟩


theorem isclose_num_one (h0 : 0 ≤ y) (h1 : y < 1) :
    isclose (.num y) (.num 1) = true ↔ nearest (1 - y) ≤ nearest (nearest (1 / 10 ^ 9)) ∨
      nearest (1 - y) ≤ nearest (nearest (1 / 10 ^ 9) * y) ∨ nearest (1 - y) ≤ 0 := by
  obtain ⟨hlow, hhigh⟩ := tolerance_mem
  have htol0 : 0 ≤ nearest (1 / 10 ^ 9) := nearest_nonneg (by norm_num)
  have htol1 : nearest (1 / 10 ^ 9) ≤ 1 := hhigh.trans (by norm_num [margin])
  have hdiff : sub (.num 1) (.num y) = .num (nearest (1 - y)) := by
    rw [sub, neg, add, ← sub_eq_add_neg, round_unit (by linarith) (by linarith)]
  have hone : mul (round (1 / 10 ^ 9)) (.num 1) = .num (nearest (nearest (1 / 10 ^ 9))) := by
    rw [round_unit (by norm_num) (by norm_num), mul, mul_one, round_unit htol0 htol1]
  have hy : mul (round (1 / 10 ^ 9)) (.num y) = .num (nearest (nearest (1 / 10 ^ 9) * y)) := by
    rw [round_unit (by norm_num) (by norm_num), mul, round_unit (mul_nonneg htol0 h0) (mul_le_one₀ htol1 h0 h1.le)]
  have hne : ¬ (PyFloat.num y = .num 1 ∧ PyFloat.num y ≠ .nan) := fun h => h1.ne (PyFloat.num.inj h.1)
  have hle (a b : ℚ) : le (.num a) (.num b) = true ↔ a ≤ b := by simp [le_iff]
  rw [isclose, if_neg hne, if_neg (by simp [fabs])]
  simp only [hdiff, hone, hy, fabs, Bool.or_eq_true, hle, or_assoc]
  rw [abs_of_nonneg (nearest_nonneg (by linarith)), abs_of_nonneg (nearest_nonneg htol0),
    abs_of_nonneg (nearest_nonneg (mul_nonneg htol0 h0))]

/-- Half a step short of the grid point that is one step too far, the tie goes away from 1. -/
theorem le_one_sub_nearest (h0 : 0 ≤ x) (h : margin ≤ 1 - x) : 9007200 / 2 ^ 53 ≤ nearest (1 - nearest x) := by
  have hcut : roundHalfEven ((1 - margin) * 2 ^ 53) ≤ 9007199245733792 := by
    by_contra hlt
    have hround : (9007199245733793 : ℤ) ≤ roundHalfEven ((1 - margin) * 2 ^ 53) := by omega
    have hhalf := le_roundHalfEven_iff.mp hround
    norm_num [margin] at hhalf
  have hcut : (roundHalfEven ((1 - margin) * 2 ^ 53) : ℚ) ≤ 9007199245733792 := by exact_mod_cast hcut
  have hy : nearest x ≤ 1 - 9007200 / 2 ^ 53 := by
    refine (nearest_mono h0 (by linarith : x ≤ 1 - margin)).trans ?_
    rw [nearest_of_half_le (by norm_num [margin]) (by norm_num [margin])]
    linarith [div_le_div_of_nonneg_right hcut (by norm_num : (0 : ℚ) ≤ 2 ^ 53)]
  exact nearest_high.symm.trans_le (nearest_mono (by norm_num) (by linarith))

theorem one_sub_nearest_le (h1 : x < 1) (h : 1 - x < margin) : 1 - nearest x ≤ 9007199 / 2 ^ 53 := by
  have hgrid : (9007199245733793 : ℤ) ≤ roundHalfEven (x * 2 ^ 53) := by
    refine le_roundHalfEven_iff.mpr (.inl ?_)
    norm_num [margin] at h ⊢
    linarith
  have hgrid : (9007199245733793 : ℚ) ≤ roundHalfEven (x * 2 ^ 53) := by exact_mod_cast hgrid
  rw [nearest_of_half_le (by norm_num [margin] at h ⊢; linarith) h1]
  linarith [div_le_div_of_nonneg_right hgrid (by norm_num : (0 : ℚ) ≤ 2 ^ 53)]

/-- The double of a value is close to 1 when the value is less than the margin away from 1. -/
theorem isclose_one_iff (h0 : 0 ≤ x) (h1 : x ≤ 1) : isclose (.num (nearest x)) (.num 1) = true ↔ 1 - x < margin := by
  obtain ⟨hlow, hhigh⟩ := tolerance_mem
  have htol0 : 0 ≤ nearest (1 / 10 ^ 9) := nearest_nonneg (by norm_num)
  obtain ⟨hy0, hy1⟩ := nearest_mem_unit h0 h1
  by_cases hnear : 1 - x < margin
  · refine iff_of_true ?_ hnear
    rcases hy1.lt_or_eq with hy | hy
    · refine (isclose_num_one hy0 hy).mpr (.inl ?_)
      have hx : x < 1 := h1.lt_of_ne fun h => hy.ne (h ▸ nearest_one)
      calc nearest (1 - nearest x) ≤ nearest (9007199 / 2 ^ 53) :=
            nearest_mono (by linarith) (one_sub_nearest_le hx hnear)
        _ = 9007199 / 2 ^ 53 := nearest_low
        _ ≤ nearest (nearest (1 / 10 ^ 9)) := le_nearest hlow
    · rw [hy, isclose, if_pos ⟨rfl, PyFloat.noConfusion⟩]
  · refine iff_of_false ?_ hnear
    have hdiff := le_one_sub_nearest h0 (not_lt.mp hnear)
    have hy : nearest x < 1 := hy1.lt_of_ne fun h => by
      rw [h, sub_self, nearest_zero] at hdiff
      norm_num at hdiff
    have hmargin : margin < 9007200 / 2 ^ 53 := by norm_num [margin]
    have hbelow {z : ℚ} (hz : z ≤ margin) : ¬ nearest (1 - nearest x) ≤ z :=
      not_le.mpr (hz.trans_lt (hmargin.trans_le hdiff))
    rw [isclose_num_one hy0 hy, not_or, not_or]
    exact ⟨hbelow (nearest_le_margin htol0 hhigh),
      hbelow (nearest_le_margin (mul_nonneg htol0 hy0) ((mul_le_of_le_one_right htol0 hy1).trans hhigh)),
      hbelow (by norm_num [margin])⟩

theorem one_le_nearestSqrt (h : 1 ≤ x) : 1 ≤ nearestSqrt x := by
  have hx : 0 < x := by linarith
  have hlog : 0 ≤ Int.log 2 x := (Int.zpow_le_iff_le_log (by norm_num) hx).mp (by simpa using h)
  have hspacing : (0 : ℚ) < 2 ^ (Int.log 2 x / 2 - 52) := zpow_pos (by norm_num) _
  have hscaled : ((2 ^ 104 : ℕ) : ℚ) ≤ x / (2 ^ (Int.log 2 x / 2 - 52)) ^ 2 := by
    rw [le_div_iff₀ (pow_pos hspacing 2)]
    calc ((2 ^ 104 : ℕ) : ℚ) * (2 ^ (Int.log 2 x / 2 - 52)) ^ 2
        = 2 ^ (104 + (Int.log 2 x / 2 - 52) * 2) := by
          rw [zpow_add₀ (by norm_num), zpow_mul]
          norm_cast
      _ ≤ 2 ^ Int.log 2 x := zpow_le_zpow_right₀ (by norm_num) (by omega)
      _ ≤ x := by exact_mod_cast Int.zpow_log_le_self (by norm_num) hx
  have hroot : 2 ^ 52 ≤ Nat.sqrt ⌊x / (2 ^ (Int.log 2 x / 2 - 52)) ^ 2⌋₊ := by
    rw [Nat.le_sqrt]
    exact (by norm_num : 2 ^ 52 * 2 ^ 52 ≤ 2 ^ 104).trans (Nat.le_floor hscaled)
  have hroot : (2 ^ 52 : ℚ) ≤ (Nat.sqrt ⌊x / (2 ^ (Int.log 2 x / 2 - 52)) ^ 2⌋₊ : ℚ) := by exact_mod_cast hroot
  calc (1 : ℚ) ≤ 2 ^ (Int.log 2 x / 2) := one_le_zpow₀ (by norm_num) (by omega)
    _ = 2 ^ 52 * 2 ^ (Int.log 2 x / 2 - 52) := by
        rw [← zpow_natCast (2 : ℚ) 52, ← zpow_add₀ (by norm_num)]
        congr 1
        push_cast
        ring
    _ ≤ nearestSqrt x := by
        unfold nearestSqrt
        apply mul_le_mul_of_nonneg_right _ hspacing.le
        split_ifs <;> linarith

theorem one_le_double (h : 1 ≤ x) : 1 ≤ double x := double_one.symm.trans_le (double_mono zero_le_one h)

/-- A value rounds below a power of two when it is half a step or more away from it. -/
theorem double_lt_power_iff {k : ℤ} (hx : 0 < x) : double x < 2 ^ 53 * 2 ^ k ↔ x + 2 ^ k / 2 < 2 ^ 53 * 2 ^ k := by
  have hstep : (0 : ℚ) < 2 ^ k := zpow_pos (by norm_num) k
  have hpow (m : ℕ) : (2 : ℚ) ^ (k + m) = 2 ^ m * 2 ^ k := by
    rw [zpow_add₀ (by norm_num), zpow_natCast, mul_comm]
  have hlow : 2 ^ Int.log 2 x ≤ x := by exact_mod_cast Int.zpow_log_le_self (by norm_num) hx
  have hhigh : x < 2 ^ (Int.log 2 x + 1) := by exact_mod_cast Int.lt_zpow_succ_log_self (by norm_num) x
  rcases lt_trichotomy (Int.log 2 x) (k + 52) with h | h | h
  · have hle : (2 : ℚ) ^ (Int.log 2 x + 1) ≤ 2 ^ 52 * 2 ^ k :=
      hpow 52 ▸ zpow_le_zpow_right₀ (by norm_num) (by push_cast; omega)
    have hdouble := (double_le_power hx).trans hle
    exact iff_of_true (by linarith) (by linarith)
  · have hulp : ulp x = 2 ^ k := by rw [ulp, abs_of_pos hx, h, add_sub_cancel_right]
    have hround : (2 ^ 53 : ℤ) ≤ roundHalfEven (x / 2 ^ k) ↔ (2 ^ 53 : ℚ) - 1 / 2 ≤ x / 2 ^ k := by
      rw [le_roundHalfEven_iff, le_iff_lt_or_eq]
      norm_num
    have hmul : (2 ^ 53 : ℚ) - 1 / 2 ≤ x / 2 ^ k ↔ 2 ^ 53 * 2 ^ k ≤ x + 2 ^ k / 2 := by
      rw [le_div_iff₀ hstep, sub_mul, sub_le_iff_le_add, one_div_mul_eq_div]
    rw [double, hulp, mul_lt_mul_iff_left₀ hstep, ← not_le, ← not_le, not_iff_not, ← hmul, ← hround]
    exact_mod_cast Iff.rfl
  · have hle : (2 : ℚ) ^ 53 * 2 ^ k ≤ 2 ^ Int.log 2 x :=
      hpow 53 ▸ zpow_le_zpow_right₀ (by norm_num) (by push_cast; omega)
    have hdouble := hle.trans (power_le_double hx)
    exact iff_of_false (by linarith) (by linarith)

/-- The integers that have a double end half a step below `2 ^ 1024`. -/
theorem converts_iff {n : ℕ} : Converts n ↔ n + 2 ^ 970 < 2 ^ 1024 := by
  have htop : (2 : ℚ) ^ 53 * 2 ^ ((971 : ℕ) : ℤ) = 2 ^ 1024 := by
    rw [zpow_natCast, ← pow_add]
  have hhalf : (2 : ℚ) ^ ((971 : ℕ) : ℤ) / 2 = 2 ^ 970 := by
    rw [zpow_natCast, pow_succ, mul_div_cancel_right₀ _ two_ne_zero]
  rw [Converts, Int.cast_natCast, abs_of_nonneg (double_nonneg (Nat.cast_nonneg n))]
  rcases Nat.eq_zero_or_pos n with rfl | hn
  · rw [Nat.cast_zero, double_zero, Nat.zero_add]
    exact iff_of_true (pow_pos two_pos _) (pow_lt_pow_right₀ one_lt_two (by norm_num))
  · rw [← htop, double_lt_power_iff (Nat.cast_pos.mpr hn), htop, hhalf, ← Nat.cast_lt (α := ℚ), Nat.cast_add,
      Nat.cast_pow, Nat.cast_pow, Nat.cast_ofNat]

end RevenueRescue.Binary64
