import Mathlib.Algebra.Order.Archimedean.Basic
import Mathlib.Algebra.Order.Floor.Ring
import Mathlib.Data.Rat.Floor

namespace RevenueRescue

/-- A float as its exact value, with the values that are not numbers. -/
inductive PyFloat
  | num (q : ℚ)
  | posInf
  | negInf
  | nan
  deriving DecidableEq

namespace PyFloat

/-- The `<` of IEEE 754: false as soon as one side is NaN. -/
def lt : PyFloat → PyFloat → Bool
  | .num a, .num b => a < b
  | .num _, .posInf | .negInf, .num _ | .negInf, .posInf => true
  | _, _ => false

/-- The `<=` of IEEE 754, false against NaN like `lt`. -/
def le (x y : PyFloat) : Bool := lt x y || (decide (x = y) && decide (x ≠ .nan))

/-- `x` is no higher than `y`: it is `y`, or it compares below it. -/
def AtMost (x y : PyFloat) : Prop := x = y ∨ lt x y = true

def ofInt (n : Int) : PyFloat := .num n

/-- The check behind `Field(ge=0.0, le=1.0)`, which holds the value to both
comparisons, so that NaN fails it. -/
def inUnit (x : PyFloat) : Bool := le (ofInt 0) x && le x (ofInt 1)

/-- Python's `min` and `max` on two arguments keep the first one on a tie or
against NaN. -/
def pyMin (x y : PyFloat) : PyFloat := if lt y x then y else x

def pyMax (x y : PyFloat) : PyFloat := if lt x y then y else x

def roundHalfEven (q : ℚ) : ℤ :=
  if q - ⌊q⌋ < 1 / 2 then ⌊q⌋
  else if 1 / 2 < q - ⌊q⌋ then ⌊q⌋ + 1
  else if ⌊q⌋ % 2 = 0 then ⌊q⌋ else ⌊q⌋ + 1

def round4 : PyFloat → PyFloat
  | .num q => .num (mkRat (roundHalfEven (q * 10000)) 10000)
  | x => x

/-- `round(max(0.0, min(1.0, x)), 4)`. -/
def clampRound (x : PyFloat) : PyFloat := round4 (pyMax (ofInt 0) (pyMin (ofInt 1) x))

@[simp] theorem lt_num (a b : ℚ) : lt (.num a) (.num b) = decide (a < b) := rfl

@[simp] theorem nan_lt (x : PyFloat) : lt .nan x = false := by cases x <;> rfl

@[simp] theorem lt_nan (x : PyFloat) : lt x .nan = false := by cases x <;> rfl

theorem lt_trans {x y z : PyFloat} (hxy : lt x y = true) (hyz : lt y z = true) : lt x z = true := by
  cases x <;> cases y <;> cases z <;> simp_all [lt]
  exact hxy.trans hyz

theorem lt_of_atMost_of_lt {x y z : PyFloat} (hxy : AtMost x y) (hyz : lt y z = true) : lt x z = true := by
  rcases hxy with rfl | hxy
  · exact hyz
  · exact lt_trans hxy hyz

theorem lt_of_lt_of_atMost {x y z : PyFloat} (hxy : lt x y = true) (hyz : AtMost y z) : lt x z = true := by
  rcases hyz with rfl | hyz
  · exact hxy
  · exact lt_trans hxy hyz

/-- `<=` is the negation of the opposite `<` on numbers only. -/
theorem le_iff {x y : PyFloat} : le x y = true ↔ lt y x = false ∧ x ≠ .nan ∧ y ≠ .nan := by
  cases x <;> cases y <;> simp [le, lt, le_iff_lt_or_eq]

theorem inUnit_num (q : ℚ) : inUnit (.num q) = true ↔ 0 ≤ q ∧ q ≤ 1 := by
  simp [inUnit, ofInt, le_iff]

theorem inUnit_iff {x : PyFloat} : inUnit x = true ↔ le (ofInt 0) x = true ∧ le x (ofInt 1) = true := by
  rw [inUnit, Bool.and_eq_true]

theorem ne_nan_of_inUnit {x : PyFloat} (h : inUnit x = true) : x ≠ .nan :=
  (le_iff.mp (inUnit_iff.mp h).2).2.1

theorem not_one_lt {x : PyFloat} (h : inUnit x = true) : lt (ofInt 1) x = false :=
  (le_iff.mp (inUnit_iff.mp h).2).1

theorem roundHalfEven_bounds {q : ℚ} {n : ℤ} (h0 : 0 ≤ q) (h1 : q ≤ n) :
    0 ≤ roundHalfEven q ∧ roundHalfEven q ≤ n := by
  have hfloor : 0 ≤ ⌊q⌋ := Int.floor_nonneg.mpr h0
  have hle : ⌊q⌋ ≤ n := by exact_mod_cast (Int.floor_le q).trans h1
  -- Rounding up needs a fractional part, and then the floor is below `n`.
  have hlt (hfrac : 1 / 2 ≤ q - ⌊q⌋) : ⌊q⌋ + 1 ≤ n := by
    have h : (⌊q⌋ : ℚ) < n := by linarith
    exact_mod_cast h
  unfold roundHalfEven
  split_ifs with ha hb hc
  · exact ⟨hfloor, hle⟩
  · exact ⟨by omega, hlt hb.le⟩
  · exact ⟨hfloor, hle⟩
  · exact ⟨by omega, hlt (not_lt.mp ha)⟩

theorem clamp_num (x : PyFloat) :
    ∃ q : ℚ, pyMax (ofInt 0) (pyMin (ofInt 1) x) = .num q ∧ 0 ≤ q ∧ q ≤ 1 := by
  cases x with
  | num q =>
      by_cases h1 : q < 1
      · by_cases h0 : 0 < q
        · exact ⟨q, by simp [pyMin, pyMax, ofInt, h1, h0], h0.le, h1.le⟩
        · exact ⟨0, by simp [pyMin, pyMax, ofInt, h1, h0], le_rfl, zero_le_one⟩
      · exact ⟨1, by simp [pyMin, pyMax, ofInt, h1], zero_le_one, le_rfl⟩
  | posInf => exact ⟨1, by simp [pyMin, pyMax, ofInt, lt], zero_le_one, le_rfl⟩
  | negInf => exact ⟨0, by simp [pyMin, pyMax, ofInt, lt], le_rfl, zero_le_one⟩
  | nan => exact ⟨1, by simp [pyMin, pyMax, ofInt], zero_le_one, le_rfl⟩

theorem clampRound_inUnit (x : PyFloat) : inUnit (clampRound x) = true := by
  obtain ⟨q, hq, h0, h1⟩ := clamp_num x
  obtain ⟨hr0, hr1⟩ := roundHalfEven_bounds (q := q * 10000) (n := 10000)
    (by positivity) (by push_cast; linarith)
  have hcast : (mkRat (roundHalfEven (q * 10000)) 10000 : ℚ) = roundHalfEven (q * 10000) / 10000 := by
    rw [Rat.mkRat_eq_div]; norm_num
  have hr0' : (0 : ℚ) ≤ roundHalfEven (q * 10000) := by exact_mod_cast hr0
  have hr1' : (roundHalfEven (q * 10000) : ℚ) ≤ 10000 := by exact_mod_cast hr1
  rw [clampRound, hq, round4, inUnit_num, hcast]
  exact ⟨by positivity, by rwa [div_le_one (by norm_num)]⟩

end PyFloat

end RevenueRescue
