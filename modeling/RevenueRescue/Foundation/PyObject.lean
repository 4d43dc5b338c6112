import RevenueRescue.Foundation.Double

namespace RevenueRescue

/-- An exception by its class. -/
inductive Raised
  | valueError
  | typeError
  | overflowError
  | other (name : String)
  deriving DecidableEq

namespace Raised

variable {α β : Type} {x : Except Raised α} {f : α → Except Raised β} {b : β}

theorem ok_of_bind (h : (x >>= f) = .ok b) : ∃ a, x = .ok a ∧ f a = .ok b := by
  cases x with
  | error raised => cases h
  | ok a => exact ⟨a, rfl, h⟩

/-- A computation with a next step goes through when both do. -/
theorem exists_ok_bind : (∃ b, (x >>= f) = .ok b) ↔ ∃ a, x = .ok a ∧ ∃ b, f a = .ok b := by
  constructor
  · rintro ⟨b, h⟩
    obtain ⟨a, hx, hf⟩ := ok_of_bind h
    exact ⟨a, hx, b, hf⟩
  · rintro ⟨a, rfl, b, h⟩
    exact ⟨b, h⟩

end Raised

/-- A value of any type, by what `int` and `str` do with it. -/
structure PyObject where
  int : Except Raised Int
  str : Except Raised String

namespace PyObject

/-- An integer that is short enough for `str`. -/
def ofInt (n : Int) : PyObject := ⟨.ok n, .ok (toString n)⟩

/-- A string, and what `int` reads in it. -/
def ofText (s : String) (int : Except Raised Int) : PyObject := ⟨int, .ok s⟩

def none : PyObject := ⟨.error .typeError, .ok "None"⟩

end PyObject

namespace PyFloat

/-- An integer that has a double. -/
def Converts (n : Int) : Prop := |double n| < 2 ^ 1024

instance (n : Int) : Decidable (Converts n) := inferInstanceAs (Decidable (_ < _))

/-- The conversion of an integer operand. -/
def ofInteger (n : Int) : Except Raised ℚ := if Converts n then .ok (double n) else .error .overflowError

def add (x y : ℚ) : ℚ := double (x + y)

def sub (x y : ℚ) : ℚ := double (x - y)

def mul (x y : ℚ) : ℚ := double (x * y)

def div (x y : ℚ) : ℚ := double (x / y)

/-- `round(x, digits)` -/
def roundDigits (digits : Nat) (x : ℚ) : ℚ := double (roundHalfEven (x * 10 ^ digits) / 10 ^ digits)

/-- `max(0.0, min(1.0, x))` -/
def clamp : PyFloat → ℚ
  | .num q => max 0 (min 1 q)
  | .posInf => 1
  | .negInf => 0
  | .nan => 1

theorem clamp_eq (x : PyFloat) : pyMax (ofInt 0) (pyMin (ofInt 1) x) = .num (clamp x) := by
  cases x with
  | num q =>
      by_cases h1 : q < 1
      · by_cases h0 : 0 < q
        · simp [pyMin, pyMax, ofInt, clamp, h1, h0, h1.le, h0.le]
        · simp [pyMin, pyMax, ofInt, clamp, h1, h0, h1.le, not_lt.mp h0]
      · simp [pyMin, pyMax, ofInt, clamp, h1, not_lt.mp h1]
  | posInf => simp [pyMin, pyMax, ofInt, clamp, lt]
  | negInf => simp [pyMin, pyMax, ofInt, clamp, lt]
  | nan => simp [pyMin, pyMax, ofInt, clamp]

theorem clamp_mem (x : PyFloat) : 0 ≤ clamp x ∧ clamp x ≤ 1 := by
  cases x <;> simp [clamp]

variable {x : ℚ} {n digits : Nat}

theorem ofInteger_ok_iff {k : Int} : (∃ x, ofInteger k = .ok x) ↔ Converts k := by
  rw [ofInteger]
  split <;> simp_all

theorem double_le_of_eq (h : 0 ≤ x) (hx : x ≤ n) (hn : double n = n) : double x ≤ n := (double_mono h hx).trans_eq hn

/-- Rounding to digits stays below a number that it keeps. -/
theorem roundDigits_mem (h : 0 ≤ x) (hx : x ≤ n) (hn : double n = n) :
    0 ≤ roundDigits digits x ∧ roundDigits digits x ≤ n := by
  have hpow : (0 : ℚ) < 10 ^ digits := by positivity
  have hscaled : x * 10 ^ digits ≤ ((n * 10 ^ digits : ℕ) : ℚ) := by
    push_cast
    exact mul_le_mul_of_nonneg_right hx hpow.le
  obtain ⟨hlow, hhigh⟩ := roundHalfEven_bounds (mul_nonneg h hpow.le) hscaled
  have hnonneg : (0 : ℚ) ≤ roundHalfEven (x * 10 ^ digits) / 10 ^ digits :=
    div_nonneg (by exact_mod_cast hlow) hpow.le
  have hle : (roundHalfEven (x * 10 ^ digits) : ℚ) / 10 ^ digits ≤ n := by
    rw [div_le_iff₀ hpow]
    exact_mod_cast hhigh
  exact ⟨double_nonneg hnonneg, double_le_of_eq hnonneg hle hn⟩

theorem roundDigits_unit (h : 0 ≤ x) (hx : x ≤ 1) : 0 ≤ roundDigits digits x ∧ roundDigits digits x ≤ 1 := by
  have hone : double ((1 : ℕ) : ℚ) = (1 : ℕ) := by simpa using double_one
  simpa using roundDigits_mem h (by simpa using hx) hone

theorem div_hundred_mem (h : 0 ≤ x) (hx : x ≤ 100) : 0 ≤ div x 100 ∧ div x 100 ≤ 1 := by
  have hnonneg : 0 ≤ x / 100 := div_nonneg h (by norm_num)
  have hone : x / 100 ≤ 1 := by
    rw [div_le_iff₀ (by norm_num)]
    simpa using hx
  exact ⟨double_nonneg hnonneg, (double_mono hnonneg hone).trans_eq double_one⟩

end PyFloat

end RevenueRescue
