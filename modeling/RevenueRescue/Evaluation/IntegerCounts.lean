import Mathlib.Tactic.Linarith
import Mathlib.Tactic.Positivity
import RevenueRescue.Foundation.Binary64
import RevenueRescue.Evaluation.ThresholdSelection

/-! `classification_metrics_from_counts` on integers, as Python computes it: the
sums and products of counts are exact, every quotient is a double. -/

namespace RevenueRescue.Evaluation.IntegerCounts

open Binary64
open PyFloat (ofInteger Converts)

/-- What `set` keeps of a float: NaN and the infinities are stored as `None`. -/
def finite : PyFloat → Option ℚ
  | .num x => some x
  | _ => none

/-- `_ratio` -/
def ratio (num den : Int) : Except Raised (Option ℚ) :=
  if den = 0 then .ok none else (trueDivide num den).map some

def balancedAccuracy (rec spec : Option ℚ) : Except Raised (Option ℚ) :=
  match rec, spec with
  | some rec, some spec => (div (add (.num rec) (.num spec)) (.num 2)).map finite
  | _, _ => .ok none

def mcc (c : Counts Int) : Except Raised (Option ℚ) :=
  let den := (c.tp + c.fp) * (c.tp + c.fn) * (c.tn + c.fp) * (c.tn + c.fn)
  if den = 0 then .ok none
  else do
    let root ← sqrt (.num (← ofInteger den))
    let cross ← ofInteger (c.tp * c.tn - c.fp * c.fn)
    (div (.num cross) root).map finite

def cohenKappa (po pe : ℚ) : Except Raised (Option ℚ) :=
  if Binary64.isclose (.num pe) (.num 1) then .ok none
  else (div (sub (.num po) (.num pe)) (sub (.num 1) (.num pe))).map finite

def classificationMetrics (c : Counts Int) : Except Raised (MetricResult Metric ℚ) := do
  let n := c.tn + c.fp + c.fn + c.tp
  let pos := c.tp + c.fn
  let neg := c.tn + c.fp
  let predPos := c.tp + c.fp
  let predNeg := c.tn + c.fn
  let out : MetricResult Metric ℚ := {}
  let out := out.set .accuracy (some (← trueDivide (c.tp + c.tn) n))
  let out := out.set .precision (← ratio c.tp predPos) (some "no predicted positives (TP + FP = 0)")
  let out := out.set .recall (← ratio c.tp pos) (some "no actual positives (TP + FN = 0)")
  let out := out.set .specificity (← ratio c.tn neg) (some "no actual negatives (TN + FP = 0)")
  let out := out.set .npv (← ratio c.tn predNeg) (some "no predicted negatives (TN + FN = 0)")
  let out := out.set .fpr (← ratio c.fp neg) (some "no actual negatives (TN + FP = 0)")
  let out := out.set .fnr (← ratio c.fn pos) (some "no actual positives (TP + FN = 0)")
  let out := out.set .f1 (← ratio (2 * c.tp) (2 * c.tp + c.fp + c.fn)) (some "TP + FP + FN = 0")
  let balanced ← balancedAccuracy (out.values .recall).join (out.values .specificity).join
  let out := out.set .balancedAccuracy balanced (some "requires both actual classes")
  let out := out.set .mcc (← mcc c) (some "a confusion-matrix margin is zero (single class actual or predicted)")
  let po ← trueDivide (c.tp + c.tn) n
  let pe ← trueDivide (predPos * pos + predNeg * neg) (n * n)
  let out := out.set .cohenKappa (← cohenKappa po pe) (some "expected agreement p_e = 1")
  return out.set .coverage (some (← trueDivide predPos n))

def classificationMetricsFromCounts (c : Counts Int) : Except Raised (MetricResult Metric ℚ) :=
  if c.tn + c.fp + c.fn + c.tp ≤ 0 then .error (.other "MetricInputError") else classificationMetrics c

/-- The counts as the integers that they are. -/
def ofNat (c : Counts Nat) : Counts Int := ⟨c.tn, c.fp, c.fn, c.tp⟩

/-- A share of a whole, where it has one. -/
def Share (r : Option ℚ) : Prop := ∀ x ∈ r, 0 ≤ x ∧ x ≤ 1

theorem ratio_share {num den : ℤ} (h0 : 0 ≤ num) (h1 : num ≤ den) :
    ∃ r, ratio num den = .ok r ∧ (r = none ↔ den = 0) ∧ Share r := by
  unfold ratio
  split_ifs with hden
  · exact ⟨none, rfl, iff_of_true rfl hden, by simp [Share]⟩
  · obtain ⟨hok, hunit⟩ := trueDivide_share h0 h1 hden
    refine ⟨some _, by rw [hok]; rfl, iff_of_false (Option.some_ne_none _) hden, fun x hx => ?_⟩
    obtain rfl := Option.some.inj hx
    exact hunit

theorem div_finite {a b : ℚ} (hb : b ≠ 0) (h : |a / b| ≤ 2 ^ 1000) :
    ∃ x, (div (.num a) (.num b)).map finite = .ok (some x) :=
  ⟨nearest (a / b), by rw [div, if_neg hb, round_eq h]; rfl⟩

theorem abs_le_power {x : ℚ} (h : |x| ≤ 2 ^ 40) : |x| ≤ 2 ^ 1000 :=
  h.trans (pow_le_pow_right₀ (by norm_num) (by norm_num))

theorem balancedAccuracy_ok {r s : Option ℚ} (hr : Share r) (hs : Share s) :
    ∃ b, balancedAccuracy r s = .ok b ∧ (b = none ↔ r = none ∨ s = none) := by
  cases r with
  | none => exact ⟨none, rfl, by simp⟩
  | some x =>
      cases s with
      | none => exact ⟨none, rfl, by simp⟩
      | some y =>
          obtain ⟨hx0, hx1⟩ := hr x rfl
          obtain ⟨hy0, hy1⟩ := hs y rfl
          have hsum : |x + y| ≤ 2 := abs_le.mpr ⟨by linarith, by linarith⟩
          have hround : |nearest (x + y) / 2| ≤ 2 ^ 40 := by
            rw [abs_div]
            norm_num
            linarith [abs_nearest_le (x + y)]
          obtain ⟨b, hb⟩ := div_finite two_ne_zero (abs_le_power hround)
          refine ⟨some b, ?_, by simp⟩
          rw [balancedAccuracy, add, round_eq (abs_le_power (hsum.trans (by norm_num))), hb]

theorem cohenKappa_ok {po pe : ℚ} (ho0 : 0 ≤ po) (ho1 : po ≤ 1) (h0 : 0 ≤ pe) (h1 : pe ≤ 1) :
    ∃ k, cohenKappa po (nearest pe) = .ok k ∧ (k = none ↔ 1 - pe < margin) := by
  obtain ⟨hp0, hp1⟩ := nearest_mem_unit h0 h1
  unfold cohenKappa
  split_ifs with hclose
  · exact ⟨none, rfl, iff_of_true rfl ((isclose_one_iff h0 h1).mp hclose)⟩
  · have hfar : ¬ 1 - pe < margin := fun h => hclose ((isclose_one_iff h0 h1).mpr h)
    have hgap : 9007200 / 2 ^ 53 ≤ nearest (1 - nearest pe) := le_one_sub_nearest h0 (not_lt.mp hfar)
    have hnum : |nearest (po - nearest pe)| ≤ 3 := by
      have hle : |po - nearest pe| ≤ 1 := abs_le.mpr ⟨by linarith, by linarith⟩
      linarith [abs_nearest_le (po - nearest pe)]
    have hquot : |nearest (po - nearest pe) / nearest (1 - nearest pe)| ≤ 2 ^ 40 := by
      have hpos : 0 < nearest (1 - nearest pe) := (by norm_num : (0 : ℚ) < 9007200 / 2 ^ 53).trans_le hgap
      rw [abs_div, abs_of_pos hpos, div_le_iff₀ hpos]
      linarith
    have hpos : nearest (1 - nearest pe) ≠ 0 := ((by norm_num : (0 : ℚ) < 9007200 / 2 ^ 53).trans_le hgap).ne'
    obtain ⟨k, hk⟩ := div_finite hpos (abs_le_power hquot)
    refine ⟨some k, ?_, iff_of_false (Option.some_ne_none k) hfar⟩
    have hsub (a : ℚ) (ha0 : 0 ≤ a) (ha1 : a ≤ 1) : sub (.num a) (.num (nearest pe)) = .num (nearest (a - nearest pe)) := by
      have hle : |a - nearest pe| ≤ 2 ^ 40 := abs_le.mpr ⟨by linarith, by linarith⟩
      rw [sub, neg, add, ← sub_eq_add_neg, round_eq (abs_le_power hle)]
    rw [hsub po ho0 ho1, hsub 1 zero_le_one le_rfl, hk]

/-- The product of the four margins. -/
def margins (c : Counts Nat) : Nat := (c.tp + c.fp) * (c.tp + c.fn) * (c.tn + c.fp) * (c.tn + c.fn)

/-- The product of the margins has a double. -/
def Representable (c : Counts Nat) : Prop := margins c + 2 ^ 970 < 2 ^ 1024

variable {c : Counts Nat}

theorem margins_cast : ((margins c : Nat) : ℤ) = ((c.tp : ℤ) + c.fp) * (c.tp + c.fn) * (c.tn + c.fp) * (c.tn + c.fn) := by
  simp only [margins, Nat.cast_mul, Nat.cast_add]

/-- The cross products are no more than the root of the product of the margins. -/
theorem cross_sq_le (c : Counts Nat) : (c.tp * c.tn + c.fp * c.fn) * (c.tp * c.tn + c.fp * c.fn) ≤ margins c := by
  have h1 : c.tp * c.tn + c.fp * c.fn ≤ (c.tp + c.fp) * (c.tn + c.fn) := by
    rw [add_mul, mul_add, mul_add]
    omega
  have h2 : c.tp * c.tn + c.fp * c.fn ≤ (c.tp + c.fn) * (c.tn + c.fp) := by
    rw [add_mul, mul_add, mul_add, mul_comm c.fn c.fp]
    omega
  calc _ ≤ (c.tp + c.fp) * (c.tn + c.fn) * ((c.tp + c.fn) * (c.tn + c.fp)) := Nat.mul_le_mul h1 h2
    _ = margins c := by rw [margins]; ring

theorem margins_lt (h : Representable c) : (margins c : ℚ) < 2 ^ 512 * 2 ^ 512 := by
  rw [Representable, ← Nat.cast_lt (α := ℚ), Nat.cast_add, Nat.cast_pow, Nat.cast_pow, Nat.cast_ofNat] at h
  calc (margins c : ℚ) ≤ margins c + 2 ^ 970 := le_add_of_nonneg_right (pow_nonneg two_pos.le _)
    _ < 2 ^ 1024 := h
    _ = 2 ^ 512 * 2 ^ 512 := by rw [← pow_add]

theorem abs_cross_le (h : Representable c) : |(((c.tp : ℤ) * c.tn - c.fp * c.fn : ℤ) : ℚ)| ≤ 2 ^ 512 := by
  have hsq : (((c.tp * c.tn + c.fp * c.fn) * (c.tp * c.tn + c.fp * c.fn) : ℕ) : ℚ) < 2 ^ 512 * 2 ^ 512 :=
    (Nat.cast_le.mpr (cross_sq_le c)).trans_lt (margins_lt h)
  have hpow : (0 : ℚ) ≤ 2 ^ 512 := pow_nonneg two_pos.le _
  generalize (2 : ℚ) ^ 512 = b at hsq hpow ⊢
  clear h
  push_cast at hsq ⊢
  have hlt := lt_of_mul_self_lt_mul_self₀ hpow hsq
  have htp : (0 : ℚ) ≤ (c.tp : ℚ) * c.tn := by positivity
  have hfp : (0 : ℚ) ≤ (c.fp : ℚ) * c.fn := by positivity
  exact abs_le.mpr ⟨by linarith, by linarith⟩

theorem mcc_ok (h : Representable c) : ∃ r, mcc (ofNat c) = .ok r ∧ (r = none ↔ margins c = 0) := by
  have hzero : ((c.tp : ℤ) + c.fp) * (c.tp + c.fn) * (c.tn + c.fp) * (c.tn + c.fn) = 0 ↔ margins c = 0 := by
    rw [← margins_cast, Nat.cast_eq_zero]
  by_cases hden : margins c = 0
  · exact ⟨none, if_pos (hzero.mpr hden), iff_of_true rfl hden⟩
  · have hone : (1 : ℚ) ≤ (margins c : ℤ) := by exact_mod_cast Nat.pos_of_ne_zero hden
    have hroot := one_le_nearestSqrt (one_le_double hone)
    have hpos := zero_lt_one.trans_le hroot
    have hcross := abs_cross_le h
    have hdouble : |PyFloat.double (((c.tp : ℤ) * c.tn - c.fp * c.fn : ℤ) : ℚ)| ≤ 2 ^ 513 :=
      (abs_double_le _).trans ((mul_le_mul_of_nonneg_left hcross two_pos.le).trans_eq (pow_succ' 2 512).symm)
    have hconverts : Converts ((c.tp : ℤ) * c.tn - c.fp * c.fn) :=
      hdouble.trans_lt (pow_lt_pow_right₀ one_lt_two (by norm_num))
    have hquot : |PyFloat.double (((c.tp : ℤ) * c.tn - c.fp * c.fn : ℤ) : ℚ) /
        nearestSqrt (PyFloat.double ((margins c : ℤ) : ℚ))| ≤ 2 ^ 1000 := by
      rw [abs_div, abs_of_pos hpos]
      exact (div_le_self (abs_nonneg _) hroot).trans (hdouble.trans (pow_le_pow_right₀ one_le_two (by norm_num)))
    obtain ⟨x, hx⟩ := div_finite hpos.ne' hquot
    refine ⟨some x, ?_, iff_of_false (Option.some_ne_none x) hden⟩
    have hsqrt : sqrt (.num (PyFloat.double ((margins c : ℤ) : ℚ))) =
        .ok (.num (nearestSqrt (PyFloat.double ((margins c : ℤ) : ℚ)))) :=
      if_neg (not_lt.mpr (zero_le_one.trans (one_le_double hone)))
    have hofden : ofInteger (margins c) = .ok (PyFloat.double ((margins c : ℤ) : ℚ)) := if_pos (converts_iff.mpr h)
    have hofcross : ofInteger ((c.tp : ℤ) * c.tn - c.fp * c.fn) = .ok _ := if_pos hconverts
    simp only [mcc, ofNat, ← margins_cast, Nat.cast_eq_zero, hden, if_false, hofden, hofcross]
    show (do let root ← sqrt _; (div _ root).map finite) = _
    rw [hsqrt]
    exact hx

theorem mcc_overflow (h : ¬ Representable c) : mcc (ofNat c) = .error .overflowError := by
  have hden : margins c ≠ 0 := by
    intro hzero
    rw [Representable, hzero, Nat.zero_add] at h
    exact h (pow_lt_pow_right₀ one_lt_two (by norm_num))
  have hofden : ofInteger (margins c) = .error .overflowError := if_neg fun hc => h (converts_iff.mp hc)
  simp only [mcc, ofNat, ← margins_cast, Nat.cast_eq_zero, hden, if_false, hofden]
  rfl

end RevenueRescue.Evaluation.IntegerCounts
